import AssetCheck.Proofs.AssetPaths
import AssetCheck.Proofs.Substitutions

/-!
# The tokens of an asset

The report and the output of an asset differ from each other in the lead and from the asset in
length, so the substitutions of an asset always exist (`ofAsset_ok`). Two assets have a report in
common just where they have an output in common (`shared_iff`).
-/

namespace AssetCheck

namespace Substitutions

/-- **Tokens.** Every asset has its substitutions. -/
theorem ofAsset_ok (path : String) :
    ∃ subs, ofAsset path = .ok subs ∧
      subs.entries =
        [(assetInput, AssetPath.normalize path),
          (reportPath, AssetPath.report (AssetPath.normalize path)),
          (assetOutput, AssetPath.output (AssetPath.normalize path))] := by
  have htokens : [assetInput, reportPath, assetOutput].Nodup := by decide
  refine exists_ofPairs ⟨htokens, ?_⟩
  generalize AssetPath.normalize path = input
  show [input, AssetPath.report input, AssetPath.output input].Nodup
  simp [AssetPath.ne_report, AssetPath.ne_output, AssetPath.report_ne_output]

theorem get?_ofAsset {path : String} {subs : Substitutions} (h : ofAsset path = .ok subs) :
    subs.get? assetInput = some (AssetPath.normalize path) ∧
      subs.get? reportPath = some (AssetPath.report (AssetPath.normalize path)) := by
  obtain ⟨subs', hsubs, hentries⟩ := ofAsset_ok path
  rw [hsubs] at h
  cases h
  have hne : assetInput ≠ reportPath := by decide
  unfold get?
  rw [hentries]
  simp [hne]

/-- The tokens of an asset give these paths for its report and for its output. -/
def Gives (asset report output : String) : Prop :=
  ∃ subs, ofAsset asset = .ok subs ∧ subs.get? reportPath = some report ∧
    subs.get? assetOutput = some output

theorem gives_ofAsset (asset : String) :
    Gives asset (AssetPath.report (AssetPath.normalize asset))
      (AssetPath.output (AssetPath.normalize asset)) := by
  obtain ⟨subs, hsubs, hentries⟩ := ofAsset_ok asset
  have hinput : assetInput ≠ assetOutput := by decide
  have hreport : reportPath ≠ assetOutput := by decide
  refine ⟨subs, hsubs, (get?_ofAsset hsubs).2, ?_⟩
  unfold get?
  rw [hentries]
  simp [hinput, hreport]

open AssetPath (normalize Doubles) in
/-- **Shared paths.** Two assets have one report if and only if they have one output, and that is
where their paths with forward slashes are equal, or one of these has the last slash of the other
doubled. The report of an asset is never the output of one. -/
theorem shared_iff (asset other : String) :
    ∃ report output report' output',
      Gives asset report output ∧ Gives other report' output' ∧
      (report = report' ↔ output = output') ∧
      (report = report' ↔ normalize asset = normalize other ∨
        Doubles (normalize asset) (normalize other) ∨
        Doubles (normalize other) (normalize asset)) ∧
      report ≠ output' :=
  ⟨_, _, _, _, gives_ofAsset asset, gives_ofAsset other,
    AssetPath.report_eq_iff.trans AssetPath.output_eq_iff.symm, AssetPath.report_eq_iff,
    AssetPath.report_ne_output _ _⟩

end Substitutions

end AssetCheck
