import AssetCheck.Proofs.Build.Discipline
import AssetCheck.Proofs.Build.InTurn

/-!
# Every asset has its tokens

The tokens of an asset are three, for the asset with forward slashes and for two files next to it,
and no two of them stand for one path. So substitutions are never refused: neither for an asset,
however its path is written, nor in a run, on any host (`ofAsset_total`). The way in which slashes
are written does not matter, and nothing else of the path is lost.
-/

namespace AssetCheck

/-! ## Paths with forward slashes -/

namespace AssetPath

theorem backslash_not_mem_beside {path lead tail : String} (hpath : '\\' ∉ path.toList)
    (hlead : '\\' ∉ lead.toList) (htail : '\\' ∉ tail.toList) :
    '\\' ∉ (beside path lead tail).toList := by
  intro hmem
  rcases mem_beside hmem with h | h | h | h
  · exact absurd h (by decide)
  · exact hpath h
  · exact hlead h
  · exact htail h

end AssetPath

/-! ## Refusals in a run -/

section Refusals

variable {σ : Type}

/-- No call that fails is about substitutions. -/
theorem Call.fault?_ne_repeated {typeName : String} {call : Call} {reason : BuildError}
    (h : call.fault? typeName = some reason) (text : String) :
    reason ≠ .repeatedSubstitution text := by
  rintro rfl
  unfold fault? at h
  split at h <;> cases h

theorem build_ne_repeated {h : Host σ} {spec : PipelineSpec} {subs : Substitutions}
    {bench bench' : Workbench σ} {reason : BuildError}
    (hbuild : build h spec subs bench = .error reason bench') (text : String) :
    reason ≠ .repeatedSubstitution text := by
  have hlogged := build_logged h spec subs ⟨(bench.host, []), bench.nextChain⟩ bench ⟨rfl, rfl⟩
  have hcalls := build_logged_leads h spec subs ⟨(bench.host, []), bench.nextChain⟩ rfl
  rw [hbuild] at hlogged
  obtain ⟨kept, hkept, -⟩ := hlogged.exists_error
  rw [hkept] at hcalls
  obtain ⟨-, before, failed, undone, done, node, rest, -, -, -, -, hfault, -⟩ := hcalls
  exact Call.fault?_ne_repeated hfault text

namespace Session

variable {session : Session σ} {spec : PipelineSpec} {assets : List String}

theorem buildAll_ne_repeated {bench bench' : Workbench σ} {reason : BuildError}
    (h : session.buildAll spec assets bench = .error reason bench') (text : String) :
    reason ≠ .repeatedSubstitution text := by
  induction assets generalizing bench with
  | nil => cases h
  | cons asset rest ih =>
    obtain ⟨subs, hsubs, -⟩ := Substitutions.ofAsset_ok asset
    unfold buildAll at h
    rw [hsubs] at h
    dsimp only at h
    cases hbuild : build session.host spec subs bench with
    | error e next =>
      rw [bind_error hbuild] at h
      cases h
      exact build_ne_repeated hbuild text
    | ok first next =>
      rw [bind_ok hbuild] at h
      cases hrest : session.buildAll spec rest next with
      | error e last =>
        rw [bind_error hrest] at h
        cases h
        exact ih hrest
      | ok others last =>
        rw [bind_ok hrest] at h
        cases h

theorem run_ne_repeated {stage stage' : Stage σ} {failure : Failure}
    (h : session.run spec assets stage = .error failure stage') (text : String) :
    failure ≠ .build (.repeatedSubstitution text) := by
  unfold run at h
  split at h
  · next hbuild =>
    cases h
    exact fun he => buildAll_ne_repeated hbuild text (Failure.build.inj he)
  · dsimp only at h
    split at h
    · cases h
    · next e last hsave =>
      rintro rfl
      cases h
      unfold saveScene at hsave
      split at hsave
      · cases hsave
      · split at hsave <;> cases hsave

end Session

end Refusals

/-! ## The tokens of an asset -/

namespace Substitutions

theorem ofAsset_eq_iff {path other : String} :
    ofAsset path = ofAsset other ↔ AssetPath.normalize path = AssetPath.normalize other := by
  constructor
  · intro h
    obtain ⟨subs, hsubs, -⟩ := ofAsset_ok path
    have hpath := (get?_ofAsset hsubs).1
    have hother := (get?_ofAsset (h ▸ hsubs)).1
    exact Option.some.inj (hpath.symm.trans hother)
  · intro h
    unfold ofAsset
    rw [h]

open AssetPath (normalize) in
/-- **Tokens.** Any path has its substitutions. There are three tokens; the first stands for the
path with forward slashes, no two of them for the same, and none for a path with a backslash. Paths
have the same substitutions if they are equal but for the way in which slashes are written. So no
substitution is refused as repeated, nor does a run end with that. -/
theorem ofAsset_total (path : String) :
    (∃ subs report output, ofAsset path = .ok subs ∧
      subs.entries =
        [(assetInput, normalize path), (reportPath, report), (assetOutput, output)] ∧
      normalize path ≠ report ∧ normalize path ≠ output ∧ report ≠ output ∧
      '\\' ∉ (normalize path).toList ∧ '\\' ∉ report.toList ∧ '\\' ∉ output.toList) ∧
    (normalize path).toList = (path.toList.map fun c => if c = '\\' then '/' else c) ∧
    (∀ other, ofAsset path = ofAsset other ↔ normalize path = normalize other) ∧
    (∀ repeated, ofAsset path ≠ .error repeated) ∧
    ∀ {σ : Type} (session : Session σ) (spec : PipelineSpec) (assets : List String)
      (stage stage' : Stage σ) (text : String),
      session.run spec assets stage ≠ .error (.build (.repeatedSubstitution text)) stage' := by
  obtain ⟨subs, hsubs, hentries⟩ := ofAsset_ok path
  have hinput := AssetPath.backslash_not_mem_normalize path
  refine ⟨⟨subs, _, _, hsubs, hentries, AssetPath.ne_report _, AssetPath.ne_output _,
      AssetPath.report_ne_output _ _, hinput, ?_, ?_⟩,
    AssetPath.toList_normalize path, fun other => ofAsset_eq_iff, ?_, ?_⟩
  · exact AssetPath.backslash_not_mem_beside hinput (by decide) (by decide)
  · exact AssetPath.backslash_not_mem_beside hinput (by decide) (by decide)
  · intro repeated hrepeated
    cases hsubs.symm.trans hrepeated
  · intro σ session spec assets stage stage' text h
    exact Session.run_ne_repeated h text rfl

end Substitutions

end AssetCheck
