import AssetCheck.Proofs.Chain.Ancestry
import AssetCheck.Proofs.Step
import AssetCheck.Report.Collect

/-!
# Which nodes are diagnosed

On any host, the diagnostics of a report are those of the nodes before its position whose types are
not types of loaders, one for each and in their order (`nodeTypes_of_fromChain`). What the host
answers decides what they say, and whether there is a report.
-/

namespace AssetCheck

theorem Verdict.nodeType_of_classify {name typeName : String} {warnings errors : List String}
    {config : Config} {d : Diagnostic}
    (h : classify name typeName warnings errors config = .ok d) : d.nodeType = typeName := by
  unfold classify at h
  dsimp only at h
  split at h
  · cases h
    rfl
  · split at h
    · split at h <;> cases h
      rfl
    · split at h <;> cases h <;> rfl

namespace Collect

variable {σ : Type} {h : Host σ} {setting : Setting} {s t : σ}

theorem nodeType_of_diagnostic {node : TypedNode} {d : Diagnostic}
    (hstep : diagnostic h setting node s = .ok d t) : d.nodeType = node.2 := by
  obtain ⟨name, _, -, hnamed⟩ := exists_ok_of_step_bind hstep
  obtain ⟨warnings, _, -, hwarned⟩ := exists_ok_of_step_bind hnamed
  obtain ⟨errors, _, -, hread⟩ := exists_ok_of_step_bind hwarned
  cases hclassify : Verdict.classify name node.2 warnings errors setting.config with
  | error e =>
    rw [hclassify] at hread
    cases hread
  | ok verdict =>
    rw [hclassify] at hread
    cases hread
    exact Verdict.nodeType_of_classify hclassify

theorem nodeTypes_of_diagnostics {nodes : List TypedNode} {ds : List Diagnostic}
    (hsteps : diagnostics h setting nodes s = .ok ds t) :
    ds.map (·.nodeType) =
      (nodes.map Prod.snd).filter fun type => !setting.config.isLoader type := by
  induction nodes generalizing s ds with
  | nil =>
    cases hsteps
    rfl
  | cons node rest ih =>
    unfold diagnostics at hsteps
    split at hsteps
    · next hloader =>
      rw [List.map_cons, List.filter_cons_of_neg (by simpa using hloader)]
      exact ih hsteps
    · next hother =>
      obtain ⟨d, _, hfirst, hothers⟩ := exists_ok_of_step_bind hsteps
      obtain ⟨others, _, hrest, hpure⟩ := exists_ok_of_step_bind hothers
      cases hpure
      rw [List.map_cons, List.map_cons, List.filter_cons_of_pos (by simpa using hother), ih hrest,
        nodeType_of_diagnostic hfirst]

/-- The diagnostics of a report on a linear chain are those of the nodes that are no loaders. -/
theorem nodeTypes_of_fromChain {c : Chain} (hlinear : c.Linear) {position : Nat} {report : Report}
    (hcollect : fromChain h setting c position s = .ok report t) :
    report.diagnostics.map (·.nodeType) =
      ((c.nodes.map (·.typeName)).take position).filter
        fun type => !setting.config.isLoader type := by
  unfold fromChain at hcollect
  cases hterminal : c.node? position with
  | none =>
    rw [hterminal] at hcollect
    cases hcollect
  | some terminal =>
    rw [hterminal] at hcollect
    obtain ⟨_, _, -, hcooked⟩ := exists_ok_of_step_bind hcollect
    obtain ⟨_, _, -, hfound⟩ := exists_ok_of_step_bind hcooked
    obtain ⟨ds, _, hdiagnostics, hpure⟩ := exists_ok_of_step_bind hfound
    cases hpure
    rw [nodeTypes_of_diagnostics hdiagnostics,
      Chain.ancestors_of_linear hlinear (Chain.node?_lt hterminal), List.map_map, ← List.map_take]
    rfl

end Collect

end AssetCheck
