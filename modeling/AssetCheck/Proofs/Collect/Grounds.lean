import AssetCheck.Proofs.Collect.Verdicts
import AssetCheck.Proofs.Scene.Handles

/-!
# Why there is no report

A sound scene answers all that is asked about its nodes in the course of making a report. So over
nodes that are there a report is not refused by the scene (`fromNodes_settles`): there is one, or it
has no path of an asset to name, or one of the nodes gives a warning that cannot be read.
-/

namespace AssetCheck

open Scene (host Sound)

/-- The nodes have no report, and the host has refused nothing. -/
def ReportError.isOfNodes : ReportError → Bool
  | .malformedWarning .. | .missingLoader _ => true
  | .versionMismatch .. | .host _ | .io _ | .json _ => false

/-- A sound scene with some nodes. -/
def Scene.Live (handles : List NodeHandle) (s : Scene) : Prop :=
  Sound s ∧ ∀ handle ∈ handles, handle ∈ s.nodes.keys

theorem Scene.Live.keeps {handles : List NodeHandle} (request : Request)
    (hr : request.collects = true) : Keeps (Live handles) (host.perform request) := by
  intro s hs
  have hgraph : SameGraph s (stateAfter (host.perform request) s) :=
    perform_sameGraph (changesGraph_of_collects hr) s
  refine ⟨hs.1.sameGraph hgraph, ?_⟩
  rw [hgraph.keys]
  exact hs.2

namespace Collect

open Scene (Live)

section Grounds

variable {handles : List NodeHandle} (setting : Setting)

/-- The step comes to an answer, or finds that the nodes have no report. -/
abbrev Settles {α : Type} (handles : List NodeHandle) (step : EStateM ReportError Scene α) : Prop :=
  Leads (Live handles) step (fun _ => Live handles) fun e _ => e.isOfNodes = true

theorem ask_settles (request : Request) (hquery : request.isQuery = true)
    (hmem : request.subjects ⊆ handles) : Settles handles (ask (host.perform request)) := by
  intro s hs
  obtain ⟨a, ha⟩ := hs.1.exists_answer hquery fun handle hsubject => hs.2 handle (hmem hsubject)
  rw [ask_ok ha]
  exact hs

theorem cookSuccess_settles (node : NodeHandle) : Settles handles (cookSuccess host node) := by
  intro s hs
  have hafter := cookSuccess_keeps Live.keeps node s hs
  unfold stateAfter at hafter
  unfold cookSuccess at hafter ⊢
  cases hcook : host.cook node s <;> rw [hcook] at hafter <;> exact hafter

theorem missingLoader_settles {α : Type} (terminal : NodeHandle) :
    Settles handles (missingLoader host terminal : EStateM ReportError Scene α) := by
  have hname : Settles handles (nameOrLabel host terminal) := by
    intro s hs
    have hafter := nameOrLabel_keeps Live.keeps terminal s hs
    unfold stateAfter at hafter
    unfold nameOrLabel at hafter ⊢
    cases hresult : host.nodeName terminal s <;> rw [hresult] at hafter <;> exact hafter
  exact hname.bind fun _ => .throw fun _ _ => rfl

theorem assetPath_settles (terminal : NodeHandle) {nodes : List TypedNode}
    (hnodes : ∀ node ∈ nodes, node.1 ∈ handles) :
    Settles handles (assetPath host setting terminal nodes) := by
  cases nodes with
  | nil => exact missingLoader_settles terminal
  | cons loader rest =>
    intro s hs
    obtain ⟨n, hn⟩ := Table.mem_keys_iff.1 (hs.2 _ (hnodes loader List.mem_cons_self))
    have hfind := ask_ok (Scene.findParameter_eq hn setting.config.loaderParameter)
    unfold assetPath
    dsimp only
    rw [bind_ok hfind]
    cases hvalue : n.parameters.get? setting.config.loaderParameter with
    | none =>
      rw [if_neg (Table.get?_eq_none_iff.1 hvalue)]
      exact missingLoader_settles terminal s hs
    | some value =>
      rw [if_pos (Table.mem_keys_iff.2 ⟨value, hvalue⟩)]
      dsimp only
      rw [bind_ok (ask_ok (Scene.parameterValue_eq hn hvalue))]
      exact hs

theorem diagnostic_settles {node : TypedNode} (hnode : node.1 ∈ handles) :
    Settles handles (diagnostic host setting node) := by
  have hsubject : [node.1] ⊆ handles := List.cons_subset.2 ⟨hnode, List.nil_subset _⟩
  refine (ask_settles (.nodeName node.1) rfl hsubject).bind fun name => ?_
  refine (ask_settles (.warnings node.1) rfl hsubject).bind fun warnings => ?_
  refine (ask_settles (.errors node.1) rfl hsubject).bind fun errors => ?_
  cases hverdict : Verdict.classify name node.2 warnings errors setting.config with
  | ok d => exact .pure fun _ h => h
  | error e =>
    obtain ⟨_, _, _, -, rfl⟩ := Verdict.exists_of_classify_error hverdict
    exact .throw fun _ _ => rfl

theorem diagnostics_settles {nodes : List TypedNode} (hnodes : ∀ node ∈ nodes, node.1 ∈ handles) :
    Settles handles (diagnostics host setting nodes) := by
  induction nodes with
  | nil => exact .pure fun _ h => h
  | cons node rest ih =>
    obtain ⟨hnode, hrest⟩ := List.forall_mem_cons.1 hnodes
    unfold diagnostics
    split
    · exact ih hrest
    · exact (diagnostic_settles setting hnode).bind fun _ =>
        (ih hrest).bind fun _ => .pure fun _ h => h

/-- **Grounds.** Over nodes of a sound scene, a report fails only for what the nodes say. -/
theorem fromNodes_settles (terminal : NodeHandle) {nodes : List TypedNode}
    (hnodes : ∀ node ∈ nodes, node.1 ∈ handles) :
    Settles handles (fromNodes host setting terminal nodes) :=
  (cookSuccess_settles terminal).bind fun _ =>
    (assetPath_settles setting terminal hnodes).bind fun _ =>
      (diagnostics_settles setting hnodes).bind fun _ => .pure fun _ h => h

end Grounds

end Collect

end AssetCheck
