import AssetCheck.Proofs.Scene.Moves
import AssetCheck.Report.Collect

/-!
# What collecting leaves alone

Collecting a report asks the host for answers and cooks; it never makes, removes or connects nodes,
nor sets parameters. So it keeps whatever its own requests keep, on any host, whichever way the
nodes are found and also when no report comes of it.
-/

namespace AssetCheck

/-- The requests by which reports are collected. -/
def Request.collects : Request → Bool
  | .nodeName _ | .nodeType _ | .findParameter .. | .parameterValue _ | .cook _ | .warnings _
  | .errors _ | .inputs _ => true
  | _ => false

theorem Scene.changesGraph_of_collects {request : Request} (h : request.collects = true) :
    changesGraph request = false := by
  cases request <;> first | rfl | cases h

namespace Collect

theorem ask_ok {σ α : Type} {request : EStateM HostError σ α} {s t : σ} {a : α}
    (h : request s = .ok a t) :
    ask request s = .ok a t := by
  unfold ask EStateM.adaptExcept; rw [h]

section Frame

variable {σ : Type} {h : Host σ} {P : σ → Prop}
  (hkeep : ∀ request, request.collects = true → Keeps P (h.perform request))
  (setting : Setting)

include hkeep

theorem cookSuccess_keeps (node : NodeHandle) : Keeps P (cookSuccess h node) := by
  intro s hs
  have hcook := hkeep (.cook node) rfl s hs
  unfold stateAfter at hcook
  unfold stateAfter cookSuccess Host.cook
  cases hresult : h.perform (.cook node) s <;> rw [hresult] at hcook <;> exact hcook

theorem nameOrLabel_keeps (node : NodeHandle) : Keeps P (nameOrLabel h node) := by
  intro s hs
  have hname := hkeep (.nodeName node) rfl s hs
  unfold stateAfter at hname
  unfold stateAfter nameOrLabel Host.nodeName
  cases hresult : h.perform (.nodeName node) s <;> rw [hresult] at hname <;> exact hname

theorem missingLoader_keeps {α : Type} (terminal : NodeHandle) :
    Keeps P (missingLoader h terminal : EStateM ReportError σ α) :=
  (nameOrLabel_keeps hkeep terminal).bind fun _ => .throw _

theorem ask_keeps (request : Request) (hr : request.collects = true) :
    Keeps P (ask (h.perform request)) :=
  (hkeep request hr).adaptExcept _

theorem assetPath_keeps (terminal : NodeHandle) (nodes : List TypedNode) :
    Keeps P (assetPath h setting terminal nodes) := by
  cases nodes with
  | nil => exact missingLoader_keeps hkeep terminal
  | cons loader rest =>
    have hfind := ask_keeps hkeep (.findParameter loader.1 setting.config.loaderParameter) rfl
    refine hfind.bind fun found => ?_
    cases found with
    | none => exact missingLoader_keeps hkeep terminal
    | some parameter =>
      exact (ask_keeps hkeep (.parameterValue parameter) rfl).bind fun _ => .pure _

theorem diagnostic_keeps (node : TypedNode) : Keeps P (diagnostic h setting node) := by
  refine (ask_keeps hkeep (.nodeName node.1) rfl).bind fun name => ?_
  refine (ask_keeps hkeep (.warnings node.1) rfl).bind fun warnings => ?_
  refine (ask_keeps hkeep (.errors node.1) rfl).bind fun errors => ?_
  cases Verdict.classify name node.2 warnings errors setting.config with
  | ok d => exact .pure d
  | error e => exact .throw e

theorem diagnostics_keeps (nodes : List TypedNode) : Keeps P (diagnostics h setting nodes) := by
  induction nodes with
  | nil => exact .pure []
  | cons node rest ih =>
    unfold diagnostics
    split
    · exact ih
    · exact (diagnostic_keeps hkeep setting node).bind fun _ => ih.bind fun _ => .pure _

theorem fromNodes_keeps (terminal : NodeHandle) (nodes : List TypedNode) :
    Keeps P (fromNodes h setting terminal nodes) :=
  (cookSuccess_keeps hkeep terminal).bind fun _ =>
    (assetPath_keeps hkeep setting terminal nodes).bind fun _ =>
      (diagnostics_keeps hkeep setting nodes).bind fun _ => .pure _

theorem fromChain_keeps (c : Chain) (position : Nat) :
    Keeps P (fromChain h setting c position) := by
  unfold fromChain
  cases c.node? position with
  | none => exact .throw _
  | some terminal => exact fromNodes_keeps hkeep setting terminal.handle _

theorem followInputs_keeps (terminal : NodeHandle) (steps : Nat) (seen : List NodeHandle)
    (node : NodeHandle) : Keeps P (followInputs h terminal steps seen node) := by
  induction steps generalizing seen node with
  | zero =>
    unfold followInputs
    refine (ask_keeps hkeep (.inputs node) rfl).bind fun inputs => ?_
    cases inputs with
    | nil => exact .pure seen
    | cons input rest => exact .throw _
  | succ steps ih =>
    unfold followInputs
    refine (ask_keeps hkeep (.inputs node) rfl).bind fun inputs => ?_
    cases inputs with
    | nil => exact .pure seen
    | cons input rest =>
      dsimp only
      split
      · exact .throw _
      · exact ih (input :: seen) input

theorem withTypes_keeps (nodes : List NodeHandle) : Keeps P (withTypes h nodes) := by
  induction nodes with
  | nil => exact .pure []
  | cons node rest ih =>
    exact (ask_keeps hkeep (.nodeType node) rfl).bind fun _ => ih.bind fun _ => .pure _

theorem fromInputs_keeps (terminal : NodeHandle) : Keeps P (fromInputs h setting terminal) :=
  fun s hs => (followInputs_keeps hkeep terminal (h.reach s) [] terminal).bind
    (fun nodes => (withTypes_keeps hkeep nodes).bind
      fun typed => fromNodes_keeps hkeep setting terminal typed) s hs

end Frame

end Collect

end AssetCheck
