import AssetCheck.Proofs.TwoRuns
import AssetCheck.Report.Collect

/-!
# Collecting on two hosts

Where two hosts give the same answers to the same requests, a report is collected on both of them
with the same result (`fromChain_alike`).
-/

namespace AssetCheck.Collect

section Alike

variable {σ τ : Type} {h : Host σ} {g : Host τ} {R : σ → τ → Prop}
  (halike : ∀ request, Alike R (h.perform request) (g.perform request)) (setting : Setting)

include halike

theorem ask_alike (request : Request) :
    Alike R (ask (h.perform request)) (ask (g.perform request)) :=
  (halike request).adaptExcept _

theorem cookSuccess_alike (node : NodeHandle) :
    Alike R (cookSuccess h node) (cookSuccess g node) := by
  intro s t hst
  have hcook := halike (.cook node) s t hst
  unfold cookSuccess Host.cook
  revert hcook
  generalize h.perform (.cook node) s = left
  generalize g.perform (.cook node) t = right
  rintro (hafter | hafter)
  · exact .ok hafter
  · exact .ok hafter

theorem nameOrLabel_alike (node : NodeHandle) :
    Alike R (nameOrLabel h node) (nameOrLabel g node) := by
  intro s t hst
  have hname := halike (.nodeName node) s t hst
  unfold nameOrLabel Host.nodeName
  revert hname
  generalize h.perform (.nodeName node) s = left
  generalize g.perform (.nodeName node) t = right
  rintro (hafter | hafter)
  · exact .ok hafter
  · exact .ok hafter

theorem missingLoader_alike {α : Type} (terminal : NodeHandle) :
    Alike R (missingLoader h terminal : EStateM ReportError σ α) (missingLoader g terminal) :=
  (nameOrLabel_alike halike terminal).bind fun _ => .throw _

theorem assetPath_alike (terminal : NodeHandle) (nodes : List TypedNode) :
    Alike R (assetPath h setting terminal nodes) (assetPath g setting terminal nodes) := by
  cases nodes with
  | nil => exact missingLoader_alike halike terminal
  | cons loader rest =>
    have hfind := ask_alike halike (.findParameter loader.1 setting.config.loaderParameter)
    refine hfind.bind fun found => ?_
    cases found with
    | none => exact missingLoader_alike halike terminal
    | some parameter => exact (ask_alike halike (.parameterValue parameter)).bind fun _ => .pure _

theorem diagnostic_alike (node : TypedNode) :
    Alike R (diagnostic h setting node) (diagnostic g setting node) := by
  refine (ask_alike halike (.nodeName node.1)).bind fun name => ?_
  refine (ask_alike halike (.warnings node.1)).bind fun warnings => ?_
  refine (ask_alike halike (.errors node.1)).bind fun errors => ?_
  cases Verdict.classify name node.2 warnings errors setting.config with
  | ok d => exact .pure d
  | error e => exact .throw e

theorem diagnostics_alike (nodes : List TypedNode) :
    Alike R (diagnostics h setting nodes) (diagnostics g setting nodes) := by
  induction nodes with
  | nil => exact .pure []
  | cons node rest ih =>
    unfold diagnostics
    split
    · exact ih
    · exact (diagnostic_alike halike setting node).bind fun _ => ih.bind fun _ => .pure _

theorem fromNodes_alike (terminal : NodeHandle) (nodes : List TypedNode) :
    Alike R (fromNodes h setting terminal nodes) (fromNodes g setting terminal nodes) :=
  (cookSuccess_alike halike terminal).bind fun _ =>
    (assetPath_alike halike setting terminal nodes).bind fun _ =>
      (diagnostics_alike halike setting nodes).bind fun _ => .pure _

/-- **Two hosts.** With the same answers, a report is collected with the same result. -/
theorem fromChain_alike (c : Chain) (position : Nat) :
    Alike R (fromChain h setting c position) (fromChain g setting c position) := by
  unfold fromChain
  cases c.node? position with
  | none => exact .throw _
  | some terminal => exact fromNodes_alike halike setting terminal.handle _

end Alike

end AssetCheck.Collect
