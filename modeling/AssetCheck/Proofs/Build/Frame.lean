import AssetCheck.Chain.Build
import AssetCheck.Proofs.Step

/-!
# What building leaves alone

Building a chain makes nodes, looks for their parameters and triggers, sets parameters, connects
nodes, and removes them again when a step fails. It presses no triggers and cooks nothing. So it
keeps whatever these requests keep, on any host, also when the chain cannot be built
(`build_keeps`).
-/

namespace AssetCheck

/-- The requests by which chains are built. -/
def Request.builds : Request → Bool
  | .createNode _ | .destroyNode _ | .connectInput .. | .findParameter .. | .setParameter ..
  | .findTrigger .. => true
  | _ => false

section Frame

variable {σ : Type} {h : Host σ} {P : σ → Prop}
  (hkeep : ∀ request, request.builds = true → Keeps P (h.perform request))

include hkeep

namespace Build

/-- The host of the building site is of a kind. -/
abbrev OnSite (P : σ → Prop) (b : Building σ) : Prop := P b.host

theorem ask_keeps (request : Request) (hbuilds : request.builds = true) :
    Keeps (OnSite P) (ask (h.perform request)) := by
  intro b hb
  have hafter := hkeep request hbuilds b.host hb
  unfold stateAfter at hafter
  unfold stateAfter ask
  cases hresult : h.perform request b.host <;> rw [hresult] at hafter <;> exact hafter

theorem createNode_keeps (typeName : String) : Keeps (OnSite P) (createNode h typeName) := by
  intro b hb
  have hafter := hkeep (.createNode typeName) rfl b.host hb
  unfold stateAfter at hafter
  unfold stateAfter createNode Host.createNode
  cases hresult : h.perform (.createNode typeName) b.host with
  | ok node t =>
    rw [hresult] at hafter
    exact hafter
  | error e t =>
    rw [hresult] at hafter
    cases e <;> exact hafter

variable (subs : Substitutions) (chain position : Nat) (typeName : String) (node : NodeHandle)

theorem followDirective_keeps (parts : NodeParts) (directive : Directive) :
    Keeps (OnSite P)
      (followDirective h subs chain position typeName node parts directive) := by
  cases directive with
  | set name literal =>
    refine (ask_keeps hkeep (.findParameter node name) rfl).bind fun found => ?_
    cases found with
    | none => exact .throw _
    | some parameter =>
      exact (ask_keeps hkeep (.setParameter parameter _) rfl).bind fun _ => .pure _
  | press name =>
    refine (ask_keeps hkeep (.findTrigger node name) rfl).bind fun found => ?_
    cases found with
    | none => exact .throw _
    | some action => exact .pure _

theorem followDirectives_keeps (parts : NodeParts) (directives : List Directive) :
    Keeps (OnSite P)
      (followDirectives h subs chain position typeName node parts directives) := by
  induction directives generalizing parts with
  | nil => exact .pure _
  | cons directive rest ih =>
    exact (followDirective_keeps hkeep subs chain position typeName node parts directive).bind ih

theorem addNode_keeps (built : BuiltChain) (spec : NodeSpec) :
    Keeps (OnSite P) (addNode h subs built spec) := by
  refine (createNode_keeps hkeep spec.typeName).bind fun node => ?_
  refine (followDirectives_keeps hkeep subs _ _ _ node _ _).bind fun parts => ?_
  cases built.chain.nodes.getLast? with
  | none => exact .bind (.pure ()) fun _ => .pure _
  | some previous =>
    exact (ask_keeps hkeep (.connectInput node previous.handle) rfl).bind fun _ => .pure _

theorem addNodes_keeps (built : BuiltChain) (specs : List NodeSpec) :
    Keeps (OnSite P) (addNodes h subs built specs) := by
  induction specs generalizing built with
  | nil => exact .pure _
  | cons spec rest ih => exact (addNode_keeps hkeep subs built spec).bind ih

theorem rollback_keeps (nodes : List NodeHandle) {host : σ} (hhost : P host) :
    P (rollback h nodes host) := by
  induction nodes generalizing host with
  | nil => exact hhost
  | cons node rest ih =>
    have hafter := hkeep (.destroyNode node) rfl host hhost
    unfold stateAfter at hafter
    unfold rollback Host.destroyNode
    cases hresult : h.perform (.destroyNode node) host <;> rw [hresult] at hafter <;>
      exact ih hafter

end Build

/-- **Frame.** Building keeps what the requests for it keep, whether or not the chain is built. -/
theorem build_keeps (spec : PipelineSpec) (subs : Substitutions) :
    Keeps (fun bench : Workbench σ => P bench.host) (build h spec subs) := by
  intro bench hbench
  have hafter := Build.addNodes_keeps hkeep subs
    ⟨.empty bench.nextChain ((subs.get? Substitutions.assetInput).getD ""), []⟩ spec.nodes
    ⟨bench.host, []⟩ hbench
  unfold stateAfter at hafter
  unfold stateAfter build
  dsimp only
  cases hresult : Build.addNodes h subs _ spec.nodes ⟨bench.host, []⟩ with
  | ok built b =>
    rw [hresult] at hafter
    exact hafter
  | error e b =>
    rw [hresult] at hafter
    exact Build.rollback_keeps hkeep b.created hafter

end Frame

end AssetCheck
