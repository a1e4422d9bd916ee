import AssetCheck.Proofs.Build.Additions
import AssetCheck.Proofs.Build.InTurn
import AssetCheck.Proofs.Chain.Ancestry
import AssetCheck.Proofs.Traversal

/-!
# The shape of a chain

What a host answers decides whether a chain is built, and which handles are in it. The rest of its
shape follows the pipeline on any host: one node of each type in order, each fed by the one before
it, and triggers only where a node presses them (`build_shaped`).
-/

namespace AssetCheck

/-- The chain has a node for each of some nodes of a pipeline, and each trigger is pressed by the
node at its position. -/
structure BuiltChain.Shaped (specs : List NodeSpec) (built : BuiltChain) : Prop where
  linear : built.chain.Linear
  types : built.chain.nodes.map (·.typeName) = specs.map (·.typeName)
  triggers : ∀ trigger ∈ built.triggers, ∃ spec, specs[trigger.position]? = some spec ∧
    trigger.name ∈ spec.triggers

namespace Build

open BuiltChain (Shaped)

variable {σ : Type} {h : Host σ} {subs : Substitutions} {b b' : Building σ}

theorem addNode_shaped {specs : List NodeSpec} {built built' : BuiltChain} {spec : NodeSpec}
    (hshaped : built.Shaped specs) (hstep : addNode h subs built spec b = .ok built' b') :
    built'.Shaped (specs ++ [spec]) := by
  obtain ⟨node, triggers, rfl, hsites⟩ := exists_of_addNode hstep
  have hlength : built.chain.nodes.length = specs.length := by
    simpa using congrArg List.length hshaped.types
  refine ⟨hshaped.linear.push node spec.typeName (spec.assignments subs), ?_,
    fun trigger htrigger => ?_⟩
  · show (built.chain.nodes ++ [_]).map _ = _
    rw [List.map_append, hshaped.types, List.map_append]
    rfl
  · rcases List.mem_append.1 htrigger with hold | hnew
    · obtain ⟨old, hold, hname⟩ := hshaped.triggers trigger hold
      obtain ⟨hlt, -⟩ := List.getElem?_eq_some_iff.1 hold
      exact ⟨old, by rw [List.getElem?_append_left hlt, hold], hname⟩
    · have hsite := List.mem_map_of_mem (f := Trigger.site) hnew
      rw [hsites] at hsite
      obtain ⟨name, hname, hsite⟩ := List.mem_map.1 hsite
      cases trigger
      cases hsite
      exact ⟨spec, by rw [hlength, List.getElem?_concat_length], hname⟩

theorem addNodes_shaped {done specs : List NodeSpec} {built built' : BuiltChain}
    (hshaped : built.Shaped done) (hsteps : addNodes h subs built specs b = .ok built' b') :
    built'.Shaped (done ++ specs) := by
  induction specs generalizing done built b with
  | nil =>
    cases hsteps
    rw [List.append_nil]
    exact hshaped
  | cons spec rest ih =>
    obtain ⟨next, _, hfirst, hrest⟩ := exists_ok_of_step_bind hsteps
    rw [List.append_cons]
    exact ih (addNode_shaped hshaped hfirst) hrest

end Build

/-- **Shape.** A chain has the shape of its pipeline, whatever the host. -/
theorem build_shaped {σ : Type} {h : Host σ} {spec : PipelineSpec} {subs : Substitutions}
    {bench bench' : Workbench σ} {built : BuiltChain}
    (hbuild : build h spec subs bench = .ok built bench') : built.Shaped spec.nodes := by
  have hstart : BuiltChain.Shaped []
      ⟨.empty bench.nextChain ((subs.get? Substitutions.assetInput).getD ""), []⟩ :=
    ⟨Chain.linear_empty _ _, rfl, List.forall_mem_nil _⟩
  unfold build at hbuild
  dsimp only at hbuild
  split at hbuild
  · next hnodes =>
    cases hbuild
    exact Build.addNodes_shaped hstart hnodes
  · cases hbuild

theorem Session.shaped_of_buildAll {σ : Type} {session : Session σ} {spec : PipelineSpec}
    {assets : List String} {bench bench' : Workbench σ} {built : List BuiltChain}
    (h : session.buildAll spec assets bench = .ok built bench') :
    ∀ b ∈ built, b.Shaped spec.nodes := by
  induction assets generalizing bench built with
  | nil =>
    cases h
    exact List.forall_mem_nil _
  | cons asset rest ih =>
    obtain ⟨subs, first, next, others, -, hfirst, hrest, rfl⟩ := exists_of_buildAll_cons h
    exact List.forall_mem_cons.2 ⟨build_shaped hfirst, ih hrest⟩

end AssetCheck
