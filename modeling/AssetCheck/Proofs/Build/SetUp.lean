import AssetCheck.Proofs.Build.Outcome
import AssetCheck.Proofs.Traversal

/-!
# Nodes as the pipeline asks for them

A build leaves a chain whose nodes have the types and the parameters that the nodes of the pipeline
ask for, and notes the triggers of each of them (`Scene.Fits`, `fits_of_build_ok`). Nodes that are
made later, for other chains, do not change that (`Fits.grown`).
-/

namespace AssetCheck

/-- The triggers of a node, as they are noted for a chain. -/
def NodeSpec.noted (chain : Nat) (spec : NodeSpec) (node : ChainNode) : List Trigger :=
  spec.triggers.map fun name =>
    { chain, position := node.position, nodeType := spec.typeName, name
      action := ⟨node.handle, name⟩ }

namespace Scene

/-- The scene holds a node of a chain with the parameters that a node of a pipeline asks for. -/
structure Fitted (s : Scene) (subs : Substitutions) (spec : NodeSpec) (node : ChainNode) :
    Prop where
  typeName : node.typeName = spec.typeName
  held : ∃ n type, s.nodes.get? node.handle = some n ∧ s.types.get? spec.typeName = some type ∧
    n.typeName = spec.typeName ∧
    n.parameters = spec.directives.foldl (Directive.setOn subs) (Table.ofList type.parameters)

/-- The scene holds the nodes of a chain as a pipeline asks for them, and the triggers of the
pipeline have been noted. -/
structure Fits (s : Scene) (subs : Substitutions) (specs : List NodeSpec) (built : BuiltChain) :
    Prop where
  nodes : List.Forall₂ (s.Fitted subs) specs built.chain.nodes
  triggers : built.triggers =
    (List.zipWith (NodeSpec.noted built.chain.id) specs built.chain.nodes).flatten

section Fitted

variable {s t : Scene} {subs : Substitutions} {spec : NodeSpec} {node : ChainNode}

theorem Fitted.mem_keys (h : s.Fitted subs spec node) : node.handle ∈ s.nodes.keys := by
  obtain ⟨n, -, hn, -⟩ := h.held
  exact Table.mem_keys_iff.2 ⟨n, hn⟩

theorem Fitted.grown (h : s.Fitted subs spec node) {created : List NodeHandle}
    (hg : s.Grown t created) : t.Fitted subs spec node := by
  obtain ⟨n, type, hn, htype, hname, hparameters⟩ := h.held
  refine ⟨h.typeName, n, type, ?_, ?_, hname, hparameters⟩
  · rw [hg.get?_eq h.mem_keys, hn]
  · rw [hg.types, htype]

theorem Fitted.valueOf?_eq (h : s.Fitted subs spec node) :
    ∃ type, s.types.get? spec.typeName = some type ∧ ∀ name,
      s.valueOf? node.handle name = (spec.directives.foldl (Directive.setOn subs)
        (Table.ofList type.parameters)).get? name := by
  obtain ⟨n, type, hn, htype, -, hparameters⟩ := h.held
  refine ⟨type, htype, fun name => ?_⟩
  unfold valueOf?
  rw [hn, ← hparameters]
  rfl

variable {specs : List NodeSpec} {built : BuiltChain}

theorem Fits.grown (h : s.Fits subs specs built) {created : List NodeHandle}
    (hg : s.Grown t created) : t.Fits subs specs built :=
  ⟨h.nodes.imp fun _ _ hnode => hnode.grown hg, h.triggers⟩

theorem Fits.types (h : s.Fits subs specs built) :
    built.chain.nodes.map (·.typeName) = specs.map (·.typeName) :=
  map_eq_of_forall₂ h.nodes fun _ _ hnode => hnode.typeName

end Fitted

end Scene

namespace Build

open Scene (host Sound)

theorem resolve_token {subs : Substitutions} {token value : String}
    (hsigil : token.toList.head? = some Substitutions.sigil) (h : subs.get? token = some value) :
    (resolve subs (.text token)).1 = .text value := by
  obtain ⟨entry, hfind, rfl⟩ := Option.map_eq_some_iff.1 h
  have hlookup : subs.lookup? (.text token) = some entry := by
    show (if token.toList.head? = some Substitutions.sigil then _ else _) = _
    rw [if_pos hsigil, hfind]
  unfold resolve
  rw [hlookup]

/-- Following directives notes the triggers that they press. -/
theorem triggers_foldl_follow (subs : Substitutions) (chain position : Nat) (typeName : String)
    (handle : NodeHandle) (directives : List Directive) (parts : NodeParts) :
    (directives.foldl (NodeParts.follow subs chain position typeName handle) parts).triggers =
      parts.triggers ++ (directives.filterMap Directive.trigger?).map fun name =>
        { chain, position, nodeType := typeName, name, action := ⟨handle, name⟩ } := by
  induction directives generalizing parts with
  | nil => simp
  | cons directive rest ih =>
    rw [List.foldl_cons, ih]
    cases directive with
    | set name literal => rfl
    | press name => exact List.append_assoc ..

section Progress

variable {s : Scene} (hs : Sound s) {done : List NodeSpec} {built built' : BuiltChain}
  {b b' : Building Scene} {subs : Substitutions}

include hs

theorem Progress.fits_addNode (h : Progress s done built b) (hf : b.host.Fits subs done built)
    {spec : NodeSpec} (hadd : addNode host subs built spec b = .ok built' b') :
    Progress s (done ++ [spec]) built' b' ∧ b'.host.Fits subs (done ++ [spec]) built' := by
  cases hfault : spec.fault? s.types with
  | some e =>
    obtain ⟨b₁, herror, -⟩ := h.addNode_error hs subs hfault
    rw [herror] at hadd
    cases hadd
  | none =>
    obtain ⟨built₁, b₁, hok, hp, -⟩ := h.addNode_ok hs subs hfault
    obtain ⟨type, htype, hinput, hexact⟩ := h.addNode_eq hs subs hfault
    have hfresh := Scene.nextHandle_not_mem (h.grown.sound hs)
    have hgrown := Scene.Grown.create (n := b.host.builtNode subs spec type _) .start htype hinput
    rw [hok] at hadd
    cases hadd
    rw [hok] at hexact
    cases hexact
    refine ⟨hp, ?_, ?_⟩
    · refine List.rel_append (hf.nodes.imp fun _ _ hnode => hnode.grown hgrown) ?_
      refine .cons ⟨rfl, _, type, Scene.get?_add_self hfresh _, htype, rfl, rfl⟩ .nil
    · show built.triggers ++ (partsOf subs built spec b.host.nextHandle).triggers = _
      unfold partsOf
      rw [triggers_foldl_follow, hf.triggers]
      show _ = (List.zipWith (NodeSpec.noted built.chain.id) (done ++ [spec])
        (built.chain.nodes ++ [_])).flatten
      rw [List.zipWith_append hf.nodes.length_eq, List.flatten_append]
      refine congrArg (List.flatten _ ++ ·) ?_
      exact (List.append_nil _).symm

theorem Progress.fits_addNodes (h : Progress s done built b) (hf : b.host.Fits subs done built)
    {specs : List NodeSpec} (hadd : addNodes host subs built specs b = .ok built' b') :
    b'.host.Fits subs (done ++ specs) built' := by
  induction specs generalizing done built b with
  | nil =>
    cases hadd
    rw [List.append_nil]
    exact hf
  | cons spec rest ih =>
    obtain ⟨built₁, b₁, hfirst, hrest⟩ := exists_ok_of_step_bind hadd
    obtain ⟨hp, hfits⟩ := h.fits_addNode hs hf hfirst
    rw [List.append_cons]
    exact ih hp hfits hrest

end Progress

end Build

/-- **Set-up.** A build leaves its nodes as the pipeline asks for them. -/
theorem fits_of_build_ok {s : Scene} (hs : s.Sound) {spec : PipelineSpec} {subs : Substitutions}
    {id : Nat} {built : BuiltChain} {bench : Workbench Scene}
    (h : build Scene.host spec subs ⟨s, id⟩ = .ok built bench) :
    bench.host.Fits subs spec.nodes built := by
  have hstart : s.Fits subs [] ⟨.empty id ((subs.get? Substitutions.assetInput).getD ""), []⟩ :=
    ⟨.nil, rfl⟩
  unfold build at h
  dsimp only at h
  split at h
  · next built' b hadd =>
    cases h
    exact (Build.progress_start s id _).fits_addNodes hs hstart hadd
  · cases h

end AssetCheck
