import AssetCheck.Proofs.Build.Directives
import AssetCheck.Proofs.Chain.Carried

/-!
# The outcome of a build

A build on a sound scene succeeds exactly if the pipeline has no fault by the types of the scene; it
then has grown the scene by the nodes of a chain that the scene carries (`build_ok`). Otherwise it
ends in the first fault, and the scene is as before but for its counters (`build_error`).
`Build.Progress` is what holds between the nodes of a pipeline.
-/

namespace AssetCheck

/-- A node of a pipeline as the scene holds it once it is built. -/
def Scene.builtNode (s : Scene) (subs : Substitutions) (spec : NodeSpec) (type : NodeType)
    (input : Option NodeHandle) : SceneNode :=
  { s.newNode spec.typeName type with
    parameters := spec.directives.foldl (Directive.setOn subs) (Table.ofList type.parameters)
    input }

namespace Build

open Scene (host Grown Carries Sound)

def partsOf (subs : Substitutions) (built : BuiltChain) (spec : NodeSpec) (handle : NodeHandle) :
    NodeParts :=
  spec.directives.foldl
    (NodeParts.follow subs built.chain.id built.chain.nodes.length spec.typeName handle) ⟨[], []⟩

def extended (subs : Substitutions) (built : BuiltChain) (spec : NodeSpec) (handle : NodeHandle) :
    BuiltChain :=
  { chain := built.chain.push handle spec.typeName (partsOf subs built spec handle).assignments
    triggers := built.triggers ++ (partsOf subs built spec handle).triggers }

section AddNode

variable {s : Scene} (hs : Sound s) (subs : Substitutions) {built : BuiltChain} {spec : NodeSpec}
  (created : List NodeHandle)

theorem createNode_ok {type : NodeType} {typeName : String}
    (h : s.types.get? typeName = some type) :
    createNode host typeName ⟨s, created⟩ =
      .ok s.nextHandle
        ⟨(s.counted typeName).add s.nextHandle (s.newNode typeName type),
          s.nextHandle :: created⟩ := by
  unfold createNode
  rw [show host.createNode typeName s = _ from Scene.createNode_of_some h]

theorem createNode_error {typeName : String} (h : s.types.get? typeName = none) :
    createNode host typeName ⟨s, created⟩ = .error (.unknownNodeType typeName) ⟨s, created⟩ := by
  unfold createNode
  rw [show host.createNode typeName s = _ from Scene.createNode_of_none h]

theorem mem_keys_newNode (type : NodeType) (typeName name : String) :
    name ∈ (s.newNode typeName type).parameters.keys ↔ name ∈ type.parameters.map Prod.fst :=
  Table.mem_keys_ofList

include hs

/-- A node without a fault is made, set up and connected to the last node of the chain. -/
theorem addNode_ok {type : NodeType} (htype : s.types.get? spec.typeName = some type)
    (hd : spec.directives.findSome? (type.fault? spec.typeName) = none)
    (hlast : ∀ previous, built.chain.nodes.getLast? = some previous →
      previous.handle ∈ s.nodes.keys) :
    addNode host subs built spec ⟨s, created⟩ =
      .ok (extended subs built spec s.nextHandle)
        ⟨(s.counted spec.typeName).add s.nextHandle
            (s.builtNode subs spec type (built.chain.nodes.getLast?.map (·.handle))),
          s.nextHandle :: created⟩ := by
  have hfresh : s.nextHandle ∉ (s.counted spec.typeName).nodes.keys := Scene.nextHandle_not_mem hs
  have hfollow := followDirectives_ok hfresh htype subs built.chain.id built.chain.nodes.length
    (s.nextHandle :: created) (n := s.newNode spec.typeName type) rfl
    (mem_keys_newNode type spec.typeName) ⟨[], []⟩ hd
  unfold addNode
  rw [bind_ok (createNode_ok created htype), bind_ok hfollow]
  cases hl : built.chain.nodes.getLast? with
  | none => rfl
  | some previous =>
    have hsource : previous.handle ∈ ((s.counted spec.typeName).add s.nextHandle
        (s.builtNode subs spec type none)).nodes.keys := by
      rw [Scene.keys_add]
      exact List.mem_append_left _ (hlast previous hl)
    have hnew : s.nextHandle ∈ ((s.counted spec.typeName).add s.nextHandle
        (s.builtNode subs spec type none)).nodes.keys := by
      rw [Scene.keys_add]
      exact List.mem_append_right _ (List.mem_singleton.2 rfl)
    have hconnect := Scene.connectInput_of_mem hsource hnew
    unfold Scene.connected at hconnect
    rw [Scene.updateNode_add hfresh] at hconnect
    exact bind_ok (ask_ok hconnect (s.nextHandle :: created))

variable (built) in
/-- A node with a fault ends the build, before it is made or when it is the last one made. -/
theorem addNode_error {e : BuildError} (he : spec.fault? s.types = some e) :
    ∃ b, addNode host subs built spec ⟨s, created⟩ = .error e b ∧
      (b = ⟨s, created⟩ ∨
        ∃ t handle, Grown s t [handle] ∧ b = ⟨t, handle :: created⟩) := by
  unfold NodeSpec.fault? at he
  split at he
  · next htype =>
    cases he
    refine ⟨⟨s, created⟩, ?_, Or.inl rfl⟩
    unfold addNode
    exact bind_error (createNode_error created htype)
  · next type htype =>
    have hfresh : s.nextHandle ∉ (s.counted spec.typeName).nodes.keys := Scene.nextHandle_not_mem hs
    obtain ⟨parameters, hfollow⟩ := followDirectives_error hfresh htype subs built.chain.id
      built.chain.nodes.length (s.nextHandle :: created) (n := s.newNode spec.typeName type) rfl
      (mem_keys_newNode type spec.typeName) ⟨[], []⟩ he
    have hgrown : Grown s ((s.counted spec.typeName).add s.nextHandle
        { s.newNode spec.typeName type with parameters }) [s.nextHandle] :=
      .create (n := { s.newNode spec.typeName type with parameters }) .start htype
        fun input hi => by cases hi
    refine ⟨_, ?_, Or.inr ⟨_, _, hgrown, rfl⟩⟩
    unfold addNode
    rw [bind_ok (createNode_ok created htype)]
    exact bind_error hfollow

end AddNode

/-! ## All nodes of a pipeline -/

/-- Some nodes of a pipeline have been built on what was the scene `s`. -/
structure Progress (s : Scene) (done : List NodeSpec) (built : BuiltChain) (b : Building Scene) :
    Prop where
  grown : Grown s b.host b.created
  carries : Carries b.host built.chain
  handles : built.chain.handles = b.created.reverse
  types : built.chain.nodes.map (·.typeName) = done.map (·.typeName)

theorem progress_start (s : Scene) (id : Nat) (asset : String) :
    Progress s [] ⟨.empty id asset, []⟩ ⟨s, []⟩ :=
  ⟨.start, Scene.carries_empty s id asset, rfl, rfl⟩

section Progress

variable {s : Scene} (hs : Sound s) {done : List NodeSpec} {built : BuiltChain} {b : Building Scene}
  (h : Progress s done built b) (subs : Substitutions)

include hs h

theorem Progress.addNode_eq {spec : NodeSpec} (hspec : spec.fault? s.types = none) :
    ∃ type, b.host.types.get? spec.typeName = some type ∧
      (∀ input, built.chain.nodes.getLast?.map (·.handle) = some input →
        input ∈ b.host.nodes.keys) ∧
      addNode host subs built spec b =
        .ok (extended subs built spec b.host.nextHandle)
          ⟨(b.host.counted spec.typeName).add b.host.nextHandle
              (b.host.builtNode subs spec type (built.chain.nodes.getLast?.map (·.handle))),
            b.host.nextHandle :: b.created⟩ := by
  obtain ⟨t, created⟩ := b
  have ht := h.grown.sound hs
  rw [← h.grown.types] at hspec
  unfold NodeSpec.fault? at hspec
  split at hspec
  · cases hspec
  · next type htype =>
    have hlast : ∀ previous, built.chain.nodes.getLast? = some previous →
        previous.handle ∈ t.nodes.keys := fun previous hp =>
      h.carries.mem_keys (List.mem_map_of_mem (List.mem_of_getLast? hp))
    refine ⟨type, htype, ?_, Build.addNode_ok ht subs created htype hspec hlast⟩
    intro input hi
    obtain ⟨previous, hp, rfl⟩ := Option.map_eq_some_iff.1 hi
    exact hlast previous hp

theorem Progress.addNode_ok {spec : NodeSpec} (hspec : spec.fault? s.types = none) :
    ∃ built' b', addNode host subs built spec b = .ok built' b' ∧
      Progress s (done ++ [spec]) built' b' ∧ built'.chain.id = built.chain.id ∧
      built'.chain.asset = built.chain.asset := by
  obtain ⟨type, htype, hinput, hadd⟩ := h.addNode_eq hs subs hspec
  obtain ⟨t, created⟩ := b
  refine ⟨_, _, hadd, ⟨?_, ?_, ?_, ?_⟩, rfl, rfl⟩
  · exact .create (n := t.builtNode subs spec type _) h.grown htype hinput
  · exact h.carries.push (h.grown.sound hs) (n := t.builtNode subs spec type _) htype rfl _ rfl
  · show (built.chain.push _ _ _).handles = (t.nextHandle :: created).reverse
    rw [Chain.handles_push, h.handles, List.reverse_cons]
  · show (built.chain.nodes ++ [_]).map _ = _
    rw [List.map_append, h.types, List.map_append]
    rfl

theorem Progress.addNode_error {spec : NodeSpec} {e : BuildError}
    (hspec : spec.fault? s.types = some e) :
    ∃ b', addNode host subs built spec b = .error e b' ∧ Grown s b'.host b'.created := by
  obtain ⟨t, created⟩ := b
  rw [← h.grown.types] at hspec
  obtain ⟨b', hadd, hb⟩ := Build.addNode_error (h.grown.sound hs) subs built created hspec
  refine ⟨b', hadd, ?_⟩
  rcases hb with rfl | ⟨u, handle, hg, rfl⟩
  · exact h.grown
  · cases hg with
    | create hstart htype hinput =>
      cases hstart
      exact .create h.grown htype hinput

theorem Progress.addNodes_ok {specs : List NodeSpec}
    (hspecs : specs.findSome? (NodeSpec.fault? s.types) = none) :
    ∃ built' b', addNodes host subs built specs b = .ok built' b' ∧
      Progress s (done ++ specs) built' b' ∧ built'.chain.id = built.chain.id ∧
      built'.chain.asset = built.chain.asset := by
  induction specs generalizing done built b with
  | nil =>
    refine ⟨built, b, rfl, ?_, rfl, rfl⟩
    rw [List.append_nil]
    exact h
  | cons spec rest ih =>
    rw [List.findSome?_cons] at hspecs
    split at hspecs
    · cases hspecs
    · next hspec =>
      obtain ⟨built₁, b₁, hadd, h₁, hid₁, hasset₁⟩ := h.addNode_ok hs subs hspec
      obtain ⟨built₂, b₂, hrest, h₂, hid₂, hasset₂⟩ := ih h₁ hspecs
      refine ⟨built₂, b₂, ?_, ?_, hid₂.trans hid₁, hasset₂.trans hasset₁⟩
      · unfold addNodes
        rw [bind_ok hadd, hrest]
      · rw [List.append_assoc] at h₂
        exact h₂

theorem Progress.addNodes_error {specs : List NodeSpec} {e : BuildError}
    (hspecs : specs.findSome? (NodeSpec.fault? s.types) = some e) :
    ∃ b', addNodes host subs built specs b = .error e b' ∧ Grown s b'.host b'.created := by
  induction specs generalizing done built b with
  | nil => cases hspecs
  | cons spec rest ih =>
    rw [List.findSome?_cons] at hspecs
    split at hspecs
    · next hspec =>
      cases hspecs
      obtain ⟨b', hadd, hg⟩ := h.addNode_error hs subs hspec
      refine ⟨b', ?_, hg⟩
      unfold addNodes
      exact bind_error hadd
    · next hspec =>
      obtain ⟨built₁, b₁, hadd, h₁, -⟩ := h.addNode_ok hs subs hspec
      obtain ⟨b', hrest, hg⟩ := ih h₁ hspecs
      refine ⟨b', ?_, hg⟩
      unfold addNodes
      rw [bind_ok hadd, hrest]

end Progress

end Build

/-! ## Builds -/

section Outcome

open Scene (host)

variable {s : Scene} (hs : s.Sound) (spec : PipelineSpec) (subs : Substitutions) (id : Nat)

/-- The chain of a build that succeeded, and the scene that it was built on before and after. -/
structure Builds (s : Scene) (spec : PipelineSpec) (subs : Substitutions) (id : Nat) (chain : Chain)
    (t : Scene) : Prop where
  grown : s.Grown t chain.handles.reverse
  carries : t.Carries chain
  types : chain.nodes.map (·.typeName) = spec.nodes.map (·.typeName)
  id_eq : chain.id = id
  asset_eq : chain.asset = (subs.get? Substitutions.assetInput).getD ""

include hs

/-- **Success.** A pipeline without a fault is built. -/
theorem build_ok (h : spec.fault? s.types = none) :
    ∃ built t, build host spec subs ⟨s, id⟩ = .ok built ⟨t, id + 1⟩ ∧
      Builds s spec subs id built.chain t := by
  obtain ⟨built, b, hadd, hp, hid, hasset⟩ := (Build.progress_start s id
    ((subs.get? Substitutions.assetInput).getD "")).addNodes_ok hs subs h
  refine ⟨built, b.host, ?_, ⟨?_, hp.carries, hp.types, hid, hasset⟩⟩
  · unfold build
    simp only [hadd]
  · rw [hp.handles, List.reverse_reverse]
    exact hp.grown

/-- **Failure.** A pipeline with a fault is not built; the scene is as before, but for its counters.
-/
theorem build_error {e : BuildError} (h : spec.fault? s.types = some e) :
    ∃ t created, s.Grown t created ∧
      build host spec subs ⟨s, id⟩ = .error e ⟨s.withCounters t.named t.lastHandle, id + 1⟩ := by
  obtain ⟨b, hadd, hg⟩ := (Build.progress_start s id
    ((subs.get? Substitutions.assetInput).getD "")).addNodes_error hs subs h
  refine ⟨b.host, b.created, hg, ?_⟩
  have hback := Scene.rollback_of_grown hs hg b.host.named b.host.lastHandle
  unfold build
  simp only [hadd]
  rw [← hback]
  rfl

variable {spec subs id}

theorem builds_of_build_ok {built : BuiltChain} {bench : Workbench Scene}
    (h : build host spec subs ⟨s, id⟩ = .ok built bench) :
    bench.nextChain = id + 1 ∧ Builds s spec subs id built.chain bench.host := by
  cases hf : spec.fault? s.types with
  | none =>
    obtain ⟨built', t, hok, hb⟩ := build_ok hs spec subs id hf
    rw [hok] at h
    cases h
    exact ⟨rfl, hb⟩
  | some e =>
    obtain ⟨t, created, -, herror⟩ := build_error hs spec subs id hf
    rw [herror] at h
    cases h

theorem onlyCounted_of_build_error {e : BuildError} {bench : Workbench Scene}
    (h : build host spec subs ⟨s, id⟩ = .error e bench) :
    bench.nextChain = id + 1 ∧ s.OnlyCounted bench.host := by
  cases hf : spec.fault? s.types with
  | none =>
    obtain ⟨built, t, hok, -⟩ := build_ok hs spec subs id hf
    rw [hok] at h
    cases h
  | some e' =>
    obtain ⟨t, created, hg, herror⟩ := build_error hs spec subs id hf
    rw [herror] at h
    cases h
    exact ⟨rfl, hg.onlyCounted⟩

end Outcome

end AssetCheck
