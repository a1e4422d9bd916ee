import AssetCheck.Proofs.Build.Outcome

/-!
# What a builder leaves behind

A builder goes on building on one scene, with success or without, while others use the scene as they
like, as long as they do not connect or remove nodes of its chains (`History`). All along, the scene
holds each chain as it was built, and no two chains have a node or a number in common
(`chains_never_cross`).

The invariant is `Ledger`. A new chain is apart from the older ones because its handles lie above
the counter, and theirs, being handles of nodes that are still there, do not.
-/

namespace AssetCheck

open Scene (host Carries)

/-! ## What a scene tells about a chain -/

/-- The scene tells of each node of a chain what the chain says. -/
structure Scene.Tells (s : Scene) (c : Chain) : Prop where
  first : ∀ node, c.node? 0 = some node → host.inputs node.handle s = .ok [] s
  next : ∀ position node following, c.node? position = some node →
    c.node? (position + 1) = some following →
    host.inputs following.handle s = .ok [node.handle] s
  type : ∀ position node, c.node? position = some node →
    host.nodeType node.handle s = .ok node.typeName s

theorem Scene.Carries.tells {s : Scene} {c : Chain} (h : s.Carries c) : s.Tells c where
  first := fun _ hnode => h.inputs_eq hnode
  next := by
    intro position node following hnode hfollowing
    rw [h.inputs_eq hfollowing, Chain.source?_succ hnode]
    rfl
  type := fun _ _ hnode => h.nodeType_eq hnode

/-! ## Histories -/

/-- A chain and the pipeline that it was built for. -/
abbrev Made := PipelineSpec × Chain

/-- A bench in the hands of one builder, and the chains built on it so far, the oldest one first. -/
inductive History : Workbench Scene → List Made → Prop
  | start {s : Scene} (id : Nat) : s.Reachable → History ⟨s, id⟩ []
  | built {bench bench' : Workbench Scene} {past : List Made} {spec : PipelineSpec}
      {subs : Substitutions} {built : BuiltChain} : History bench past →
      build host spec subs bench = .ok built bench' →
      History bench' (past ++ [(spec, built.chain)])
  | failed {bench bench' : Workbench Scene} {past : List Made} {spec : PipelineSpec}
      {subs : Substitutions} {e : BuildError} : History bench past →
      build host spec subs bench = .error e bench' →
      History bench' past
  | moved {bench : Workbench Scene} {past : List Made} (m : Scene.Move) : History bench past →
      (∀ made ∈ past, m.leaves made.2) → History { bench with host := m.apply bench.host } past

/-- Chains that have no node and no number in common. -/
def Chain.Apart (c d : Chain) : Prop := c.id ≠ d.id ∧ ∀ handle ∈ c.handles, handle ∉ d.handles

/-- The laws of a bench and the chains built on it. -/
structure Ledger (bench : Workbench Scene) (past : List Made) : Prop where
  sound : bench.host.Sound
  carries : ∀ made ∈ past, bench.host.Carries made.2
  types : ∀ made ∈ past, made.2.nodes.map (·.typeName) = made.1.nodes.map (·.typeName)
  ids : ∀ made ∈ past, made.2.id < bench.nextChain
  apart : past.Pairwise fun made later => made.2.Apart later.2

namespace Ledger

variable {bench bench' : Workbench Scene} {past : List Made} (h : Ledger bench past)

include h

theorem failed {spec : PipelineSpec} {subs : Substitutions} {e : BuildError}
    (hb : build host spec subs bench = .error e bench') : Ledger bench' past := by
  obtain ⟨hnext, honly⟩ := onlyCounted_of_build_error h.sound hb
  refine ⟨honly.sound h.sound, ?_, h.types, ?_, h.apart⟩
  · exact fun made hmem => (h.carries made hmem).of_links fun handle _ => honly.link?_eq handle
  · intro made hmem
    have hid := h.ids made hmem
    omega

theorem built {spec : PipelineSpec} {subs : Substitutions} {built : BuiltChain}
    (hb : build host spec subs bench = .ok built bench') :
    Ledger bench' (past ++ [(spec, built.chain)]) := by
  obtain ⟨hnext, hbuilds⟩ := builds_of_build_ok h.sound hb
  have hold : ∀ made ∈ past, bench'.host.Carries made.2 := fun made hmem =>
    (h.carries made hmem).grown hbuilds.grown
  refine ⟨hbuilds.grown.sound h.sound, ?_, ?_, ?_, ?_⟩
  · exact List.forall_mem_append.2 ⟨hold, List.forall_mem_singleton.2 hbuilds.carries⟩
  · exact List.forall_mem_append.2 ⟨h.types, List.forall_mem_singleton.2 hbuilds.types⟩
  · refine List.forall_mem_append.2 ⟨fun made hmem => ?_, List.forall_mem_singleton.2 ?_⟩
    · have hid := h.ids made hmem
      omega
    · have hid := hbuilds.id_eq
      show built.chain.id < bench'.nextChain
      omega
  · refine List.pairwise_append.2
      ⟨h.apart, List.pairwise_singleton .., fun made hmem later hlater => ?_⟩
    rw [List.mem_singleton] at hlater
    subst hlater
    constructor
    · have hid := h.ids made hmem
      have hid' := hbuilds.id_eq
      show made.2.id ≠ built.chain.id
      omega
    · -- A handle of an older chain is one of a node, and has been given out before.
      intro handle hhandle hnew
      have hgiven := (h.sound.handles handle ((h.carries made hmem).mem_keys hhandle)).2
      have hfresh := hbuilds.grown.lt_of_mem (List.mem_reverse.2 hnew)
      omega

theorem moved {m : Scene.Move} (hm : ∀ made ∈ past, m.leaves made.2) :
    Ledger { bench with host := m.apply bench.host } past where
  sound := h.sound.move m
  carries := fun made hmem => (h.carries made hmem).move (hm made hmem)
  types := h.types
  ids := h.ids
  apart := h.apart

end Ledger

theorem History.ledger {bench : Workbench Scene} {past : List Made} (h : History bench past) :
    Ledger bench past := by
  induction h with
  | start id hs =>
    exact ⟨hs.sound, List.forall_mem_nil _, List.forall_mem_nil _, List.forall_mem_nil _, .nil⟩
  | built _ hb ih => exact ih.built hb
  | failed _ hb ih => exact ih.failed hb
  | moved m _ hm ih => exact ih.moved hm

/-- **No crossing.** At any time of a builder's history the scene tells of each chain what was
built: a node for each node of the pipeline, of its type, in its order, and connected to the one
before it alone. No node stands twice in a chain, and chains are apart. -/
theorem chains_never_cross {bench : Workbench Scene} {past : List Made} (h : History bench past) :
    (∀ made ∈ past, made.2.nodes.map (·.typeName) = made.1.nodes.map (·.typeName) ∧
      made.2.handles.Nodup ∧ bench.host.Tells made.2) ∧
    past.Pairwise fun made later => made.2.Apart later.2 := by
  have hledger := h.ledger
  refine ⟨fun made hmem => ⟨hledger.types made hmem, ?_, ?_⟩, hledger.apart⟩
  · exact (hledger.carries made hmem).distinct
  · exact (hledger.carries made hmem).tells

/-- The pipeline of two loaders, the first of which feeds the second. -/
def PipelineSpec.twoLoaders : PipelineSpec := ⟨[⟨"file", []⟩, ⟨"file", []⟩]⟩

def Chain.twoLoaders (id : Nat) (first second : NodeHandle) : Chain :=
  ⟨id, "", [⟨first, "file", 0, none, []⟩, ⟨second, "file", 1, some 0, []⟩]⟩

def SceneNode.loader (number : Nat) (input : Option NodeHandle) : SceneNode :=
  ⟨"file" ++ toString number, "file", [("file", .text "")], input, false⟩

/-- A chain, a build that fails at its second node, a node of somebody else behind the chain, and
then another chain. -/
theorem chains_never_cross_two_chains :
    ∃ bench,
      History bench [(.twoLoaders, .twoLoaders 0 ⟨1⟩ ⟨2⟩), (.twoLoaders, .twoLoaders 2 ⟨5⟩ ⟨6⟩)] ∧
      bench.host.Tells (.twoLoaders 0 ⟨1⟩ ⟨2⟩) ∧ bench.host.Tells (.twoLoaders 2 ⟨5⟩ ⟨6⟩) ∧
      (Chain.twoLoaders 0 ⟨1⟩ ⟨2⟩).Apart (.twoLoaders 2 ⟨5⟩ ⟨6⟩) := by
  let s₁ : Scene := { Scene.standard with
    named := [("file", 2)], lastHandle := 2
    nodes := [(⟨1⟩, .loader 1 none), (⟨2⟩, .loader 2 (some ⟨1⟩))] }
  let s₂ : Scene := { s₁ with named := [("file", 3)], lastHandle := 3 }
  let s₃ : Scene := { s₁ with
    named := [("file", 4)], lastHandle := 4, nodes := s₁.nodes ++ [(⟨4⟩, .loader 4 none)] }
  let s₄ : Scene := { s₃ with nodes := s₁.nodes ++ [(⟨4⟩, .loader 4 (some ⟨2⟩))] }
  let s₅ : Scene := { s₄ with
    named := [("file", 6)], lastHandle := 6
    nodes := s₄.nodes ++ [(⟨5⟩, .loader 5 none), (⟨6⟩, .loader 6 (some ⟨5⟩))] }
  have hb₁ : build host .twoLoaders .empty ⟨Scene.standard, 0⟩ =
      .ok ⟨.twoLoaders 0 ⟨1⟩ ⟨2⟩, []⟩ ⟨s₁, 1⟩ := rfl
  have hb₂ : build host ⟨[⟨"file", []⟩, ⟨"check_unknown", []⟩]⟩ .empty ⟨s₁, 1⟩ =
      .error (.unknownNodeType "check_unknown") ⟨s₂, 2⟩ := rfl
  have hb₅ : build host .twoLoaders .empty ⟨s₄, 2⟩ = .ok ⟨.twoLoaders 2 ⟨5⟩ ⟨6⟩, []⟩ ⟨s₅, 3⟩ := rfl
  have hother : (⟨4⟩ : NodeHandle) ∉ (Chain.twoLoaders 0 ⟨1⟩ ⟨2⟩).handles := by decide
  have h₁ : History ⟨s₁, 1⟩ [(.twoLoaders, .twoLoaders 0 ⟨1⟩ ⟨2⟩)] :=
    .built (.start 0 .standard) hb₁
  have h₂ : History ⟨s₂, 2⟩ _ := h₁.failed hb₂
  have h₃ : History ⟨s₃, 2⟩ _ := h₂.moved (.ask (.createNode "file")) fun _ _ => trivial
  have h₄ : History ⟨s₄, 2⟩ _ :=
    h₃.moved (.ask (.connectInput ⟨4⟩ ⟨2⟩)) (List.forall_mem_singleton.2 hother)
  have h₅ : History ⟨s₅, 3⟩ _ := h₄.built hb₅
  obtain ⟨hmade, hapart⟩ := chains_never_cross h₅
  refine ⟨_, h₅, (hmade _ (.head _)).2.2, (hmade _ (.tail _ (.head _))).2.2, ?_⟩
  exact (List.pairwise_cons.1 hapart).1 _ (.head _)

end AssetCheck
