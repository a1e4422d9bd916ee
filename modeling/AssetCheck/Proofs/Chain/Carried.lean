import AssetCheck.Proofs.Chain.Ancestry
import AssetCheck.Proofs.Scene.Answers
import AssetCheck.Proofs.Scene.Growth

/-!
# Chains on a scene

A scene carries a chain if each node of the chain is a node of the scene, with the type that the
chain names, and is connected to the node before it in the chain and to nothing else
(`Scene.Carries`). This is the simulation between the record of a chain and the graph of its host.
It is kept by whatever does not connect or remove nodes of the chain itself, so later operations on
other nodes do not matter.
-/

namespace AssetCheck

/-- The node that feeds a position of a chain. -/
def Chain.source? (c : Chain) (position : Nat) : Option NodeHandle :=
  if position = 0 then none else c.handles[position - 1]?

theorem Chain.source?_succ {c : Chain} {position : Nat} {node : ChainNode}
    (h : c.node? position = some node) : c.source? (position + 1) = some node.handle := by
  unfold source?
  rw [if_neg (by omega), Nat.add_sub_cancel]
  exact handles_getElem? h

namespace Scene

/-- The nodes of a chain are there, and are connected as the chain says. -/
structure Carries (s : Scene) (c : Chain) : Prop where
  linear : c.Linear
  distinct : c.handles.Nodup
  link : ∀ position node, c.node? position = some node →
    s.link? node.handle = some (node.typeName, c.source? position)

/-- The move does not connect or remove a node of the chain. -/
def Move.leaves (c : Chain) : Move → Prop
  | .ask (.connectInput handle _) => handle ∉ c.handles
  | .ask (.destroyNode handle) => handle ∉ c.handles
  | _ => True

section Carries

variable {s t : Scene} {c : Chain}

theorem Carries.mem_keys (h : Carries s c) {handle : NodeHandle} (hmem : handle ∈ c.handles) :
    handle ∈ s.nodes.keys := by
  obtain ⟨position, node, hnode, rfl⟩ := Chain.exists_node?_of_mem hmem
  exact mem_keys_iff_link?.2 ⟨_, h.link position node hnode⟩

theorem Carries.inputs_eq (h : Carries s c) {position : Nat} {node : ChainNode}
    (hnode : c.node? position = some node) :
    host.inputs node.handle s = .ok (c.source? position).toList s := by
  obtain ⟨n, hn, -, hinput⟩ := exists_get?_of_link? (h.link position node hnode)
  rw [Scene.inputs_eq hn, hinput]

theorem Carries.nodeType_eq (h : Carries s c) {position : Nat} {node : ChainNode}
    (hnode : c.node? position = some node) : host.nodeType node.handle s = .ok node.typeName s := by
  obtain ⟨n, hn, htype, -⟩ := exists_get?_of_link? (h.link position node hnode)
  rw [Scene.nodeType_eq hn, htype]

theorem Carries.length_le (h : Carries s c) : c.nodes.length ≤ s.nodes.length := by
  have hsubset : c.handles ⊆ s.nodes.keys := fun _ hmem => h.mem_keys hmem
  have hle := h.distinct.length_le_of_subset hsubset
  simp only [Chain.handles, Table.keys, List.length_map] at hle
  exact hle

theorem source?_mem {position : Nat} {handle : NodeHandle} (h : c.source? position = some handle) :
    handle ∈ c.handles := by
  unfold Chain.source? at h
  split at h
  · cases h
  · exact List.mem_of_getElem? h

theorem Carries.of_links (h : Carries s c)
    (hl : ∀ handle ∈ c.handles, t.link? handle = s.link? handle) :
    Carries t c where
  linear := h.linear
  distinct := h.distinct
  link := by
    intro position node hnode
    rw [hl node.handle (Chain.handle_mem hnode)]
    exact h.link position node hnode

theorem Carries.grown (h : Carries s c) {created : List NodeHandle} (hg : Grown s t created) :
    Carries t c :=
  h.of_links fun _ hmem => hg.link?_eq (h.mem_keys hmem)

theorem Carries.without (h : Carries s c) {handle : NodeHandle} (hmem : handle ∉ c.handles) :
    Carries (s.without handle) c where
  linear := h.linear
  distinct := h.distinct
  link := by
    intro position node hnode
    have hne : node.handle ≠ handle := fun he => hmem (he ▸ Chain.handle_mem hnode)
    have hsource : c.source? position ≠ some handle := fun he => hmem (source?_mem he)
    rw [link?_without, if_neg hne, h.link position node hnode, Option.map_some]
    simp only [if_neg hsource]

theorem Carries.connected (h : Carries s c) {handle : NodeHandle} (hmem : handle ∉ c.handles)
    (source : NodeHandle) : Carries (s.connected handle source) c := by
  refine h.of_links fun other hother => ?_
  have hne : other ≠ handle := fun he => hmem (he ▸ hother)
  rw [link?_connected, if_neg hne]

/-- **Frame.** Moves that leave a chain alone keep it on its scene. -/
theorem Carries.move (h : Carries s c) {m : Move} (hm : m.leaves c) : Carries (m.apply s) c := by
  have heffect := effect_apply s m
  generalize m.apply s = t at heffect ⊢
  cases heffect with
  | still hg => exact h.of_links fun handle _ => hg.link handle
  | registered type => exact h.of_links fun _ _ => rfl
  | @created typeName type ht =>
    have hg : Grown s ((s.counted typeName).add s.nextHandle (s.newNode typeName type))
        [s.nextHandle] :=
      .create (n := s.newNode typeName type) .start ht fun input hi => by cases hi
    exact h.grown hg
  | removed _ => exact h.without hm
  | connected _ _ => exact h.connected hm _

end Carries

/-! ## A chain that is being built -/

theorem carries_empty (s : Scene) (id : Nat) (asset : String) :
    Carries s (Chain.empty id asset) where
  linear := Chain.linear_empty id asset
  distinct := List.nodup_nil
  link := by intro position node h; cases h

theorem source?_length (c : Chain) :
    c.source? c.nodes.length = c.nodes.getLast?.map (·.handle) := by
  unfold Chain.source? Chain.handles
  rw [List.getLast?_eq_getElem?, List.getElem?_map]
  split
  · next h => rw [List.length_eq_zero_iff.1 h]; rfl
  · rfl

/-- A node at the end of a chain and of its scene, fed by the last node so far. -/
theorem Carries.push {s t : Scene} {c : Chain} (h : Carries s c) (hs : Sound s) {n : SceneNode}
    {type : NodeType} (htype : s.types.get? n.typeName = some type)
    (hinput : n.input = c.nodes.getLast?.map (·.handle)) (assignments : List Assignment)
    (ht : t = (s.counted n.typeName).add s.nextHandle n) :
    Carries t (c.push s.nextHandle n.typeName assignments) := by
  have hfresh := nextHandle_not_mem hs
  have hlast : ∀ input, n.input = some input → input ∈ s.nodes.keys := by
    intro input hi
    rw [hinput, ← source?_length] at hi
    exact h.mem_keys (source?_mem hi)
  have hold : Carries t c := ht ▸ h.grown (.create .start htype hlast)
  have hsource : ∀ position ≤ c.nodes.length,
      (c.push s.nextHandle n.typeName assignments).source? position = c.source? position := by
    intro position hle
    unfold Chain.source?
    split
    · rfl
    · rw [Chain.handles_push, List.getElem?_append_left]
      simp only [Chain.handles, List.length_map]
      omega
  refine ⟨h.linear.push s.nextHandle n.typeName assignments, ?_, ?_⟩
  · rw [Chain.handles_push, List.nodup_append]
    refine ⟨h.distinct, by simp, fun a ha b hb hab => hfresh ?_⟩
    rw [List.mem_singleton] at hb
    exact hb ▸ hab ▸ h.mem_keys ha
  · intro position node hnode
    rcases Chain.node?_push_cases hnode with hnode | ⟨rfl, hhandle, htypeName, -, -⟩
    · rw [hsource position (Nat.le_of_lt (Chain.node?_lt hnode))]
      exact hold.link position node hnode
    · rw [hsource _ (Nat.le_refl _), hhandle, htypeName, source?_length, ← hinput, ht]
      exact (link?_add (s := s.counted n.typeName) hfresh n _).trans (if_pos rfl)

end Scene

end AssetCheck
