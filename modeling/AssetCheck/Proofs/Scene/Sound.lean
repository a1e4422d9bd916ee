import AssetCheck.Proofs.Scene.Moves

/-!
# The invariant of scenes

In a reachable scene the handles of nodes are distinct and have been given out, inputs are nodes of
the scene, and the type of each node is registered (`Scene.Sound`). Each operation is described by
what it does to links; that it keeps the invariant follows from this alone (`Sound.move`,
`Reachable.sound`).
-/

namespace AssetCheck.Scene

/-- The laws between the tables of a scene. -/
structure Sound (s : Scene) : Prop where
  distinct : s.nodes.keys.Nodup
  handles : ∀ handle ∈ s.nodes.keys, 0 < handle.id ∧ handle.id ≤ s.lastHandle
  inputs : ∀ handle typeName input,
    s.link? handle = some (typeName, some input) → input ∈ s.nodes.keys
  typed : ∀ handle typeName input,
    s.link? handle = some (typeName, input) → ∃ type, s.types.get? typeName = some type

/-! ## Links after an operation -/

theorem nextHandle_not_mem {s : Scene} (h : Sound s) : s.nextHandle ∉ s.nodes.keys := by
  intro hmem
  have := (h.handles _ hmem).2
  simp only [nextHandle] at this
  omega

@[simp] theorem keys_add (s : Scene) (handle : NodeHandle) (n : SceneNode) :
    (s.add handle n).nodes.keys = s.nodes.keys ++ [handle] := by
  simp [add]

theorem get?_add {s : Scene} {handle : NodeHandle} (h : handle ∉ s.nodes.keys) (n : SceneNode)
    (other : NodeHandle) :
    (s.add handle n).nodes.get? other = if other = handle then some n else s.nodes.get? other := by
  show Table.get? (s.nodes ++ [(handle, n)]) other = _
  by_cases ho : other = handle
  · subst ho
    rw [if_pos rfl, Table.get?_append_of_not_mem h, Table.get?_cons, if_pos rfl]
  · rw [if_neg ho, Table.get?_append, Table.get?_cons, if_neg (Ne.symm ho), Table.get?_nil,
      Option.or_none]

theorem get?_add_self {s : Scene} {handle : NodeHandle} (h : handle ∉ s.nodes.keys)
    (n : SceneNode) : (s.add handle n).nodes.get? handle = some n := by
  rw [get?_add h, if_pos rfl]

theorem link?_add {s : Scene} {handle : NodeHandle} (h : handle ∉ s.nodes.keys) (n : SceneNode)
    (other : NodeHandle) :
    (s.add handle n).link? other =
      if other = handle then some (n.typeName, n.input) else s.link? other := by
  unfold link?
  rw [get?_add h]
  split <;> rfl

@[simp] theorem keys_without (s : Scene) (handle : NodeHandle) :
    (s.without handle).nodes.keys = s.nodes.keys.filter (· ≠ handle) := by
  rw [← Table.keys_erase]
  exact Table.keys_map_values (s.nodes.erase handle) fun _ => detached handle

theorem get?_without (s : Scene) (handle other : NodeHandle) :
    (s.without handle).nodes.get? other =
      if other = handle then none else (s.nodes.get? other).map (detached handle) := by
  have hget : (s.without handle).nodes.get? other =
      ((s.nodes.erase handle).get? other).map (detached handle) :=
    Table.get?_map_values (s.nodes.erase handle) (fun _ => detached handle) other
  rw [hget, Table.get?_erase]
  split <;> rfl

theorem link?_without (s : Scene) (handle other : NodeHandle) :
    (s.without handle).link? other =
      if other = handle then none
      else (s.link? other).map fun link =>
        (link.1, if link.2 = some handle then none else link.2) := by
  unfold link?
  rw [get?_without]
  by_cases ho : other = handle
  · rw [if_pos ho, if_pos ho]
    rfl
  · rw [if_neg ho, if_neg ho]
    cases s.nodes.get? other with
    | none => rfl
    | some n =>
      by_cases hi : n.input = some handle <;> simp [detached, hi]

@[simp] theorem keys_connected (s : Scene) (handle source : NodeHandle) :
    (s.connected handle source).nodes.keys = s.nodes.keys :=
  keys_updateNode ..

theorem link?_connected (s : Scene) (handle source other : NodeHandle) :
    (s.connected handle source).link? other =
      if other = handle then (s.link? other).map fun link => (link.1, some source)
      else s.link? other := by
  unfold link? connected
  rw [get?_updateNode]
  by_cases ho : other = handle
  · rw [if_pos ho]
    cases s.nodes.get? other <;> simp [ho]
  · rw [if_neg ho]
    cases s.nodes.get? other <;> simp [ho]

/-! ## Keeping the invariant -/

theorem Sound.empty : Sound {} where
  distinct := List.nodup_nil
  handles := by intro handle hmem; cases hmem
  inputs := by intro handle typeName input h; cases h
  typed := by intro handle typeName input h; cases h

theorem Sound.register {s : Scene} (h : Sound s) (type : NodeType) : Sound (s.register type) where
  distinct := h.distinct
  handles := h.handles
  inputs := h.inputs
  typed := by
    intro handle typeName input hl
    obtain ⟨old, hold⟩ := h.typed handle typeName input hl
    show ∃ t, (s.types.insert type.name type).get? typeName = some t
    rw [Table.get?_insert]
    by_cases hn : type.name = typeName
    · exact ⟨type, if_pos hn⟩
    · exact ⟨old, by rw [if_neg hn, hold]⟩

theorem Sound.sameGraph {s t : Scene} (h : Sound s) (hg : SameGraph s t) : Sound t where
  distinct := by rw [hg.keys]; exact h.distinct
  handles := by rw [hg.keys, hg.lastHandle]; exact h.handles
  inputs := by
    intro handle typeName input hl
    rw [hg.link] at hl
    rw [hg.keys]
    exact h.inputs handle typeName input hl
  typed := by
    intro handle typeName input hl
    rw [hg.link] at hl
    rw [hg.types]
    exact h.typed handle typeName input hl

theorem Sound.create {s : Scene} (h : Sound s) {typeName : String} {type : NodeType}
    (ht : s.types.get? typeName = some type) {n : SceneNode} (hn : n.typeName = typeName)
    (hi : ∀ input, n.input = some input → input ∈ s.nodes.keys) :
    Sound ((s.counted typeName).add s.nextHandle n) := by
  have hfresh := nextHandle_not_mem h
  have hlink : ∀ other, ((s.counted typeName).add s.nextHandle n).link? other =
      if other = s.nextHandle then some (n.typeName, n.input) else s.link? other :=
    link?_add (s := s.counted typeName) hfresh n
  have hkeys : ((s.counted typeName).add s.nextHandle n).nodes.keys =
      s.nodes.keys ++ [s.nextHandle] :=
    keys_add ..
  constructor
  · rw [hkeys, List.nodup_append]
    refine ⟨h.distinct, by simp, fun a ha b hb => ?_⟩
    rw [List.mem_singleton] at hb
    exact fun hab => hfresh (hb ▸ hab ▸ ha)
  · intro handle hmem
    rw [hkeys, List.mem_append, List.mem_singleton] at hmem
    show 0 < handle.id ∧ handle.id ≤ s.lastHandle + 1
    rcases hmem with hmem | rfl
    · have := h.handles handle hmem
      omega
    · simp only [nextHandle]
      omega
  · intro handle name input hl
    rw [hlink] at hl
    rw [hkeys, List.mem_append]
    by_cases ho : handle = s.nextHandle
    · rw [if_pos ho, Option.some.injEq, Prod.mk.injEq] at hl
      exact Or.inl (hi input hl.2)
    · rw [if_neg ho] at hl
      exact Or.inl (h.inputs handle name input hl)
  · intro handle name input hl
    rw [hlink] at hl
    show ∃ t, s.types.get? name = some t
    by_cases ho : handle = s.nextHandle
    · rw [if_pos ho, Option.some.injEq, Prod.mk.injEq, hn] at hl
      exact ⟨type, hl.1 ▸ ht⟩
    · rw [if_neg ho] at hl
      exact h.typed handle name input hl

theorem Sound.without {s : Scene} (h : Sound s) (handle : NodeHandle) :
    Sound (s.without handle) where
  distinct := by rw [keys_without]; exact h.distinct.filter _
  handles := by
    intro other hmem
    rw [keys_without, List.mem_filter] at hmem
    exact h.handles other hmem.1
  inputs := by
    intro other typeName input hl
    rw [link?_without] at hl
    by_cases ho : other = handle
    · rw [if_pos ho] at hl
      cases hl
    · rw [if_neg ho, Option.map_eq_some_iff] at hl
      obtain ⟨link, hlink, he⟩ := hl
      rw [Prod.mk.injEq] at he
      by_cases hi : link.2 = some handle
      · rw [if_pos hi] at he
        cases he.2
      · rw [if_neg hi] at he
        rw [keys_without, List.mem_filter]
        refine ⟨h.inputs other link.1 input (he.2 ▸ hlink), decide_eq_true fun hc => hi ?_⟩
        rw [he.2, hc]
  typed := by
    intro other typeName input hl
    rw [link?_without] at hl
    by_cases ho : other = handle
    · rw [if_pos ho] at hl
      cases hl
    · rw [if_neg ho, Option.map_eq_some_iff] at hl
      obtain ⟨link, hlink, he⟩ := hl
      rw [Prod.mk.injEq] at he
      exact h.typed other typeName link.2 (he.1 ▸ hlink)

theorem Sound.connected {s : Scene} (h : Sound s) {handle source : NodeHandle}
    (hs : source ∈ s.nodes.keys) : Sound (s.connected handle source) where
  distinct := by rw [keys_connected]; exact h.distinct
  handles := by rw [keys_connected]; exact h.handles
  inputs := by
    intro other typeName input hl
    rw [link?_connected] at hl
    rw [keys_connected]
    by_cases ho : other = handle
    · rw [if_pos ho, Option.map_eq_some_iff] at hl
      obtain ⟨link, -, he⟩ := hl
      rw [Prod.mk.injEq, Option.some.injEq] at he
      exact he.2 ▸ hs
    · rw [if_neg ho] at hl
      exact h.inputs other typeName input hl
  typed := by
    intro other typeName input hl
    rw [link?_connected] at hl
    by_cases ho : other = handle
    · rw [if_pos ho, Option.map_eq_some_iff] at hl
      obtain ⟨link, hlink, he⟩ := hl
      rw [Prod.mk.injEq] at he
      exact h.typed other typeName link.2 (he.1 ▸ hlink)
    · rw [if_neg ho] at hl
      exact h.typed other typeName input hl

/-- Every move keeps the invariant. -/
theorem Sound.move {s : Scene} (h : Sound s) (m : Move) : Sound (m.apply s) := by
  have heffect := effect_apply s m
  generalize m.apply s = t at heffect ⊢
  cases heffect with
  | still hg => exact h.sameGraph hg
  | registered type => exact h.register type
  | created ht => exact h.create ht rfl fun input hi => by cases hi
  | removed _ => exact h.without _
  | connected hs _ => exact h.connected hs

theorem Reachable.sound {s : Scene} (h : Reachable s) : Sound s := by
  induction h with
  | new => exact .empty
  | move m _ ih => exact ih.move m

end AssetCheck.Scene
