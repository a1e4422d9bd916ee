import AssetCheck.Chain.Build
import AssetCheck.Proofs.Scene.Sound

/-!
# Scenes that grow

Building adds nodes behind those of a scene, each under the next handle (`Scene.Grown`). New nodes
take their input from nodes of the scene, so no old node depends on a new one, and removing the new
nodes, the last one first, brings the scene back but for its counters (`rollback_of_grown`): handles
and names are not given out again (`OnlyCounted`).
-/

namespace AssetCheck.Scene

def withCounters (s : Scene) (named : Table String Nat) (lastHandle : Nat) : Scene :=
  { s with named, lastHandle }

/-- `t` is `s` with more nodes; their handles are listed from the last one. -/
inductive Grown (s : Scene) : Scene → List NodeHandle → Prop
  | start : Grown s s []
  | create {t : Scene} {created : List NodeHandle} {type : NodeType} {n : SceneNode} :
      Grown s t created → t.types.get? n.typeName = some type →
      (∀ input, n.input = some input → input ∈ t.nodes.keys) →
      Grown s ((t.counted n.typeName).add t.nextHandle n) (t.nextHandle :: created)

section Grown

variable {s t : Scene} {created : List NodeHandle}

theorem Grown.sound (h : Grown s t created) (hs : Sound s) : Sound t := by
  induction h with
  | start => exact hs
  | create _ htype hinput ih => exact ih.create htype rfl hinput

theorem Grown.types (h : Grown s t created) : t.types = s.types := by
  induction h with
  | start => rfl
  | create _ _ _ ih => exact ih

theorem Grown.keys (h : Grown s t created) : t.nodes.keys = s.nodes.keys ++ created.reverse := by
  induction h with
  | start => simp
  | create _ _ _ ih => rw [keys_add, List.reverse_cons, ← List.append_assoc, ← ih]; rfl

theorem Grown.lastHandle (h : Grown s t created) :
    t.lastHandle = s.lastHandle + created.length := by
  induction h with
  | start => rfl
  | create _ _ _ ih =>
    rw [List.length_cons, ← Nat.add_assoc, ← ih]
    rfl

theorem Grown.lt_of_mem (h : Grown s t created) {handle : NodeHandle} (hmem : handle ∈ created) :
    s.lastHandle < handle.id := by
  induction h with
  | start => cases hmem
  | create hg _ _ ih =>
    rcases List.mem_cons.1 hmem with rfl | hmem
    · have := hg.lastHandle
      simp only [nextHandle]
      omega
    · exact ih hmem

theorem Grown.nodup (h : Grown s t created) (hs : Sound s) : created.Nodup := by
  have hd := (h.sound hs).distinct
  rw [h.keys, List.nodup_append] at hd
  exact (List.reverse_perm created).nodup hd.2.1

theorem Grown.le_named (h : Grown s t created) (typeName : String) :
    (s.named.get? typeName).getD 0 ≤ (t.named.get? typeName).getD 0 := by
  induction h with
  | start => exact Nat.le_refl _
  | @create t _ _ n _ _ _ ih => exact Nat.le_trans ih (count_le_counted t n.typeName typeName)

/-- A node that is there stays as it is while others are added. -/
theorem Grown.get?_eq (h : Grown s t created) {handle : NodeHandle}
    (hmem : handle ∈ s.nodes.keys) : t.nodes.get? handle = s.nodes.get? handle := by
  obtain ⟨n, hn⟩ := Table.mem_keys_iff.1 hmem
  induction h with
  | start => rfl
  | @create t _ _ new _ _ _ ih =>
    show Table.get? (t.nodes ++ [(t.nextHandle, new)]) handle = _
    rw [Table.get?_append, ih, hn]
    rfl

theorem Grown.link?_eq (h : Grown s t created) {handle : NodeHandle}
    (hmem : handle ∈ s.nodes.keys) : t.link? handle = s.link? handle := by
  unfold link?; rw [h.get?_eq hmem]

theorem Grown.trans {u : Scene} {later : List NodeHandle} (h : Grown s t created)
    (h' : Grown t u later) : Grown s u (later ++ created) := by
  induction h' with
  | start => exact h
  | create _ htype hinput ih => exact .create ih htype hinput

end Grown

/-! ## Advanced counters -/

/-- Nothing but counters differs, and these have advanced. -/
structure OnlyCounted (s t : Scene) : Prop where
  nodes : t.nodes = s.nodes
  types : t.types = s.types
  fired : t.fired = s.fired
  saved : t.saved = s.saved
  layouts : t.layouts = s.layouts
  lastHandle : s.lastHandle ≤ t.lastHandle
  named : ∀ typeName, (s.named.get? typeName).getD 0 ≤ (t.named.get? typeName).getD 0

theorem Grown.onlyCounted {s t : Scene} {created : List NodeHandle} (h : Grown s t created) :
    OnlyCounted s (s.withCounters t.named t.lastHandle) where
  nodes := rfl
  types := rfl
  fired := rfl
  saved := rfl
  layouts := rfl
  lastHandle := by
    show s.lastHandle ≤ t.lastHandle
    rw [h.lastHandle]
    omega
  named := h.le_named

theorem OnlyCounted.link?_eq {s t : Scene} (h : OnlyCounted s t) (handle : NodeHandle) :
    t.link? handle = s.link? handle := by
  unfold link?; rw [h.nodes]

theorem OnlyCounted.sound {s t : Scene} (h : OnlyCounted s t) (hs : Sound s) : Sound t where
  distinct := by rw [h.nodes]; exact hs.distinct
  handles := by
    intro handle hmem
    rw [h.nodes] at hmem
    have hid := hs.handles handle hmem
    have hlast := h.lastHandle
    omega
  inputs := by
    intro handle typeName input hl
    rw [h.link?_eq] at hl
    rw [h.nodes]
    exact hs.inputs handle typeName input hl
  typed := by
    intro handle typeName input hl
    rw [h.link?_eq] at hl
    rw [h.types]
    exact hs.typed handle typeName input hl

/-! ## Taking nodes away again -/

/-- Removing a node that no other depends on undoes putting it there. -/
theorem without_add {s : Scene} (hs : Sound s) {handle : NodeHandle} (h : handle ∉ s.nodes.keys)
    (n : SceneNode) : (s.add handle n).without handle = s := by
  have hnodes : ((s.add handle n).without handle).nodes = s.nodes := by
    show ((s.nodes ++ [(handle, n)]).erase handle).map
      (fun entry => (entry.1, detached handle entry.2)) = s.nodes
    have herase : Table.erase [(handle, n)] handle = [] := by simp [Table.erase]
    rw [Table.erase_append, Table.erase_eq_self h, herase, List.append_nil]
    refine Table.map_values_eq_self (f := fun _ => detached handle) fun entry hmem => ?_
    have hget := Table.get?_of_mem hs.distinct hmem
    refine if_neg fun hi => h ?_
    exact hs.inputs entry.1 entry.2.typeName handle (by rw [link?_of_get? hget, hi])
  show { s with nodes := ((s.add handle n).without handle).nodes } = s
  rw [hnodes]

/-- **Rollback.** Removing the nodes that a scene has grown by, the last one first, leaves the scene
as it was, but for the counters. -/
theorem rollback_of_grown {s t : Scene} {created : List NodeHandle} (hs : Sound s)
    (h : Grown s t created) (named : Table String Nat) (lastHandle : Nat) :
    Build.rollback host created (t.withCounters named lastHandle) =
      s.withCounters named lastHandle := by
  induction h with
  | start => rfl
  | @create t created _ n hg _ _ ih =>
    have ht := hg.sound hs
    have hfresh := nextHandle_not_mem ht
    have hsplit : ((t.counted n.typeName).add t.nextHandle n).withCounters named lastHandle =
        (t.add t.nextHandle n).withCounters named lastHandle := rfl
    have hdestroy : host.destroyNode t.nextHandle
        ((t.add t.nextHandle n).withCounters named lastHandle) =
        .ok () (t.withCounters named lastHandle) := by
      have hmem : t.nextHandle ∈
          ((t.add t.nextHandle n).withCounters named lastHandle).nodes.keys := by
        show t.nextHandle ∈ (t.add t.nextHandle n).nodes.keys
        rw [keys_add]
        exact List.mem_append_right _ (List.mem_singleton.2 rfl)
      refine (destroyNode_of_mem hmem).trans ?_
      show EStateM.Result.ok ()
        (((t.add t.nextHandle n).without t.nextHandle).withCounters named lastHandle) = _
      rw [without_add ht hfresh]
    rw [hsplit, Build.rollback, hdestroy]
    exact ih

end AssetCheck.Scene
