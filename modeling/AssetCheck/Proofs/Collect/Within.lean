import AssetCheck.Proofs.Collect.Verdicts
import AssetCheck.Proofs.Traversal

/-!
# Scenes within others

A scene is within another if that one knows the same types and holds each of its nodes just as it
does (`Scene.Within`). So a scene is within each that it grows to, and stays within it when the same
nodes of both are cooked. Of a node that both hold, both say the same, and a chain that the smaller
scene carries has the same report on both (`Within.reportAt_eq`).
-/

namespace AssetCheck.Scene

/-- `t` holds each node of `s` as `s` does. It may hold other nodes. -/
structure Within (s t : Scene) : Prop where
  types : t.types = s.types
  get?_eq : ∀ handle ∈ s.nodes.keys, t.nodes.get? handle = s.nodes.get? handle

theorem Grown.within {s t : Scene} {created : List NodeHandle} (h : Grown s t created) :
    s.Within t :=
  ⟨h.types, fun _ hmem => h.get?_eq hmem⟩

namespace Within

variable {s t : Scene} (h : s.Within t)

include h

theorem marked (handles : List NodeHandle) : (s.marked handles).Within (t.marked handles) where
  types := h.types
  get?_eq := by
    intro handle hmem
    rw [keys_marked] at hmem
    rw [get?_marked, get?_marked, h.get?_eq handle hmem]

/-! ## Nodes of both scenes -/

theorem mem_keys {handle : NodeHandle} (hmem : handle ∈ s.nodes.keys) : handle ∈ t.nodes.keys := by
  rw [Table.mem_keys_iff, h.get?_eq handle hmem]
  exact Table.mem_keys_iff.1 hmem

section Node

variable {handle : NodeHandle} (hmem : handle ∈ s.nodes.keys)

include hmem

theorem node_eq : t.node handle = s.node handle := by
  unfold node
  rw [h.get?_eq handle hmem]

theorem typeOf_eq : t.typeOf handle = s.typeOf handle := by
  unfold typeOf
  rw [h.node_eq hmem, h.types]

theorem failure?_eq : t.failure? handle = s.failure? handle := by
  unfold failure?
  rw [h.node_eq hmem, h.typeOf_eq hmem]

theorem valueOf?_eq (name : String) : t.valueOf? handle name = s.valueOf? handle name := by
  unfold valueOf?
  rw [h.get?_eq handle hmem]

end Node

theorem verdict_eq {node : ChainNode} (hmem : node.handle ∈ s.nodes.keys) (config : Config) :
    t.verdict config node = s.verdict config node := by
  unfold verdict
  rw [h.node_eq hmem, h.typeOf_eq hmem]

/-! ## Chains of both scenes -/

variable {c : Chain} (hc : s.Carries c)

include hc

theorem carries : t.Carries c :=
  hc.of_links fun handle hmem => by
    unfold link?
    rw [h.get?_eq handle (hc.mem_keys hmem)]

theorem assetPathAt_eq (config : Config) (position : Nat) {terminal : NodeHandle}
    (hterminal : terminal ∈ s.nodes.keys) :
    t.assetPathAt config c position terminal = s.assetPathAt config c position terminal := by
  unfold assetPathAt
  cases hhead : (c.nodes.take position).head? with
  | none => rw [Option.bind_none, Option.bind_none, h.node_eq hterminal]
  | some loader =>
    have hloader : loader.handle ∈ c.handles :=
      List.mem_map_of_mem (List.mem_of_mem_take (List.mem_of_head? hhead))
    rw [Option.bind_some, Option.bind_some, h.valueOf?_eq (hc.mem_keys hloader),
      h.node_eq hterminal]

/-- **Reports and other nodes.** The report of a chain does not depend on nodes of others. -/
theorem reportAt_eq (setting : Setting) (position : Nat) {terminal : NodeHandle}
    (hterminal : terminal ∈ s.nodes.keys) :
    t.reportAt setting c position terminal = s.reportAt setting c position terminal := by
  have hverdicts : (c.diagnosed setting.config position).mapM (t.verdict setting.config) =
      (c.diagnosed setting.config position).mapM (s.verdict setting.config) := by
    refine mapM_congr fun node hnode => h.verdict_eq (hc.mem_keys (List.mem_map_of_mem ?_)) _
    exact List.mem_of_mem_take (List.mem_filter.1 hnode).1
  have hcooked : ((c.handles.take (position + 1)).all fun handle => (t.failure? handle).isNone) =
      (c.handles.take (position + 1)).all fun handle => (s.failure? handle).isNone := by
    rw [Bool.eq_iff_iff, List.all_eq_true, List.all_eq_true]
    refine forall₂_congr fun handle hmem => ?_
    rw [h.failure?_eq (hc.mem_keys (List.mem_of_mem_take hmem))]
  unfold reportAt
  rw [h.assetPathAt_eq hc setting.config position hterminal, hverdicts, hcooked]

end Within

end AssetCheck.Scene
