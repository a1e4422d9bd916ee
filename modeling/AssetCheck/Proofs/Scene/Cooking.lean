import AssetCheck.Proofs.Chain.Carried
import AssetCheck.Proofs.Scene.Ways

/-!
# Cooking

Cooking marks a node and all that it depends on, and nothing else, also if one of them fails
(`cook_eq`). Marks are never taken away, so all that cooking can make of a scene is the scene with
some nodes marked (`Scene.marked`); of a node, only whether it is cooked differs there. On a scene
that carries a chain, a node of the chain depends on those before it, so cooking it marks the chain
that far (`Carries.cook_eq`).
-/

namespace AssetCheck.Scene

/-! ## Marked scenes -/

/-- A node after the nodes with some handles have been cooked. -/
def markedNode (handles : List NodeHandle) (handle : NodeHandle) (n : SceneNode) : SceneNode :=
  if handle ∈ handles then { n with cooked := true } else n

def marked (s : Scene) (handles : List NodeHandle) : Scene :=
  { s with nodes := s.nodes.map fun entry => (entry.1, markedNode handles entry.1 entry.2) }

section MarkedNode

variable (handles : List NodeHandle) (handle : NodeHandle) (n : SceneNode)

@[simp] theorem name_markedNode : (markedNode handles handle n).name = n.name := by
  unfold markedNode; split <;> rfl

@[simp] theorem typeName_markedNode : (markedNode handles handle n).typeName = n.typeName := by
  unfold markedNode; split <;> rfl

@[simp] theorem parameters_markedNode :
    (markedNode handles handle n).parameters = n.parameters := by
  unfold markedNode; split <;> rfl

@[simp] theorem input_markedNode : (markedNode handles handle n).input = n.input := by
  unfold markedNode; split <;> rfl

variable {handles handle} in
theorem cooked_markedNode (h : handle ∈ handles) : (markedNode handles handle n).cooked = true := by
  unfold markedNode; rw [if_pos h]

end MarkedNode

section Marked

variable (s : Scene) (handles : List NodeHandle)

theorem get?_marked (handle : NodeHandle) :
    (s.marked handles).nodes.get? handle =
      (s.nodes.get? handle).map (markedNode handles handle) :=
  Table.get?_map_values s.nodes (markedNode handles) handle

@[simp] theorem keys_marked : (s.marked handles).nodes.keys = s.nodes.keys :=
  Table.keys_map_values s.nodes (markedNode handles)

theorem node_marked (handle : NodeHandle) :
    (s.marked handles).node handle = (s.node handle).map (markedNode handles handle) := by
  unfold node
  rw [get?_marked]
  cases s.nodes.get? handle <;> rfl

theorem typeOf_marked (handle : NodeHandle) :
    (s.marked handles).typeOf handle = s.typeOf handle := by
  unfold typeOf
  rw [node_marked]
  cases s.node handle with
  | error e => rfl
  | ok n =>
    rw [Except.map, except_bind_ok rfl, except_bind_ok rfl, typeName_markedNode]
    rfl

theorem marked_nil : s.marked [] = s := by
  have hnodes := Table.map_values_eq_self (t := s.nodes) (f := markedNode []) fun entry _ =>
    if_neg List.not_mem_nil
  unfold marked
  rw [hnodes]

variable {handles} in
/-- Neither their order nor how often nodes are named matters. -/
theorem marked_congr {others : List NodeHandle} (h : ∀ handle, handle ∈ handles ↔ handle ∈ others) :
    s.marked handles = s.marked others := by
  unfold marked markedNode
  simp only [h]

theorem marked_marked (others : List NodeHandle) :
    (s.marked handles).marked others = s.marked (handles ++ others) := by
  unfold marked
  rw [List.map_map]
  refine congrArg (fun nodes => { s with nodes }) (List.map_congr_left fun entry _ => ?_)
  refine congrArg (Prod.mk entry.1) ?_
  show markedNode others entry.1 (markedNode handles entry.1 entry.2) = _
  unfold markedNode
  by_cases h : entry.1 ∈ handles <;> by_cases ho : entry.1 ∈ others <;> simp [h, ho]

theorem sameGraph_marked : SameGraph s (s.marked handles) := by
  refine ⟨rfl, rfl, rfl, keys_marked s handles, fun handle => ?_⟩
  unfold link?
  rw [get?_marked, Option.map_map]
  refine congrArg (fun f => (s.nodes.get? handle).map f) (funext fun n => ?_)
  simp

theorem updateNode_cooked (handle : NodeHandle) :
    (s.updateNode handle fun n => { n with cooked := true }) = s.marked [handle] := by
  have hnodes := nodes_updateNode s handle fun n => { n with cooked := true }
  unfold marked markedNode
  simp only [List.mem_singleton]
  rw [← hnodes]
  rfl

end Marked

/-! ## Cooking some nodes -/

/-- The name of a node whose type makes cooking fail. -/
def failure? (s : Scene) (handle : NodeHandle) : Option String :=
  match s.node handle, s.typeOf handle with
  | .ok n, .ok type => if type.failsCook then some n.name else none
  | _, _ => none

section Failure

variable {s : Scene} {handle : NodeHandle} {n : SceneNode} {type : NodeType}
  (hn : s.nodes.get? handle = some n) (ht : s.types.get? n.typeName = some type)

include hn ht

theorem failure?_eq : s.failure? handle = if type.failsCook then some n.name else none := by
  unfold failure?
  rw [node_of_get? hn, typeOf_of_get? hn ht]

theorem failure?_eq_none_iff : s.failure? handle = none ↔ type.failsCook = false := by
  rw [failure?_eq hn ht]
  cases type.failsCook <;> simp

end Failure

theorem failure?_marked (s : Scene) (handles : List NodeHandle) (handle : NodeHandle) :
    (s.marked handles).failure? handle = s.failure? handle := by
  unfold failure?
  rw [node_marked, typeOf_marked]
  cases s.node handle with
  | error e => rfl
  | ok n =>
    rw [Except.map]
    cases s.typeOf handle with
    | error e => rfl
    | ok type =>
      dsimp only
      rw [name_markedNode]

/-- Marking nodes one by one marks all of them, and names the last one whose type fails. -/
theorem markCooked_eq {s : Scene} (hs : Sound s) {handles : List NodeHandle}
    (hlive : ∀ handle ∈ handles, handle ∈ s.nodes.keys) (failed : Option String) :
    markCooked failed handles s =
      .ok ((handles.filterMap s.failure?).getLast?.or failed) (s.marked handles) := by
  induction handles generalizing s failed with
  | nil => rw [marked_nil]; rfl
  | cons handle rest ih =>
    obtain ⟨hhandle, hrest⟩ := List.forall_mem_cons.1 hlive
    obtain ⟨n, hn⟩ := Table.mem_keys_iff.1 hhandle
    obtain ⟨type, htype⟩ := hs.typed handle n.typeName n.input (link?_of_get? hn)
    have hsame := sameGraph_marked s [handle]
    have hfailures : (s.marked [handle]).failure? = s.failure? :=
      funext (failure?_marked s [handle])
    unfold markCooked
    rw [node_of_get? hn, typeOf_of_get? hn htype]
    dsimp only
    rw [updateNode_cooked, ih (hs.sameGraph hsame) (by rw [hsame.keys]; exact hrest), hfailures,
      marked_marked, List.filterMap_cons, failure?_eq hn htype]
    cases type.failsCook
    · rfl
    · simp [List.getLast?_cons]

/-- Marking nodes one by one makes no more of any scene than marks, also where it ends early. -/
theorem exists_marked_of_markCooked (handles : List NodeHandle) (failed : Option String)
    (s : Scene) : ∃ marks, stateAfter (markCooked failed handles) s = s.marked marks := by
  induction handles generalizing failed s with
  | nil => exact ⟨[], (marked_nil s).symm⟩
  | cons handle rest ih =>
    unfold stateAfter markCooked
    cases s.node handle with
    | error e => exact ⟨[], (marked_nil s).symm⟩
    | ok n =>
      cases s.typeOf handle with
      | error e => exact ⟨[], (marked_nil s).symm⟩
      | ok type =>
        dsimp only
        rw [updateNode_cooked]
        obtain ⟨marks, hmarks⟩ := ih (if type.failsCook then some n.name else failed)
          (s.marked [handle])
        exact ⟨[handle] ++ marks, hmarks.trans (marked_marked s [handle] marks)⟩

theorem exists_marked_of_cook (handle : NodeHandle) (s : Scene) :
    ∃ marks, stateAfter (cook handle) s = s.marked marks := by
  cases hsupply : s.supply handle with
  | ok handles =>
    rw [stateAfter_cook hsupply]
    exact exists_marked_of_markCooked handles none s
  | error e =>
    have hrefused : cook handle s = .error e s := by unfold cook; rw [hsupply]
    rw [stateAfter_error hrefused]
    exact ⟨[], (marked_nil s).symm⟩

/-- **Cooking.** All that a node depends on is marked, whether or not one of them fails; the failure
names the one that is farthest away. -/
theorem cook_eq {s : Scene} (hs : Sound s) {handle : NodeHandle} {handles : List NodeHandle}
    (hsupply : s.supply handle = .ok handles)
    (hlive : ∀ handle ∈ handles, handle ∈ s.nodes.keys) :
    cook handle s =
      match (handles.filterMap s.failure?).getLast? with
      | none => .ok () (s.marked handles)
      | some name =>
        .error (.cookFailed ("error while cooking '" ++ name ++ "'")) (s.marked handles) := by
  unfold cook
  rw [hsupply]
  dsimp only
  rw [markCooked_eq hs hlive, Option.or_none]
  cases (handles.filterMap s.failure?).getLast? <;> rfl

/-! ## Cooking a chain -/

section Carries

variable {s : Scene} {c : Chain} (h : s.Carries c)

include h

/-- Whether a node of the chain fails is up to the type that the chain names. -/
theorem Carries.failure?_eq_none_iff (hs : Sound s) {node : ChainNode} (hnode : node ∈ c.nodes) :
    s.failure? node.handle = none ↔
      ∀ type, s.types.get? node.typeName = some type → type.failsCook = false := by
  obtain ⟨position, hposition⟩ := List.getElem?_of_mem hnode
  have hlink := h.link position node hposition
  obtain ⟨n, hn, hname, -⟩ := exists_get?_of_link? hlink
  obtain ⟨type, htype⟩ := hs.typed _ _ _ hlink
  rw [Scene.failure?_eq_none_iff hn (hname ▸ htype), htype]
  simp

/-- The way from a node of the chain leads back to the first one. -/
theorem Carries.way {position : Nat} {node : ChainNode} (hnode : c.node? position = some node) :
    s.Way (some node.handle) (c.handles.take (position + 1)).reverse := by
  induction position generalizing node with
  | zero =>
    obtain ⟨n, hn, -, hinput⟩ := exists_get?_of_link? (h.link 0 node hnode)
    rw [Chain.handles_take_succ hnode]
    refine .step hn ?_
    rw [hinput]
    exact .atEnd
  | succ position ih =>
    obtain ⟨n, hn, -, hinput⟩ := exists_get?_of_link? (h.link _ node hnode)
    have hlen := Chain.node?_lt hnode
    have hprevious : c.node? position = some c.nodes[position] :=
      List.getElem?_eq_getElem (by omega)
    rw [Chain.handles_take_succ hnode, List.reverse_append]
    refine .step hn ?_
    rw [hinput, Chain.source?_succ hprevious]
    exact ih hprevious

/-- A node of the chain depends on those before it. -/
theorem Carries.supply_eq {position : Nat} {node : ChainNode}
    (hnode : c.node? position = some node) :
    s.supply node.handle = .ok (c.handles.take (position + 1)).reverse :=
  (h.way hnode).supply_eq

/-- **Cooking a chain.** Cooking at a position marks the chain up to there, whether or not one of
those nodes fails; the failure names the first one. -/
theorem Carries.cook_eq (hs : Sound s) {position : Nat} {node : ChainNode}
    (hnode : c.node? position = some node) :
    cook node.handle s =
      match (c.handles.take (position + 1)).findSome? s.failure? with
      | none => .ok () (s.marked (c.handles.take (position + 1)))
      | some name =>
        .error (.cookFailed ("error while cooking '" ++ name ++ "'"))
          (s.marked (c.handles.take (position + 1))) := by
  have hlive : ∀ handle ∈ (c.handles.take (position + 1)).reverse, handle ∈ s.nodes.keys :=
    fun handle hmem => h.mem_keys (List.mem_of_mem_take (List.mem_reverse.1 hmem))
  rw [Scene.cook_eq hs (h.supply_eq hnode) hlive, List.filterMap_reverse, List.getLast?_reverse,
    List.head?_filterMap, marked_congr s fun _ => List.mem_reverse]

end Carries

end AssetCheck.Scene
