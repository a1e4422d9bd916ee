import AssetCheck.Chain.Basic

/-!
# The order of a chain

Nodes are put at the end of a chain, and each names its own position and that of the node before it
(`Chain.Linear`). Going back from a position therefore meets the nodes before it, each of them once
(`ancestors_of_linear`).
-/

namespace AssetCheck.Chain

/-- Each node knows its position, and takes its input from the position before. -/
def Linear (c : Chain) : Prop :=
  ∀ position node, c.node? position = some node →
    node.position = position ∧ node.input = if position = 0 then none else some (position - 1)

def handles (c : Chain) : List NodeHandle := c.nodes.map (·.handle)

theorem node?_lt {c : Chain} {position : Nat} {node : ChainNode}
    (h : c.node? position = some node) :
    position < c.nodes.length :=
  (List.getElem?_eq_some_iff.1 h).1

theorem handles_getElem? {c : Chain} {position : Nat} {node : ChainNode}
    (h : c.node? position = some node) : c.handles[position]? = some node.handle := by
  unfold handles
  rw [List.getElem?_map]
  exact congrArg (Option.map _) h

theorem handle_mem {c : Chain} {position : Nat} {node : ChainNode}
    (h : c.node? position = some node) :
    node.handle ∈ c.handles :=
  List.mem_of_getElem? (handles_getElem? h)

theorem handles_take_succ {c : Chain} {position : Nat} {node : ChainNode}
    (h : c.node? position = some node) :
    c.handles.take (position + 1) = c.handles.take position ++ [node.handle] := by
  rw [List.take_add_one, handles_getElem? h]
  rfl

theorem handles_drop_take {c : Chain} {position last : Nat} {node : ChainNode}
    (h : c.node? position = some node) (hlt : position < last) :
    (c.handles.take last).drop position =
      node.handle :: (c.handles.take last).drop (position + 1) := by
  have hget : (c.handles.take last)[position]? = some node.handle := by
    rw [List.getElem?_take_of_lt hlt, handles_getElem? h]
  obtain ⟨hlen, hnode⟩ := List.getElem?_eq_some_iff.1 hget
  rw [List.drop_eq_getElem_cons hlen, hnode]

theorem exists_node?_of_mem {c : Chain} {handle : NodeHandle} (h : handle ∈ c.handles) :
    ∃ position node, c.node? position = some node ∧ node.handle = handle := by
  obtain ⟨node, hmem, rfl⟩ := List.mem_map.1 h
  obtain ⟨position, hposition⟩ := List.getElem?_of_mem hmem
  exact ⟨position, node, hposition, rfl⟩

@[simp] theorem handles_push (c : Chain) (handle : NodeHandle) (typeName : String)
    (assignments : List Assignment) :
    (c.push handle typeName assignments).handles = c.handles ++ [handle] := by
  simp [handles, push]

theorem node?_push_cases {c : Chain} {handle : NodeHandle} {typeName : String}
    {assignments : List Assignment} {position : Nat} {node : ChainNode}
    (h : (c.push handle typeName assignments).node? position = some node) :
    c.node? position = some node ∨
      position = c.nodes.length ∧ node.handle = handle ∧ node.typeName = typeName ∧
        node.position = position ∧
        node.input = if position = 0 then none else some (position - 1) := by
  unfold push node? at h
  rw [List.getElem?_append] at h
  split at h
  · exact Or.inl h
  · next hlen =>
    rw [List.getElem?_singleton] at h
    split at h
    · next hzero =>
      have hp : position = c.nodes.length := by omega
      cases h
      exact Or.inr ⟨hp, rfl, rfl, hp.symm, by rw [hp]⟩
    · cases h

theorem linear_empty (id : Nat) (asset : String) : Linear (empty id asset) := by
  intro position node h
  cases h

theorem Linear.push {c : Chain} (h : c.Linear) (handle : NodeHandle) (typeName : String)
    (assignments : List Assignment) : (c.push handle typeName assignments).Linear := by
  intro position node hnode
  rcases node?_push_cases hnode with hold | ⟨-, -, -, hposition, hinput⟩
  · exact h position node hold
  · exact ⟨hposition, hinput⟩

@[simp] theorem back_none (c : Chain) (steps : Nat) : c.back steps none = [] := by
  cases steps <;> rfl

/-- The way back from a position meets all nodes up to it. -/
theorem back_of_linear {c : Chain} (h : c.Linear) (position steps : Nat)
    (hsteps : position < steps) (hlen : position < c.nodes.length) :
    c.back steps (some position) = (c.nodes.take (position + 1)).reverse := by
  induction position generalizing steps with
  | zero =>
    obtain ⟨steps, rfl⟩ : ∃ k, steps = k + 1 := ⟨steps - 1, by omega⟩
    have hnode : c.node? 0 = some c.nodes[0] := List.getElem?_eq_getElem hlen
    have hinput := (h 0 _ hnode).2
    rw [if_pos rfl] at hinput
    rw [back, hnode]
    show c.nodes[0] :: c.back steps c.nodes[0].input = _
    rw [hinput, back_none, List.take_succ_eq_append_getElem hlen]
    rfl
  | succ position ih =>
    obtain ⟨steps, rfl⟩ : ∃ k, steps = k + 1 := ⟨steps - 1, by omega⟩
    have hnode : c.node? (position + 1) = some c.nodes[position + 1] :=
      List.getElem?_eq_getElem hlen
    have hinput := (h _ _ hnode).2
    rw [if_neg (by omega), Nat.add_sub_cancel] at hinput
    rw [back, hnode]
    show c.nodes[position + 1] :: c.back steps c.nodes[position + 1].input = _
    rw [hinput, ih steps (by omega) (by omega), List.take_succ_eq_append_getElem hlen,
      List.reverse_append]
    rfl

/-- **Ancestry.** The nodes before a position of a linear chain are its ancestors, in their order.
-/
theorem ancestors_of_linear {c : Chain} (h : c.Linear) {position : Nat}
    (hlen : position < c.nodes.length) : c.ancestors position = c.nodes.take position := by
  have hnode : c.node? position = some c.nodes[position] := List.getElem?_eq_getElem hlen
  have hinput := (h _ _ hnode).2
  unfold ancestors
  rw [hnode, Option.bind_some, hinput]
  by_cases hzero : position = 0
  · subst hzero
    rw [if_pos rfl, back_none, List.take_zero]
    rfl
  · rw [if_neg hzero, back_of_linear h _ _ (by omega) (by omega), List.reverse_reverse,
      Nat.sub_add_cancel (by omega)]

end AssetCheck.Chain
