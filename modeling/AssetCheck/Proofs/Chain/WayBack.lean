import Mathlib.Data.Nat.Init
import Mathlib.Logic.Relation
import AssetCheck.Proofs.Chain.Ancestry

/-!
# The way back

The ancestors of a position are found by going back from a node to the position that it names as its
input, for as long as one is named (`Trail.step?`). The loop has no bound of its own, and it looks
at the position that is named without asking whether the chain is that long. Both are safe as nodes
are put at the end only: each way back stays inside the chain and comes to its end, with the
ancestors (`Chain.Ancestral`, `pushAll_ancestry`).

On a linear chain the trails of a position are known one by one (`Chain.trailTo`), since each step
goes one position down.
-/

namespace AssetCheck

/-- How far a way back has come: the position to go to next, if one is named, and the nodes met so
far, the nearest one first. -/
structure Trail where
  next : Option Nat
  met : List ChainNode

/-- A node to be put at the end of a chain. -/
structure Link where
  handle : NodeHandle
  typeName : String
  assignments : List Assignment

/-- What a node was put at the end of its chain with. -/
def ChainNode.link (node : ChainNode) : Link := ⟨node.handle, node.typeName, node.assignments⟩

/-- The step to the next position. There is none where the way has ended, and none where the next
position is outside the chain. -/
def Trail.step? (c : Chain) : Trail → Option Trail
  | ⟨none, _⟩ => none
  | ⟨some position, met⟩ => (c.node? position).map fun node => ⟨node.input, met ++ [node]⟩

namespace Chain

def pushAll (c : Chain) (links : List Link) : Chain :=
  links.foldl (fun c link => c.push link.handle link.typeName link.assignments) c

/-- The trail before the first step back from a position. -/
def start (c : Chain) (position : Nat) : Trail := ⟨(c.node? position).bind (·.input), []⟩

/-- Steps lead to the trail from the start at a position. -/
def Reaches (c : Chain) (position : Nat) : Trail → Prop :=
  Relation.ReflTransGen (fun trail next => trail.step? c = some next) (c.start position)

/-- The nodes of a chain depend on those before them, and going back finds just these. -/
structure Ancestral (c : Chain) : Prop where
  linear : c.Linear
  /-- No way back is to go on to a position outside the chain. -/
  inside : ∀ position trail, c.Reaches position trail → ∀ next, trail.next = some next →
    next < c.nodes.length
  /-- Each way back comes to an end, and has met the ancestors. -/
  ends : ∀ position, c.Reaches position ⟨none, (c.ancestors position).reverse⟩
  before : ∀ position < c.nodes.length, c.ancestors position = c.nodes.take position
  nothing : ∀ position, c.nodes.length ≤ position → c.ancestors position = []

/-! ## Trails of a linear chain -/

/-- The trail of a position that has met the nodes before it down to another. -/
def trailTo (c : Chain) (position lowest : Nat) : Trail :=
  ⟨if lowest = 0 then none else some (lowest - 1), ((c.nodes.take position).drop lowest).reverse⟩

section Linear

variable {c : Chain} (h : c.Linear) {position : Nat}

include h

theorem start_eq_trailTo (hlen : position < c.nodes.length) :
    c.start position = c.trailTo position position := by
  have hnode : c.node? position = some c.nodes[position] := List.getElem?_eq_getElem hlen
  have hmet : (c.nodes.take position).drop position = [] :=
    List.drop_eq_nil_of_le (List.length_take_le _ _)
  unfold start trailTo
  rw [hnode, Option.bind_some, (h _ _ hnode).2, hmet]
  rfl

theorem step?_trailTo_succ (hlen : position < c.nodes.length) {lowest : Nat}
    (hlow : lowest < position) :
    (c.trailTo position (lowest + 1)).step? c = some (c.trailTo position lowest) := by
  have hlowest : lowest < (c.nodes.take position).length := by
    rw [List.length_take]
    omega
  have hnode : c.node? lowest = some (c.nodes.take position)[lowest] := by
    rw [List.getElem_take]
    exact List.getElem?_eq_getElem _
  have hinput := (h _ _ hnode).2
  show (c.node? lowest).map _ = _
  rw [hnode, Option.map_some, hinput]
  unfold trailTo
  rw [List.drop_eq_getElem_cons hlowest, List.reverse_cons]

/-- The trails of a position inside the chain are known. -/
theorem exists_of_reaches (hlen : position < c.nodes.length) {trail : Trail}
    (hreach : c.Reaches position trail) :
    ∃ lowest ≤ position, trail = c.trailTo position lowest := by
  induction hreach with
  | refl => exact ⟨position, Nat.le_refl _, start_eq_trailTo h hlen⟩
  | tail _ hstep ih =>
    obtain ⟨lowest, hle, rfl⟩ := ih
    cases lowest with
    | zero => cases hstep
    | succ lowest =>
      rw [step?_trailTo_succ h hlen hle] at hstep
      cases hstep
      exact ⟨lowest, Nat.le_of_succ_le hle, rfl⟩

theorem reaches_trailTo (hlen : position < c.nodes.length) {lowest : Nat} (hle : lowest ≤ position) :
    c.Reaches position (c.trailTo position lowest) := by
  induction hle using Nat.decreasingInduction with
  | self =>
    rw [← start_eq_trailTo h hlen]
    exact .refl
  | of_succ lowest hlow ih => exact ih.tail (step?_trailTo_succ h hlen hlow)

end Linear

/-! ## Outside the chain -/

section Outside

variable {c : Chain} {position : Nat} (hlen : c.nodes.length ≤ position)

include hlen

theorem start_of_le : c.start position = ⟨none, []⟩ := by
  unfold start node?
  rw [List.getElem?_eq_none hlen]
  rfl

theorem eq_start_of_reaches {trail : Trail} (hreach : c.Reaches position trail) :
    trail = ⟨none, []⟩ := by
  induction hreach with
  | refl => exact start_of_le hlen
  | tail _ hstep ih =>
    subst ih
    cases hstep

theorem ancestors_of_le : c.ancestors position = [] := by
  show (c.back c.nodes.length (c.start position).next).reverse = []
  rw [start_of_le hlen, back_none]
  rfl

end Outside

/-! ## Ways back of a linear chain -/

/-- **The way back.** On a linear chain each way back stays inside the chain, and comes to its end
with the nodes before the position. -/
theorem Linear.ancestral {c : Chain} (h : c.Linear) : c.Ancestral where
  linear := h
  inside := by
    intro position trail hreach next hnext
    rcases Nat.lt_or_ge position c.nodes.length with hlen | hlen
    · obtain ⟨lowest, hle, rfl⟩ := exists_of_reaches h hlen hreach
      unfold trailTo at hnext
      split at hnext
      · cases hnext
      · cases hnext
        omega
    · cases eq_start_of_reaches hlen hreach
      cases hnext
  ends := by
    intro position
    rcases Nat.lt_or_ge position c.nodes.length with hlen | hlen
    · rw [ancestors_of_linear h hlen]
      exact reaches_trailTo h hlen (Nat.zero_le _)
    · rw [ancestors_of_le hlen]
      have hrefl : c.Reaches position (c.start position) := .refl
      rw [start_of_le hlen] at hrefl
      exact hrefl
  before := fun _ => ancestors_of_linear h
  nothing := fun _ => ancestors_of_le

/-! ## Chains that are made by pushing -/

theorem Linear.pushAll {c : Chain} (h : c.Linear) (links : List Link) : (c.pushAll links).Linear := by
  induction links generalizing c with
  | nil => exact h
  | cons link rest ih => exact ih (h.push link.handle link.typeName link.assignments)

theorem links_pushAll (c : Chain) (links : List Link) :
    (c.pushAll links).nodes.map ChainNode.link = c.nodes.map ChainNode.link ++ links := by
  induction links generalizing c with
  | nil => exact (List.append_nil _).symm
  | cons link rest ih =>
    show ((c.push link.handle link.typeName link.assignments).pushAll rest).nodes.map _ = _
    rw [ih, push, List.map_append, List.append_assoc]
    rfl

theorem nodes_prefix_pushAll (c : Chain) (links : List Link) :
    c.nodes <+: (c.pushAll links).nodes := by
  induction links generalizing c with
  | nil => exact List.prefix_rfl
  | cons link rest ih =>
    exact (List.prefix_append c.nodes _).trans
      (ih (c.push link.handle link.typeName link.assignments))

/-- **Ancestry.** Whatever nodes are put at the end of a chain, they stand in it in this order, each
names its position and the one before, and going back from a position stays inside the chain and
ends with the nodes before it. More nodes at the end change neither nodes nor ancestors. -/
theorem pushAll_ancestry (id : Nat) (asset : String) (links more : List Link) :
    let c := (empty id asset).pushAll links
    c.nodes.map ChainNode.link = links ∧ c.Ancestral ∧
      ∀ position < c.nodes.length,
        (c.pushAll more).node? position = c.node? position ∧
        (c.pushAll more).ancestors position = c.ancestors position := by
  intro c
  have hlinear : c.Linear := (linear_empty id asset).pushAll links
  refine ⟨links_pushAll (empty id asset) links, hlinear.ancestral, fun position hlen => ?_⟩
  have hprefix := nodes_prefix_pushAll c more
  have hlater := Nat.lt_of_lt_of_le hlen hprefix.length_le
  rw [ancestors_of_linear (hlinear.pushAll more) hlater, ancestors_of_linear hlinear hlen]
  obtain ⟨added, hadded⟩ := hprefix
  unfold node?
  rw [← hadded]
  exact ⟨List.getElem?_append_left hlen, List.take_append_of_le_length (Nat.le_of_lt hlen)⟩

/-- A handle that comes again is another node of the chain. -/
example :
    (((empty 0 "a.fbx").pushAll [⟨⟨7⟩, "file", []⟩, ⟨⟨7⟩, "file", []⟩, ⟨⟨7⟩, "check", []⟩]).ancestors
      2).map (·.position) = [0, 1] := rfl

end Chain

end AssetCheck
