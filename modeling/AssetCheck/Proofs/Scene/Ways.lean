import Mathlib.Data.List.Chain
import Mathlib.Logic.Relation
import AssetCheck.Proofs.Scene.Sound

/-!
# Ways along inputs

A node has at most one input, so there is one way along inputs from it. It comes to an end
(`Scene.Way`), or to a node again (`Scene.Revisits`), and never to both (`Way.not_revisits`); a way
with an end has each node that the first one needs just once (`Way.mem_iff`, `Way.nodup`).

The nodes that a node depends on are looked up in a loop that keeps the nodes it has seen. As it is
written, the loop has a bound on its steps; without the bound it is `Scene.Walks`, where a
derivation is a run that stops. The bound is never met, for nodes that were seen are distinct nodes
of the scene (`walks_supply`). The loop gives the nodes of a way that has an end (`Way.supply_eq`).
On a sound scene there is such a way, or the loop finds a cycle (`Sound.supply_cases`).
-/

namespace AssetCheck.Scene

/-- The first node takes its input from the second. -/
def Feeds (s : Scene) (handle input : NodeHandle) : Prop :=
  ∃ n, s.nodes.get? handle = some n ∧ n.input = some input

/-- The second node lies on the way along inputs from the first, which itself is on the way. -/
def Needs (s : Scene) : NodeHandle → NodeHandle → Prop := Relation.ReflTransGen s.Feeds

/-- The way along inputs from the node comes to some node again. -/
def Revisits (s : Scene) (handle : NodeHandle) : Prop :=
  ∃ other, s.Needs handle other ∧ Relation.TransGen s.Feeds other other

/-- All nodes on the way along inputs from a node, which comes to an end. -/
inductive Way (s : Scene) : Option NodeHandle → List NodeHandle → Prop
  | atEnd : Way s none []
  | step {handle : NodeHandle} {n : SceneNode} {rest : List NodeHandle} :
      s.nodes.get? handle = some n → Way s n.input rest → Way s (some handle) (handle :: rest)

theorem Feeds.mem_keys {s : Scene} {handle input : NodeHandle} (h : s.Feeds handle input) :
    handle ∈ s.nodes.keys := by
  obtain ⟨n, hn, -⟩ := h
  exact Table.mem_keys_iff.2 ⟨n, hn⟩

/-- A way that comes to a node again sets out from a node of the scene. -/
theorem Revisits.mem_keys {s : Scene} {handle : NodeHandle} (h : s.Revisits handle) :
    handle ∈ s.nodes.keys := by
  obtain ⟨other, hneeds, hcycle⟩ := h
  obtain ⟨input, hfeeds, -⟩ := Relation.TransGen.head'_iff.1 (hcycle.trans_right hneeds)
  exact hfeeds.mem_keys

/-! ## Ways with an end -/

section Way

variable {s : Scene} {handle other : NodeHandle} {input? : Option NodeHandle}
  {nodes : List NodeHandle}

theorem Way.unique {others : List NodeHandle} (h : s.Way input? nodes) (h' : s.Way input? others) :
    nodes = others := by
  induction h generalizing others with
  | atEnd =>
    cases h'
    rfl
  | step hn _ ih =>
    cases h' with
    | step hn' hrest =>
      cases hn.symm.trans hn'
      rw [ih hrest]

theorem Way.mem_keys (h : s.Way input? nodes) (hmem : other ∈ nodes) : other ∈ s.nodes.keys := by
  induction h with
  | atEnd => cases hmem
  | step hn _ ih =>
    rcases List.mem_cons.1 hmem with rfl | hmem
    · exact Table.mem_keys_iff.2 ⟨_, hn⟩
    · exact ih hmem

/-- The way goes on behind its first node as the way of that node's input. -/
theorem Way.of_feeds (h : s.Way (some handle) nodes) (hfeeds : s.Feeds handle other) :
    ∃ rest, nodes = handle :: rest ∧ s.Way (some other) rest := by
  obtain ⟨n, hn, hinput⟩ := hfeeds
  cases h with
  | step hn' hrest =>
    cases hn.symm.trans hn'
    exact ⟨_, rfl, hinput ▸ hrest⟩

/-- From a later node on, the way is shorter. -/
theorem Way.of_transGen (h : s.Way (some handle) nodes)
    (hlater : Relation.TransGen s.Feeds handle other) :
    ∃ rest, s.Way (some other) rest ∧ rest.length < nodes.length := by
  induction hlater with
  | single hfeeds =>
    obtain ⟨rest, rfl, hrest⟩ := h.of_feeds hfeeds
    exact ⟨rest, hrest, by simp⟩
  | tail _ hfeeds ih =>
    obtain ⟨rest, hrest, hlt⟩ := ih
    obtain ⟨last, rfl, hlast⟩ := hrest.of_feeds hfeeds
    exact ⟨last, hlast, by simp at hlt; omega⟩

theorem Way.not_transGen (h : s.Way (some handle) nodes) :
    ¬ Relation.TransGen s.Feeds handle handle := by
  intro hcycle
  obtain ⟨rest, hrest, hlt⟩ := h.of_transGen hcycle
  rw [h.unique hrest] at hlt
  exact Nat.lt_irrefl _ hlt

/-- A way with an end comes to no node again. -/
theorem Way.not_revisits (h : s.Way (some handle) nodes) : ¬ s.Revisits handle := by
  rintro ⟨other, hneeds, hcycle⟩
  rcases Relation.reflTransGen_iff_eq_or_transGen.1 hneeds with rfl | hlater
  · exact h.not_transGen hcycle
  · obtain ⟨rest, hrest, -⟩ := h.of_transGen hlater
    exact hrest.not_transGen hcycle

/-- Each node on a way takes its input from the next one. -/
theorem Way.isChain (h : s.Way input? nodes) : nodes.IsChain s.Feeds := by
  induction h with
  | atEnd => exact .nil
  | @step first n rest hn hrest ih =>
    cases hinput : n.input with
    | none =>
      rw [hinput] at hrest
      cases hrest
      exact .singleton _
    | some input =>
      rw [hinput] at hrest
      cases hrest with
      | step hn' hrest' => exact .cons_cons ⟨n, hn, hinput⟩ ih

/-- Each node on a way comes before those behind it. -/
theorem Way.pairwise (h : s.Way input? nodes) : nodes.Pairwise (Relation.TransGen s.Feeds) :=
  List.isChain_iff_pairwise.1 (h.isChain.imp fun _ _ => .single)

theorem Way.needs_of_mem (h : s.Way (some handle) nodes) (hmem : other ∈ nodes) :
    s.Needs handle other := by
  have hlater := h.pairwise
  cases h with
  | step hn hrest =>
    rcases List.mem_cons.1 hmem with rfl | hmem
    · exact .refl
    · exact ((List.pairwise_cons.1 hlater).1 other hmem).to_reflTransGen

/-- The nodes on a way with an end are those that its first node needs. -/
theorem Way.mem_iff (h : s.Way (some handle) nodes) : other ∈ nodes ↔ s.Needs handle other := by
  refine ⟨h.needs_of_mem, fun hneeds => ?_⟩
  induction hneeds using Relation.ReflTransGen.head_induction_on generalizing nodes with
  | refl =>
    cases h
    exact List.mem_cons_self
  | head hfeeds _ ih =>
    obtain ⟨rest, rfl, hrest⟩ := h.of_feeds hfeeds
    exact List.mem_cons_of_mem _ (ih hrest)

theorem Way.nodup (h : s.Way input? nodes) : nodes.Nodup := by
  induction h with
  | atEnd => exact .nil
  | step hn hrest ih =>
    have hway := Way.step hn hrest
    refine List.nodup_cons.2 ⟨fun hmem => hway.not_transGen ?_, ih⟩
    exact (List.pairwise_cons.1 hway.pairwise).1 _ hmem

end Way

/-! ## The loop without a bound -/

/-- The loop that looks up what `start` depends on, from some nodes seen so far and an input on:
what it comes to when it stops. -/
inductive Walks (s : Scene) (start : NodeHandle) :
    List NodeHandle → Option NodeHandle → Except HostError (List NodeHandle) → Prop
  | atEnd {seen : List NodeHandle} : Walks s start seen none (.ok seen.reverse)
  | again {seen : List NodeHandle} {handle : NodeHandle} : handle ∈ seen →
      Walks s start seen (some handle)
        (.error (.failed ("cycle detected upstream of " ++ start.label)))
  | missing {seen : List NodeHandle} {handle : NodeHandle} : handle ∉ seen →
      handle ∉ s.nodes.keys → Walks s start seen (some handle) (.error (.unknownHandle handle.id))
  | step {seen : List NodeHandle} {handle : NodeHandle} {n : SceneNode}
      {result : Except HostError (List NodeHandle)} : handle ∉ seen →
      s.nodes.get? handle = some n → Walks s start (handle :: seen) n.input result →
      Walks s start seen (some handle) result

section Walks

variable {s : Scene} {start : NodeHandle} {seen : List NodeHandle} {input? : Option NodeHandle}

/-- Distinct nodes of a scene are no more than it has. -/
theorem length_le_of_nodup (hseen : seen.Nodup) (hlive : ∀ handle ∈ seen, handle ∈ s.nodes.keys) :
    seen.length ≤ s.nodes.length := by
  have hle := hseen.length_le_of_subset hlive
  simpa [Table.keys] using hle

/-- With as many steps as there are nodes that were not seen, the bound is not met. -/
theorem walks_walk (steps : Nat) (hseen : seen.Nodup)
    (hlive : ∀ handle ∈ seen, handle ∈ s.nodes.keys)
    (hsteps : s.nodes.length < seen.length + steps) :
    s.Walks start seen input? (s.walk start steps seen input?) := by
  induction steps generalizing seen input? with
  | zero =>
    have hle := length_le_of_nodup hseen hlive
    omega
  | succ steps ih =>
    cases input? with
    | none => exact .atEnd
    | some handle =>
      rw [walk]
      by_cases hagain : handle ∈ seen
      · rw [if_pos hagain]
        exact .again hagain
      · rw [if_neg hagain]
        by_cases hmem : handle ∈ s.nodes.keys
        · obtain ⟨n, hn⟩ := Table.mem_keys_iff.1 hmem
          rw [except_bind_ok (node_of_get? hn)]
          refine .step hagain hn (ih (List.nodup_cons.2 ⟨hagain, hseen⟩)
            (List.forall_mem_cons.2 ⟨hmem, hlive⟩) ?_)
          rw [List.length_cons]
          omega
        · rw [except_bind_error (node_of_not_mem hmem)]
          exact .missing hagain hmem

/-- What a node depends on is what the loop comes to, which stops. -/
theorem walks_supply {n : SceneNode} (hn : s.nodes.get? start = some n) :
    s.Walks start [start] n.input (s.supply start) := by
  have hmem : start ∈ s.nodes.keys := Table.mem_keys_iff.2 ⟨n, hn⟩
  unfold supply
  rw [except_bind_ok (node_of_get? hn)]
  refine walks_walk s.nodes.length (by simp)
    (List.forall_mem_singleton.2 hmem) ?_
  rw [List.length_singleton]
  omega

/-! ## What the loop comes to -/

theorem Walks.unique {result other : Except HostError (List NodeHandle)}
    (h : s.Walks start seen input? result) (h' : s.Walks start seen input? other) :
    result = other := by
  induction h with
  | atEnd =>
    cases h'
    rfl
  | again hagain =>
    cases h' with
    | again => rfl
    | missing hfresh _ => exact absurd hagain hfresh
    | step hfresh _ _ => exact absurd hagain hfresh
  | missing hfresh hmem =>
    cases h' with
    | again hagain => exact absurd hagain hfresh
    | missing => rfl
    | step _ hn _ => exact absurd (Table.mem_keys_iff.2 ⟨_, hn⟩) hmem
  | step hfresh hn _ ih =>
    cases h' with
    | again hagain => exact absurd hagain hfresh
    | missing _ hmem => exact absurd (Table.mem_keys_iff.2 ⟨_, hn⟩) hmem
    | step _ hn' hrest =>
      cases hn.symm.trans hn'
      exact ih hrest

end Walks

/-- The loop follows a way to its end. -/
theorem Way.walks {s : Scene} {start : NodeHandle} {seen rest : List NodeHandle}
    {input? : Option NodeHandle} (h : s.Way input? rest) (hfresh : (seen.reverse ++ rest).Nodup) :
    s.Walks start seen input? (.ok (seen.reverse ++ rest)) := by
  induction h generalizing seen with
  | atEnd =>
    rw [List.append_nil]
    exact .atEnd
  | @step handle n rest hn _ ih =>
    have hnew : handle ∉ seen := fun hmem =>
      (List.nodup_append.1 hfresh).2.2 _ (List.mem_reverse.2 hmem) _ List.mem_cons_self rfl
    have hmoved : (handle :: seen).reverse ++ rest = seen.reverse ++ handle :: rest := by simp
    rw [← hmoved] at hfresh ⊢
    exact .step hnew hn (ih hfresh)

theorem Way.supply_eq {s : Scene} {handle : NodeHandle} {nodes : List NodeHandle}
    (h : s.Way (some handle) nodes) : s.supply handle = .ok nodes := by
  have hnodup := h.nodup
  cases h with
  | step hn hrest => exact (walks_supply hn).unique (hrest.walks hnodup)

section Sound

variable {s : Scene} (hs : Sound s)

include hs

theorem Sound.mem_of_feeds {handle input : NodeHandle} (h : s.Feeds handle input) :
    input ∈ s.nodes.keys := by
  obtain ⟨n, hn, hinput⟩ := h
  refine hs.inputs handle n.typeName input ?_
  rw [link?_of_get? hn, hinput]

/-- Each step along inputs comes to a node of the scene. -/
theorem Sound.mem_of_feeds_star {handle other : NodeHandle} (hmem : handle ∈ s.nodes.keys)
    (h : s.Needs handle other) : other ∈ s.nodes.keys := by
  cases h with
  | refl => exact hmem
  | tail _ hlast => exact hs.mem_of_feeds hlast

/-- The loop stops at the end of a way, or the way comes to a node again. The nodes that were seen
lie on the way, and each of them before the input at hand. -/
theorem Sound.walks_cases {start : NodeHandle} {seen : List NodeHandle}
    {input? : Option NodeHandle} {result : Except HostError (List NodeHandle)}
    (h : s.Walks start seen input? result)
    (hseen : ∀ met ∈ seen, ∀ input, input? = some input → Relation.TransGen s.Feeds met input)
    (hinput : ∀ input, input? = some input → input ∈ s.nodes.keys ∧ s.Needs start input) :
    (∃ rest, s.Way input? rest) ∨
      (s.Revisits start ∧
        result = .error (.failed ("cycle detected upstream of " ++ start.label))) := by
  induction h with
  | atEnd => exact .inl ⟨[], .atEnd⟩
  | @again seen handle hagain =>
    exact .inr ⟨⟨handle, (hinput handle rfl).2, hseen handle hagain handle rfl⟩, rfl⟩
  | @missing seen handle _ hmem => exact absurd (hinput handle rfl).1 hmem
  | @step seen handle n result hfresh hn hrest ih =>
    have hnext : ∀ next, n.input = some next → s.Feeds handle next := fun next hnext =>
      ⟨n, hn, hnext⟩
    have hlater : ∀ met ∈ handle :: seen, ∀ next, n.input = some next →
        Relation.TransGen s.Feeds met next := by
      intro met hmet next hfed
      rcases List.mem_cons.1 hmet with rfl | hmet
      · exact .single (hnext next hfed)
      · exact (hseen met hmet handle rfl).tail (hnext next hfed)
    rcases ih hlater fun next hfed => ⟨hs.mem_of_feeds (hnext next hfed),
        (hinput handle rfl).2.tail (hnext next hfed)⟩ with ⟨rest, hway⟩ | hcycle
    · exact .inl ⟨handle :: rest, .step hn hway⟩
    · exact .inr hcycle

/-- **The way from a node.** It comes to an end, or to a node again, and then the loop refuses it. -/
theorem Sound.supply_cases {handle : NodeHandle} (hmem : handle ∈ s.nodes.keys) :
    (∃ nodes, s.Way (some handle) nodes) ∨
      (s.Revisits handle ∧
        s.supply handle = .error (.failed ("cycle detected upstream of " ++ handle.label))) := by
  obtain ⟨n, hn⟩ := Table.mem_keys_iff.1 hmem
  have hfeeds : ∀ input, n.input = some input → s.Feeds handle input := fun input hinput =>
    ⟨n, hn, hinput⟩
  rcases hs.walks_cases (walks_supply hn)
      (List.forall_mem_singleton.2 fun input hinput => .single (hfeeds input hinput))
      fun input hinput => ⟨hs.mem_of_feeds (hfeeds input hinput), .single (hfeeds input hinput)⟩
    with ⟨rest, hway⟩ | hcycle
  · exact .inl ⟨handle :: rest, .step hn hway⟩
  · exact .inr hcycle

end Sound

end AssetCheck.Scene
