import AssetCheck.Proofs.Scene.Handles

/-!
# What cooking comes to

Inputs may be connected in any way, to cycles too. Cooking a node stops on every reachable scene,
and what it comes to is said here by the nodes that the node needs: one that is not there, and a way
that comes to a node again, are refused, and the scene is as before; else the nodes on the way are
cooked and nothing else is changed, also where one of them fails, and of those that fail the one
farthest away is named (`cook_outcome`).
-/

namespace AssetCheck.Scene

/-- The node is of a type that makes cooking fail, and has this name. -/
def Fails (s : Scene) (handle : NodeHandle) (name : String) : Prop :=
  ∃ n type, s.nodes.get? handle = some n ∧ s.types.get? n.typeName = some type ∧
    type.failsCook = true ∧ n.name = name

/-- A node that the given one needs makes cooking fail, and lies behind all others that do. -/
def FarthestFailure (s : Scene) (handle : NodeHandle) (name : String) : Prop :=
  ∃ failing, s.Needs handle failing ∧ s.Fails failing name ∧
    ∀ other otherName, s.Needs handle other → s.Fails other otherName → s.Needs other failing

/-- The scene after the node and all that it needs have been cooked, and with nothing else
changed. -/
structure CookedFrom (s : Scene) (handle : NodeHandle) (t : Scene) : Prop where
  nodes : t = { s with nodes := t.nodes }
  keys : t.nodes.keys = s.nodes.keys
  cooked : ∀ other n, s.Needs handle other → s.nodes.get? other = some n →
    t.nodes.get? other = some { n with cooked := true }
  left : ∀ other, ¬ s.Needs handle other → t.nodes.get? other = s.nodes.get? other

theorem failure?_eq_some_iff {s : Scene} {handle : NodeHandle} {name : String} :
    s.failure? handle = some name ↔ s.Fails handle name := by
  constructor
  · intro h
    cases hn : s.nodes.get? handle with
    | none =>
      unfold failure? node at h
      rw [hn] at h
      cases h
    | some n =>
      cases htype : s.types.get? n.typeName with
      | none =>
        unfold failure? typeOf at h
        rw [except_bind_ok (node_of_get? hn), htype, node_of_get? hn] at h
        cases h
      | some type =>
        rw [failure?_eq hn htype, Option.ite_none_right_eq_some] at h
        exact ⟨n, type, hn, htype, h.1, Option.some.inj h.2⟩
  · rintro ⟨n, type, hn, htype, hfails, rfl⟩
    rw [failure?_eq hn htype, if_pos hfails]

/-! ## Along a way with an end -/

section Way

variable {s : Scene} {handle : NodeHandle} {nodes : List NodeHandle}
  (h : s.Way (some handle) nodes)

include h

theorem Way.cookedFrom_marked : s.CookedFrom handle (s.marked nodes) where
  nodes := rfl
  keys := keys_marked s nodes
  cooked := by
    intro other n hneeds hn
    rw [get?_marked, hn, Option.map_some]
    unfold markedNode
    rw [if_pos (h.mem_iff.2 hneeds)]
  left := by
    intro other hneeds
    have hsame : markedNode nodes other = id := funext fun n =>
      if_neg fun hmem => hneeds (h.mem_iff.1 hmem)
    rw [get?_marked, hsame, Option.map_id_apply]

theorem Way.not_fails (hnone : (nodes.filterMap s.failure?).getLast? = none) {other : NodeHandle}
    (hneeds : s.Needs handle other) (name : String) : ¬ s.Fails other name := by
  intro hfails
  rw [List.getLast?_eq_none_iff] at hnone
  have hmem := List.mem_filterMap.2
    ⟨other, h.mem_iff.2 hneeds, failure?_eq_some_iff.2 hfails⟩
  rw [hnone] at hmem
  cases hmem

/-- The last failure on a way is the farthest one. -/
theorem Way.farthestFailure {name : String}
    (hlast : (nodes.filterMap s.failure?).getLast? = some name) :
    s.FarthestFailure handle name := by
  rw [List.getLast?_filterMap, List.findSome?_eq_some_iff] at hlast
  obtain ⟨behind, failing, before, hsplit, hfailing, hbehind⟩ := hlast
  have hnodes : nodes = before.reverse ++ failing :: behind.reverse := by
    rw [← List.reverse_reverse nodes, hsplit]
    simp
  have hpairwise := h.pairwise
  rw [hnodes, List.pairwise_append] at hpairwise
  refine ⟨failing, h.mem_iff.1 (by simp [hnodes]), failure?_eq_some_iff.1 hfailing, ?_⟩
  intro other otherName hneeds hfails
  have hmem := h.mem_iff.2 hneeds
  rw [hnodes, List.mem_append, List.mem_cons, List.mem_reverse, List.mem_reverse] at hmem
  rcases hmem with hmem | rfl | hmem
  · have hlater := hpairwise.2.2 other (List.mem_reverse.2 hmem) failing List.mem_cons_self
    exact hlater.to_reflTransGen
  · exact .refl
  · cases (hbehind other hmem).symm.trans (failure?_eq_some_iff.2 hfails)

end Way

/-! ## Cooking -/

section Sound

variable {s : Scene} (hs : Sound s) {handle : NodeHandle}

include hs

/-- A way that comes to a node again is refused. -/
theorem Sound.cook_of_revisits (h : s.Revisits handle) :
    cook handle s = .error (.failed ("cycle detected upstream of " ++ handle.label)) s := by
  rcases hs.supply_cases h.mem_keys with ⟨nodes, hway⟩ | ⟨-, hcycle⟩
  · exact absurd h hway.not_revisits
  · unfold cook
    rw [hcycle]

/-- The way from a node comes to an end, or to a node again. -/
theorem Sound.exists_way (hmem : handle ∈ s.nodes.keys) (h : ¬ s.Revisits handle) :
    ∃ nodes, s.Way (some handle) nodes :=
  (hs.supply_cases hmem).resolve_right fun hcycle => h hcycle.1

theorem Sound.cook_of_way {nodes : List NodeHandle} (hway : s.Way (some handle) nodes) :
    (∀ other name, s.Needs handle other → ¬ s.Fails other name) ∧
        cook handle s = .ok () (s.marked nodes) ∨
      ∃ name, s.FarthestFailure handle name ∧
        cook handle s =
          .error (.cookFailed ("error while cooking '" ++ name ++ "'")) (s.marked nodes) := by
  rw [cook_eq hs hway.supply_eq fun other => hway.mem_keys]
  cases hlast : (nodes.filterMap s.failure?).getLast? with
  | none => exact .inl ⟨fun other name hneeds => hway.not_fails hlast hneeds name, rfl⟩
  | some name => exact .inr ⟨name, hway.farthestFailure hlast, rfl⟩

/-- Cooking ends in its error for cycles just where the way comes to a node again. -/
theorem Sound.revisits_iff_cook (hmem : handle ∈ s.nodes.keys) :
    s.Revisits handle ↔ ∃ t, cook handle s =
      .error (.failed ("cycle detected upstream of " ++ handle.label)) t := by
  refine ⟨fun hrevisits => ⟨s, hs.cook_of_revisits hrevisits⟩, ?_⟩
  rintro ⟨t, hcycle⟩
  by_contra hrevisits
  obtain ⟨nodes, hway⟩ := hs.exists_way hmem hrevisits
  rcases hs.cook_of_way hway with ⟨-, hok⟩ | ⟨name, -, hfailed⟩
  · cases hcycle.symm.trans hok
  · cases hcycle.symm.trans hfailed

end Sound

/-- **Cooking.** On a reachable scene, the loop along inputs stops, whatever cycles there are.
Cooking refuses a node that is not there and one from which the way comes to a node again, and then
nothing has changed. For any other node, that node and all that it needs are cooked and nothing else
is changed. Then it goes well if none of these fails, and else names the one that is farthest
away. -/
theorem cook_outcome {s : Scene} (h : s.Reachable) (handle : NodeHandle) :
    (∀ n, s.nodes.get? handle = some n →
      s.Walks handle [handle] n.input (s.supply handle)) ∧
    (handle ∉ s.nodes.keys → host.cook handle s = .error (.unknownHandle handle.id) s) ∧
    (s.Revisits handle → host.cook handle s =
      .error (.failed ("cycle detected upstream of " ++ handle.label)) s) ∧
    (handle ∈ s.nodes.keys → ¬ s.Revisits handle → ∃ t, s.CookedFrom handle t ∧
      ((∀ other name, s.Needs handle other → ¬ s.Fails other name) ∧
          host.cook handle s = .ok () t ∨
        ∃ name, s.FarthestFailure handle name ∧
          host.cook handle s =
            .error (.cookFailed ("error while cooking '" ++ name ++ "'")) t)) := by
  have hs := h.sound
  refine ⟨fun n => walks_supply, cook_of_not_mem, hs.cook_of_revisits, fun hmem hagain => ?_⟩
  obtain ⟨nodes, hway⟩ := hs.exists_way hmem hagain
  exact ⟨s.marked nodes, hway.cookedFrom_marked, hs.cook_of_way hway⟩

/-- A loader that leads into a cycle of two others, and a report behind two checks that fail. -/
def knotted (cooked : Bool) : Scene :=
  { standard.register { name := "check_uv", failsCook := true } with
    named := [("file", 3), ("check_uv", 2), ("report_json", 1)]
    lastHandle := 6
    nodes :=
      [(⟨1⟩, ⟨"file1", "file", [("file", .text "")], some ⟨2⟩, false⟩),
        (⟨2⟩, ⟨"file2", "file", [("file", .text "")], some ⟨3⟩, false⟩),
        (⟨3⟩, ⟨"file3", "file", [("file", .text "")], some ⟨2⟩, false⟩),
        (⟨4⟩, ⟨"check_uv1", "check_uv", [], none, cooked⟩),
        (⟨5⟩, ⟨"check_uv2", "check_uv", [], some ⟨4⟩, cooked⟩),
        (⟨6⟩, ⟨"report_json1", "report_json", [("json_path", .text "")], some ⟨5⟩, cooked⟩)] }

theorem Reachable.knotted : Reachable (knotted false) :=
  (((((((((((Reachable.standard.move (.register { name := "check_uv", failsCook := true })).move
    (.ask (.createNode "file"))).move (.ask (.createNode "file"))).move
    (.ask (.createNode "file"))).move (.ask (.createNode "check_uv"))).move
    (.ask (.createNode "check_uv"))).move (.ask (.createNode "report_json"))).move
    (.ask (.connectInput ⟨1⟩ ⟨2⟩))).move (.ask (.connectInput ⟨2⟩ ⟨3⟩))).move
    (.ask (.connectInput ⟨3⟩ ⟨2⟩))).move (.ask (.connectInput ⟨5⟩ ⟨4⟩))).move
    (.ask (.connectInput ⟨6⟩ ⟨5⟩))

/-- A way into a cycle, and one past two failures. -/
theorem cook_outcome_knotted :
    (knotted false).Reachable ∧ (knotted false).Revisits ⟨1⟩ ∧
    host.cook ⟨1⟩ (knotted false) = .error (.failed "cycle detected upstream of #1")
      (knotted false) ∧
    ⟨6⟩ ∈ (knotted false).nodes.keys ∧ ¬ (knotted false).Revisits ⟨6⟩ ∧
    (knotted false).CookedFrom ⟨6⟩ (knotted true) ∧
    host.cook ⟨6⟩ (knotted false) =
      .error (.cookFailed "error while cooking 'check_uv1'") (knotted true) := by
  have hcycle : (knotted false).Revisits ⟨1⟩ :=
    ⟨⟨2⟩, .single ⟨_, rfl, rfl⟩, .tail (.single ⟨_, rfl, rfl⟩) ⟨_, rfl, rfl⟩⟩
  have hway : (knotted false).Way (some ⟨6⟩) [⟨6⟩, ⟨5⟩, ⟨4⟩] :=
    .step rfl (.step rfl (.step rfl .atEnd))
  have hmem : ⟨6⟩ ∈ (knotted false).nodes.keys := hway.mem_keys List.mem_cons_self
  have hcook : host.cook ⟨6⟩ (knotted false) =
      .error (.cookFailed "error while cooking 'check_uv1'") (knotted true) := rfl
  obtain ⟨-, -, hrefused, -⟩ := cook_outcome .knotted ⟨1⟩
  obtain ⟨-, -, -, hcooked⟩ := cook_outcome .knotted ⟨6⟩
  obtain ⟨t, hfrom, ⟨-, hok⟩ | ⟨name, -, hfailed⟩⟩ := hcooked hmem hway.not_revisits
  · cases hcook.symm.trans hok
  · obtain ⟨-, rfl⟩ := EStateM.Result.error.inj (hcook.symm.trans hfailed)
    exact ⟨.knotted, hcycle, hrefused hcycle, hmem, hway.not_revisits, hfrom, hcook⟩

end AssetCheck.Scene
