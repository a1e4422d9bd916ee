import AssetCheck.Proofs.Build.Frame
import AssetCheck.Proofs.Collect.Agreement
import AssetCheck.Proofs.Collect.Verdicts

/-!
# Collecting in any order

Collecting marks nodes as cooked, and only cooked nodes say anything. Still each report is the one
that the scene gives before anything is collected: a collection cooks all nodes that it reads, and
nothing else of the scene changes. So reports collected one after another do not depend on their
order, nor do the marks that they leave; nor does it matter how often a report is collected, or
whether one comes to an error (`collections_commute`).
-/

namespace AssetCheck

open Scene (host)

/-- The nodes of a chain up to a position, if it has the position. -/
def Chain.upTo (c : Chain) (position : Nat) : List NodeHandle :=
  match c.node? position with
  | some _ => c.handles.take (position + 1)
  | none => []

/-- A report to collect, and when. -/
structure Visit where
  chain : Chain
  position : Nat
  now : String

def Visit.place (v : Visit) : Chain × Nat := (v.chain, v.position)

namespace Collect

def visit (setting : Setting) (v : Visit) : EStateM ReportError Scene Report :=
  fromChain host { setting with now := v.now } v.chain v.position

/-- Collects reports one after another, also after one that comes to an error. -/
def visits (setting : Setting) : List Visit → Scene → List (Except ReportError Report) × Scene
  | [], s => ([], s)
  | v :: rest, s =>
    let later := visits setting rest (stateAfter (visit setting v) s)
    (resultOf (visit setting v) s :: later.1, later.2)

/-- The result of collecting a report before anything else is collected, stamped with its time. -/
def alone (setting : Setting) (s : Scene) (v : Visit) : Except ReportError Report :=
  Report.stamped v.now <$> resultOf (fromChain host setting v.chain v.position) s

end Collect

namespace Scene

/-- The report at a position of a chain, or that the chain has no such position. -/
def resultAt (s : Scene) (setting : Setting) (c : Chain) (position : Nat) :
    Except ReportError Report :=
  match c.node? position with
  | some terminal => s.reportAt setting c position terminal.handle
  | none => .error (.host (.failed
      ("chain " ++ toString c.id ++ " has no node at position " ++ toString position)))

theorem resultAt_marked (s : Scene) (handles : List NodeHandle) (setting : Setting) (c : Chain)
    (position : Nat) : (s.marked handles).resultAt setting c position =
      s.resultAt setting c position := by
  unfold resultAt
  cases c.node? position with
  | none => rfl
  | some terminal => exact reportAt_marked s handles setting c position terminal.handle

/-- At another time, only the time of the result is another. -/
theorem resultAt_now (s : Scene) (setting : Setting) (c : Chain) (position : Nat) (now : String) :
    s.resultAt { setting with now } c position =
      Report.stamped now <$> s.resultAt setting c position := by
  unfold resultAt
  cases c.node? position with
  | none => rfl
  | some terminal =>
    dsimp only
    unfold reportAt
    simp only [map_bind, map_pure]
    rfl

theorem Holds.marked {c : Chain} {s : Scene} (h : s.Holds c) (handles : List NodeHandle) :
    (s.marked handles).Holds c := by
  have hgraph := sameGraph_marked s handles
  exact ⟨h.1.sameGraph hgraph, h.2.of_links fun handle _ => hgraph.link handle⟩

theorem marked_again (s : Scene) {handles others : List NodeHandle} (h : others ⊆ handles) :
    (s.marked handles).marked others = s.marked handles := by
  rw [marked_marked]
  refine marked_congr s fun handle => ?_
  rw [List.mem_append]
  exact ⟨fun hmem => hmem.elim id (@h handle), Or.inl⟩

end Scene

namespace Collect

variable (setting : Setting)

/-- **One visit.** The result is there before the visit, which marks the chain up to its
position. -/
theorem fromChain_known {s : Scene} {c : Chain} (h : s.Holds c) (position : Nat) :
    fromChain host setting c position s =
      known (s.resultAt setting c position) (s.marked (c.upTo position)) := by
  unfold Scene.resultAt Chain.upTo
  cases hterminal : c.node? position with
  | some terminal => exact fromChain_eq h.2 h.1 setting hterminal
  | none =>
    dsimp only
    rw [Scene.marked_nil]
    unfold fromChain
    rw [hterminal]
    rfl

/-- **Many visits.** Each has the result that it has at the start; all their marks are left. -/
theorem visits_eq {s : Scene} {all : List Visit} (h : ∀ v ∈ all, s.Holds v.chain) :
    visits setting all s =
      (all.map fun v => s.resultAt { setting with now := v.now } v.chain v.position,
        s.marked (all.flatMap fun v => v.chain.upTo v.position)) := by
  induction all generalizing s with
  | nil => rw [List.flatMap_nil, Scene.marked_nil]; rfl
  | cons v rest ih =>
    obtain ⟨hv, hrest⟩ := List.forall_mem_cons.1 h
    have hvisit : visit setting v s = _ := fromChain_known { setting with now := v.now } hv _
    have hlater := ih fun w hw => (hrest w hw).marked (v.chain.upTo v.position)
    simp only [Scene.resultAt_marked, Scene.marked_marked] at hlater
    unfold visits
    rw [stateAfter_known hvisit, resultOf_known hvisit, hlater]
    rfl

theorem alone_eq {s : Scene} {v : Visit} (h : s.Holds v.chain) :
    alone setting s v =
      s.resultAt { setting with now := v.now } v.chain v.position := by
  unfold alone
  rw [resultOf_known (fromChain_known setting h v.position)]
  exact (s.resultAt_now setting v.chain v.position v.now).symm

end Collect

open Collect in
/-- **Any order.** Let reports be collected one after another, at positions of chains that stand,
and let others be collected at the same places in another order and at other times. Each has the
result that it has alone, but for its time, and both leave one scene. There, collecting any of them
again gives the same result and changes nothing. -/
theorem collections_commute {s : Scene} {all others : List Visit}
    (hstanding : ∀ v ∈ all, Standing v.chain s)
    (hperm : (all.map Visit.place).Perm (others.map Visit.place)) (setting : Setting) :
    (visits setting all s).1 = all.map (alone setting s) ∧
    (visits setting others s).1 = others.map (alone setting s) ∧
    (visits setting others s).2 = (visits setting all s).2 ∧
    ∀ v ∈ all, ∀ now, visit setting { v with now } (visits setting all s).2 =
      known (alone setting s { v with now }) (visits setting all s).2 := by
  have hall : ∀ v ∈ all, s.Holds v.chain := fun v hv => (hstanding v hv).holds
  have hothers : ∀ v ∈ others, s.Holds v.chain := by
    intro v hv
    obtain ⟨w, hw, hplace⟩ := List.mem_map.1 (hperm.mem_iff.2 (List.mem_map_of_mem hv))
    have hchain : w.chain = v.chain := congrArg Prod.fst hplace
    exact hchain ▸ hall w hw
  -- Marks do not tell in which order, or how often, they were made.
  have hmarks : s.marked (others.flatMap fun v => v.chain.upTo v.position) =
      s.marked (all.flatMap fun v => v.chain.upTo v.position) := by
    have hflat : ∀ list : List Visit, (list.flatMap fun v => v.chain.upTo v.position) =
        (list.map Visit.place).flatMap fun place => place.1.upTo place.2 := fun list =>
      (List.flatMap_map Visit.place (fun place : Chain × Nat => place.1.upTo place.2) list).symm
    refine Scene.marked_congr s fun handle => ?_
    rw [hflat, hflat]
    exact (hperm.flatMap_right _).symm.mem_iff
  have hresults : ∀ list : List Visit, (∀ v ∈ list, s.Holds v.chain) →
      (visits setting list s).1 = list.map (alone setting s) := by
    intro list hlist
    rw [visits_eq setting hlist]
    exact List.map_congr_left fun v hv => (alone_eq setting (hlist v hv)).symm
  refine ⟨hresults all hall, hresults others hothers, ?_, fun v hv now => ?_⟩
  · rw [visits_eq setting hothers, visits_eq setting hall]
    exact hmarks
  · have hagain : v.chain.upTo v.position ⊆ all.flatMap fun v => v.chain.upTo v.position :=
      fun handle hmem => List.mem_flatMap.2 ⟨v, hv, hmem⟩
    have hmarked := (hall v hv).marked (all.flatMap fun v => v.chain.upTo v.position)
    have hvisit := fromChain_known { setting with now } hmarked v.position
    rw [Scene.marked_again s hagain, Scene.resultAt_marked] at hvisit
    rw [visits_eq setting hall, alone_eq setting (v := { v with now }) (hall v hv)]
    exact hvisit

theorem Scene.Reachable.build {s : Scene} (hs : s.Reachable) (spec : PipelineSpec)
    (subs : Substitutions) (id : Nat) :
    (stateAfter (AssetCheck.build host spec subs) ⟨s, id⟩).host.Reachable :=
  build_keeps (fun request _ _ h => .move (.ask request) h) spec subs ⟨s, id⟩ hs

/-- A loader, a check that cannot be cooked, and a report. -/
def PipelineSpec.uv : PipelineSpec := ⟨[⟨"file", []⟩, ⟨"check_uv", []⟩, ⟨"report_json", []⟩]⟩

def Chain.uv : Chain :=
  ⟨1, "", [⟨⟨4⟩, "file", 0, none, []⟩, ⟨⟨5⟩, "check_uv", 1, some 0, []⟩,
    ⟨⟨6⟩, "report_json", 2, some 1, []⟩]⟩

/-- A scene with some of the nodes of both chains. -/
def Scene.checks (named : Table String Nat) (count : Nat) : Scene :=
  { (standard.register { name := "check_faces" }).register
      { name := "check_uv", failsCook := true } with
    named
    lastHandle := count
    nodes := List.take count
      [(⟨1⟩, ⟨"file1", "file", [("file", .text "")], none, false⟩),
        (⟨2⟩, ⟨"check_faces1", "check_faces", [], some ⟨1⟩, false⟩),
        (⟨3⟩, ⟨"report_json1", "report_json", [("json_path", .text "")], some ⟨2⟩, false⟩),
        (⟨4⟩, ⟨"file2", "file", [("file", .text "")], none, false⟩),
        (⟨5⟩, ⟨"check_uv1", "check_uv", [], some ⟨4⟩, false⟩),
        (⟨6⟩, ⟨"report_json2", "report_json", [("json_path", .text "")], some ⟨5⟩, false⟩)] }

/-- Two chains, on one of which cooking fails, and a position with no loader before it. -/
theorem collections_commute_two_chains :
    ∃ s, Standing .faces s ∧ Standing .uv s ∧
      let setting : Setting := ⟨{}, ⟨"artist", "ws01"⟩, ""⟩
      let all : List Visit := [⟨.faces, 2, "08:00"⟩, ⟨.uv, 2, "08:01"⟩, ⟨.faces, 0, "08:02"⟩,
        ⟨.uv, 2, "08:03"⟩]
      let others : List Visit := [⟨.faces, 0, "09:00"⟩, ⟨.uv, 2, "09:01"⟩, ⟨.faces, 2, "09:02"⟩,
        ⟨.uv, 2, "09:03"⟩]
      (all.map Visit.place).Perm (others.map Visit.place) ∧
      (Collect.visits setting all s).1 = all.map (Collect.alone setting s) ∧
      (Collect.visits setting others s).1 = others.map (Collect.alone setting s) ∧
      (Collect.visits setting others s).2 = (Collect.visits setting all s).2 ∧
      Collect.alone setting s ⟨.uv, 2, "08:01"⟩ =
        .ok ⟨"", false, [⟨"node produced no verdict", "check_uv1", "check_uv", .error⟩], "ws01",
          "08:01", "artist", "2.0"⟩ ∧
      Collect.alone setting s ⟨.faces, 0, "08:02"⟩ = .error (.missingLoader "file1") := by
  have hstart : (Scene.checks [] 0).Reachable := .move (.register _) (.move (.register _) .standard)
  have hone : build host .faces .empty ⟨.checks [] 0, 0⟩ =
      .ok ⟨.faces, []⟩ ⟨.checks [("file", 1), ("check_faces", 1), ("report_json", 1)] 3, 1⟩ := rfl
  have htwo : build host .uv .empty
      ⟨.checks [("file", 1), ("check_faces", 1), ("report_json", 1)] 3, 1⟩ =
      .ok ⟨.uv, []⟩
        ⟨.checks [("file", 2), ("check_faces", 1), ("report_json", 2), ("check_uv", 1)] 6, 2⟩ := rfl
  have hreach := hstart.build .faces .empty 0
  have hfaces := (Standing.built hstart hone rfl).builtOn .uv .empty 1
  rw [stateAfter_ok hone] at hreach
  rw [stateAfter_ok htwo] at hfaces
  have huv := Standing.built hreach htwo rfl
  refine ⟨_, hfaces, huv, ?_⟩
  intro setting all others
  have hstanding : ∀ v ∈ all, Standing v.chain _ :=
    List.forall_mem_cons.2 ⟨hfaces, List.forall_mem_cons.2 ⟨huv, List.forall_mem_cons.2 ⟨hfaces,
      List.forall_mem_singleton.2 huv⟩⟩⟩
  have hperm : (all.map Visit.place).Perm (others.map Visit.place) :=
    @List.perm_append_comm (Chain × Nat) [(.faces, 2), (.uv, 2)] [(.faces, 0), (.uv, 2)]
  obtain ⟨hall, hothers, hlast, -⟩ := collections_commute hstanding hperm setting
  exact ⟨hperm, hall, hothers, hlast, rfl, rfl⟩

end AssetCheck
