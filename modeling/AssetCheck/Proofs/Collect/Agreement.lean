import AssetCheck.Proofs.Build.Outcome
import AssetCheck.Proofs.Collect.Frame
import AssetCheck.Proofs.Scene.Answers

/-!
# Two ways to collect

A report is collected by the record of a chain, or by the inputs that the scene gives, without a
chain. On a scene that carries the chain both come to the same nodes with the same types, and from
there on they are one procedure. A built chain is carried for as long as nobody connects or removes
a node of it (`Standing`), so the reports agree in all but their time, or the same error ends both
(`collectors_agree`).
-/

namespace AssetCheck

open Scene (host Carries Sound)

/-! ## A chain that stands -/

/-- A chain that was built on the scene, and whose nodes have not been connected or removed since.
Other chains may have been built, or not, and reports may have been collected. -/
inductive Standing (c : Chain) : Scene → Prop
  | built {s : Scene} {spec : PipelineSpec} {subs : Substitutions} {id : Nat} {built : BuiltChain}
      {bench : Workbench Scene} : s.Reachable → build host spec subs ⟨s, id⟩ = .ok built bench →
      built.chain = c → Standing c bench.host
  | moved {s : Scene} (m : Scene.Move) : Standing c s → m.leaves c → Standing c (m.apply s)
  | builtOn {s : Scene} (spec : PipelineSpec) (subs : Substitutions) (id : Nat) : Standing c s →
      Standing c (stateAfter (build host spec subs) ⟨s, id⟩).host
  | collected {s : Scene} (setting : Setting) (other : Chain) (position : Nat) : Standing c s →
      Standing c (stateAfter (Collect.fromChain host setting other position) s)
  | collectedAlone {s : Scene} (setting : Setting) (terminal : NodeHandle) : Standing c s →
      Standing c (stateAfter (Collect.fromInputs host setting terminal) s)

/-- A sound scene that carries a chain. -/
def Scene.Holds (c : Chain) (s : Scene) : Prop := s.Sound ∧ s.Carries c

theorem Scene.Holds.keeps {c : Chain} (request : Request) (hr : request.collects = true) :
    Keeps (Holds c) (host.perform request) := by
  intro s hs
  have hgraph := perform_sameGraph (changesGraph_of_collects hr) s
  exact ⟨hs.1.sameGraph hgraph, hs.2.of_links fun handle _ => hgraph.link handle⟩

theorem Scene.Holds.build {c : Chain} {s : Scene} (h : s.Holds c) (spec : PipelineSpec)
    (subs : Substitutions) (id : Nat) :
    (stateAfter (AssetCheck.build host spec subs) ⟨s, id⟩).host.Holds c := by
  cases hb : AssetCheck.build host spec subs ⟨s, id⟩ with
  | ok built bench =>
    rw [stateAfter_ok hb]
    have hgrown := (builds_of_build_ok h.1 hb).2.grown
    exact ⟨hgrown.sound h.1, h.2.grown hgrown⟩
  | error e bench =>
    rw [stateAfter_error hb]
    have honly := (onlyCounted_of_build_error h.1 hb).2
    exact ⟨honly.sound h.1, h.2.of_links fun handle _ => honly.link?_eq handle⟩

theorem Standing.holds {c : Chain} {s : Scene} (h : Standing c s) : s.Holds c := by
  induction h with
  | built hs hb hc =>
    have hbuilds := (builds_of_build_ok hs.sound hb).2
    exact ⟨hbuilds.grown.sound hs.sound, hc ▸ hbuilds.carries⟩
  | moved m _ hm ih => exact ⟨ih.1.move m, ih.2.move hm⟩
  | builtOn spec subs id _ ih => exact ih.build spec subs id
  | collected setting other position _ ih =>
    exact Collect.fromChain_keeps Scene.Holds.keeps setting other position _ ih
  | collectedAlone setting terminal _ ih =>
    exact Collect.fromInputs_keeps Scene.Holds.keeps setting terminal _ ih

namespace Collect

/-! ## The way back -/

section Carries

variable {s : Scene} {c : Chain} (h : s.Carries c)

include h

/-- Following inputs from a position meets the handles before it. Those that were met on the way
from the last position are given. -/
theorem followInputs_of_carries {last : Nat} {terminal : ChainNode}
    (hlast : c.node? last = some terminal) (position steps : Nat) {node : ChainNode}
    (hnode : c.node? position = some node)
    (hle : position ≤ last) (hsteps : position ≤ steps) :
    followInputs host terminal.handle steps ((c.handles.take last).drop position) node.handle s =
      .ok (c.handles.take last) s := by
  have hinputs := ask_ok (h.inputs_eq hnode)
  induction position generalizing steps node with
  | zero =>
    unfold followInputs
    rw [bind_ok hinputs]
    rfl
  | succ position ih =>
    obtain ⟨steps, rfl⟩ : ∃ k, steps = k + 1 := ⟨steps - 1, by omega⟩
    have hlen := Chain.node?_lt hnode
    have hprevious : c.node? position = some c.nodes[position] :=
      List.getElem?_eq_getElem (by omega)
    have hmet := Chain.handles_drop_take hprevious hle
    -- No handle stands twice in the chain, so the one before has not been met.
    have hall := h.distinct.sublist (List.take_sublist (last + 1) c.handles)
    rw [Chain.handles_take_succ hlast] at hall
    have hnodup := hall.sublist ((List.drop_sublist position (c.handles.take last)).append_right _)
    rw [hmet, List.cons_append, List.nodup_cons, List.mem_append, not_or,
      List.mem_singleton] at hnodup
    obtain ⟨⟨hseen, hterminal⟩, -⟩ := hnodup
    rw [Chain.source?_succ hprevious] at hinputs
    unfold followInputs
    rw [bind_ok hinputs]
    dsimp only [Option.toList]
    rw [if_neg (not_or.2 ⟨hterminal, hseen⟩), ← hmet]
    exact ih steps hprevious (by omega) (by omega) (ask_ok (h.inputs_eq hprevious))

theorem withTypes_of_carries (nodes : List ChainNode) (hnodes : ∀ node ∈ nodes, node ∈ c.nodes) :
    withTypes host (nodes.map (·.handle)) s =
      .ok (nodes.map fun node => (node.handle, node.typeName)) s := by
  induction nodes with
  | nil => rfl
  | cons node rest ih =>
    obtain ⟨hnode, hrest⟩ := List.forall_mem_cons.1 hnodes
    obtain ⟨position, hposition⟩ := List.getElem?_of_mem hnode
    have hat : c.node? position = some node := hposition
    have htype := ask_ok (h.nodeType_eq hat)
    show withTypes host (node.handle :: rest.map (·.handle)) s = _
    unfold withTypes
    rw [bind_ok htype, bind_ok (ih hrest)]
    rfl

/-- Without its record, a chain is collected as with it. -/
theorem fromInputs_of_carries (setting : Setting) {position : Nat} {node : ChainNode}
    (hnode : c.node? position = some node) :
    fromInputs host setting node.handle s = fromChain host setting c position s := by
  have hlen := Chain.node?_lt hnode
  have hsize := h.length_le
  have hfollow := followInputs_of_carries h hnode position (host.reach s) hnode (Nat.le_refl _)
    (by show position ≤ s.nodes.length + 1; omega)
  rw [List.drop_of_length_le (List.length_take_le ..)] at hfollow
  have htypes := withTypes_of_carries h (c.nodes.take position) fun _ hmem =>
    List.mem_of_mem_take hmem
  have hancestors := Chain.ancestors_of_linear h.linear hlen
  unfold fromInputs fromChain
  dsimp only
  rw [List.map_take] at htypes
  rw [bind_ok hfollow, Chain.handles, bind_ok htypes, hnode, hancestors]

end Carries

/-! ## The time of a report -/

end Collect

def Report.stamped (now : String) (r : Report) : Report := { r with timestamp := now }

namespace Collect

section Time

variable {σ : Type} (h : Host σ) (setting : Setting) (now : String)

theorem diagnostics_now (nodes : List TypedNode) :
    diagnostics h { setting with now } nodes = diagnostics h setting nodes := by
  induction nodes with
  | nil => rfl
  | cons node rest ih =>
    unfold diagnostics
    rw [ih]
    rfl

theorem fromNodes_now (terminal : NodeHandle) (nodes : List TypedNode) :
    fromNodes h { setting with now } terminal nodes =
      Report.stamped now <$> fromNodes h setting terminal nodes := by
  unfold fromNodes
  rw [diagnostics_now]
  simp only [map_bind, map_pure]
  rfl

theorem fromChain_now (c : Chain) (position : Nat) :
    fromChain h { setting with now } c position =
      Report.stamped now <$> fromChain h setting c position := by
  unfold fromChain
  cases c.node? position with
  | none => rfl
  | some terminal => exact fromNodes_now h setting now terminal.handle _

end Time

end Collect

/-- **Agreement.** For a chain that stands, collecting at one of its nodes by inputs gives what
collecting by the chain gives: the same report but for the time, or the same error, and the same
scene. -/
theorem collectors_agree {c : Chain} {s : Scene} (h : Standing c s) (setting : Setting)
    (now : String) {position : Nat} {node : ChainNode} (hnode : c.node? position = some node) :
    Collect.fromInputs host { setting with now } node.handle s =
      (Report.stamped now <$> Collect.fromChain host setting c position) s := by
  rw [Collect.fromInputs_of_carries h.holds.2 { setting with now } hnode, Collect.fromChain_now]

def PipelineSpec.faces : PipelineSpec := ⟨[⟨"file", []⟩, ⟨"check_faces", []⟩, ⟨"report_json", []⟩]⟩

def Chain.faces : Chain :=
  ⟨0, "", [⟨⟨1⟩, "file", 0, none, []⟩, ⟨⟨2⟩, "check_faces", 1, some 0, []⟩,
    ⟨⟨3⟩, "report_json", 2, some 1, []⟩]⟩

def Scene.faces (path : String) (cooked : Bool) : Scene :=
  { standard.register { name := "check_faces", errors := ["open edge"] } with
    named := [("file", 1), ("check_faces", 1), ("report_json", 1)]
    lastHandle := 3
    nodes :=
      [(⟨1⟩, ⟨"file1", "file", [("file", .text path)], none, cooked⟩),
        (⟨2⟩, ⟨"check_faces1", "check_faces", [], some ⟨1⟩, cooked⟩),
        (⟨3⟩, ⟨"report_json1", "report_json", [("json_path", .text "")], some ⟨2⟩, cooked⟩)] }

/-- The chain stands when the path of its asset has been set. -/
theorem Standing.faces (path : String) : Standing .faces (.faces path false) := by
  have hb : build host .faces .empty
      ⟨Scene.standard.register { name := "check_faces", errors := ["open edge"] }, 0⟩ =
      .ok ⟨.faces, []⟩ ⟨.faces "" false, 1⟩ := rfl
  exact .moved (.ask (.setParameter ⟨⟨1⟩, "file"⟩ (.text path)))
    (.built (.move (.register _) .standard) hb rfl) trivial

/-- A check that has errors, on an asset whose path was set after the chain was built. -/
theorem collectors_agree_failing_check :
    Standing .faces (.faces "a.fbx" false) ∧
    ∃ report,
      Collect.fromChain host ⟨{}, ⟨"artist", "ws01"⟩, "08:00"⟩ .faces 2 (.faces "a.fbx" false) =
        .ok report (.faces "a.fbx" true) ∧
      report.diagnostics = [⟨"open edge", "check_faces1", "check_faces", .error⟩] ∧
      Collect.fromInputs host ⟨{}, ⟨"artist", "ws01"⟩, "08:01"⟩ ⟨3⟩ (.faces "a.fbx" false) =
        .ok (report.stamped "08:01") (.faces "a.fbx" true) := by
  have hs := Standing.faces "a.fbx"
  have hchain : Collect.fromChain host ⟨{}, ⟨"artist", "ws01"⟩, "08:00"⟩ .faces 2
      (.faces "a.fbx" false) =
      .ok ⟨"a.fbx", true, [⟨"open edge", "check_faces1", "check_faces", .error⟩], "ws01",
          "08:00", "artist", "2.0"⟩
        (.faces "a.fbx" true) := rfl
  have hnode : Chain.faces.node? 2 = some ⟨⟨3⟩, "report_json", 2, some 1, []⟩ := rfl
  have hagree := collectors_agree hs ⟨{}, ⟨"artist", "ws01"⟩, "08:00"⟩ "08:01" hnode
  exact ⟨hs, _, hchain, rfl, hagree.trans (map_ok _ hchain)⟩

end AssetCheck
