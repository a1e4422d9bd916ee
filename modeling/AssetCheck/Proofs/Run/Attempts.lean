import AssetCheck.Proofs.Collect.Agreement
import AssetCheck.Proofs.Run.Phases

/-!
# What triggers do to a scene

Each trigger is attempted once, whatever the triggers before it came to. One without a hook is
pressed on its node, and of all that a scene holds this adds to the list of pressed triggers only;
one with the usual hook is never pressed, and can do no more than cook. So after any triggers the
scene is what it was but for some marks and the actions that were pressed (`Scene.Pressed`), and
which of them were pressed can be told beforehand (`Trigger.Lands`, `fireAll_attempts`). Triggers
and chains may be any, and so may the scene.
-/

namespace AssetCheck

open Scene (host)

namespace Scene

/-- Some nodes have been cooked since, and triggers with these actions have been pressed. -/
def Pressed (s : Scene) (actions : List ActionHandle) (t : Scene) : Prop :=
  ∃ handles, t = { s.marked handles with fired := s.fired ++ actions }

section Pressed

variable {s t : Scene} {actions : List ActionHandle}

theorem Pressed.refl (s : Scene) : s.Pressed [] s := by
  refine ⟨[], ?_⟩
  rw [marked_nil, List.append_nil]

theorem Pressed.marked (h : s.Pressed actions t) (others : List NodeHandle) :
    s.Pressed actions (t.marked others) := by
  obtain ⟨handles, rfl⟩ := h
  refine ⟨handles ++ others, ?_⟩
  rw [← marked_marked]
  rfl

theorem Pressed.press (h : s.Pressed actions t) (action : ActionHandle) :
    s.Pressed (actions ++ [action]) { t with fired := t.fired ++ [action] } := by
  obtain ⟨handles, rfl⟩ := h
  exact ⟨handles, congrArg (fun fired => { s.marked handles with fired })
    (List.append_assoc s.fired actions [action])⟩

theorem Pressed.fired (h : s.Pressed actions t) : t.fired = s.fired ++ actions := by
  obtain ⟨handles, rfl⟩ := h
  rfl

theorem Pressed.keys (h : s.Pressed actions t) : t.nodes.keys = s.nodes.keys := by
  obtain ⟨handles, rfl⟩ := h
  exact keys_marked s handles

theorem Pressed.get? (h : s.Pressed actions t) {handle : NodeHandle} {n : SceneNode}
    (hn : s.nodes.get? handle = some n) :
    ∃ cooked, t.nodes.get? handle = some { n with cooked } := by
  obtain ⟨handles, rfl⟩ := h
  show ∃ cooked, (s.marked handles).nodes.get? handle = _
  rw [get?_marked, hn, Option.map_some]
  unfold markedNode
  split
  · exact ⟨true, rfl⟩
  · exact ⟨n.cooked, rfl⟩

theorem Pressed.rest (h : s.Pressed actions t) :
    t = { s with nodes := t.nodes, fired := t.fired } := by
  obtain ⟨handles, rfl⟩ := h
  rfl

/-- Collecting a report makes no more of any scene than marks. -/
theorem exists_marked_of_collects {request : Request} (h : request.collects = true) (s : Scene) :
    ∃ handles, stateAfter (host.perform request) s = s.marked handles := by
  have hsame : ∀ {α : Type} (answer : Scene → Except HostError α),
      ∃ handles, stateAfter (query answer) s = s.marked handles := fun answer =>
    ⟨[], (stateAfter_query answer s).trans (marked_nil s).symm⟩
  cases request with
  | cook handle => exact exists_marked_of_cook handle s
  | nodeName handle | nodeType handle | inputs handle | findParameter handle name
  | parameterValue parameter | warnings handle | errors handle =>
    exact hsame _
  | _ => cases h

theorem Pressed.keeps (request : Request) (h : request.collects = true) :
    Keeps (s.Pressed actions) (host.perform request) := by
  intro t ht
  obtain ⟨handles, hmarked⟩ := exists_marked_of_collects h t
  rw [hmarked]
  exact ht.marked handles

end Pressed

end Scene

/-! ## One trigger -/

/-- The usual hook takes the place of the trigger. -/
def Trigger.Hooked (config : Config) (trigger : Trigger) : Prop :=
  trigger.nodeType = config.reportType ∧ trigger.name = config.reportTrigger

instance (config : Config) : DecidablePred (Trigger.Hooked config) := fun _ =>
  inferInstanceAs (Decidable (_ ∧ _))

/-- The trigger has no hook, and the scene has the node that it belongs to. -/
def Trigger.Lands (config : Config) (s : Scene) (trigger : Trigger) : Prop :=
  ¬ trigger.Hooked config ∧ trigger.action.node ∈ s.nodes.keys

instance (config : Config) (s : Scene) : DecidablePred (Trigger.Lands config s) := fun _ =>
  inferInstanceAs (Decidable (_ ∧ _))

/-- The record of a trigger that was attempted when the scene had the nodes of `s`. -/
structure Record.Of (config : Config) (chains : List Chain) (s : Scene) (trigger : Trigger)
    (record : Record) : Prop where
  key : record.key = trigger.key
  /-- A trigger is pressed exactly if it lands. -/
  fired : record.outcome = .fired ↔ trigger.Lands config s
  /-- Without a hook and without its node, it is refused by the host. -/
  dead : ¬ trigger.Hooked config → trigger.action.node ∉ s.nodes.keys →
    record.outcome = .hostFailed (.unknownHandle trigger.action.node.id)
  /-- With a hook and without its chain, it is refused as well. -/
  stray : trigger.Hooked config → (∀ c ∈ chains, c.id ≠ trigger.chain) →
    record.outcome = .hostFailed (.failed
      ("trigger '" ++ trigger.name ++ "' refers to unknown chain " ++ toString trigger.chain))

namespace Firing

variable (config : Config) (setting : Setting) (chains : List Chain) {s : Scene}
  {actions : List ActionHandle} {trigger : Trigger} {stage : Stage Scene}

theorem press_live (h : trigger.action.node ∈ stage.host.nodes.keys) :
    press host trigger stage = (.fired,
      { stage with
        host := { stage.host with fired := stage.host.fired ++ [trigger.action] } }) := by
  unfold press
  rw [Hook.onHost_ok (Scene.fireTrigger_of_mem h)]

theorem press_dead (h : trigger.action.node ∉ stage.host.nodes.keys) :
    press host trigger stage = (.hostFailed (.unknownHandle trigger.action.node.id), stage) := by
  have hrefused : host.fireTrigger trigger.action stage.host =
      .error (.unknownHandle trigger.action.node.id) stage.host := by
    show Scene.fireTrigger trigger.action stage.host = _
    unfold Scene.fireTrigger
    rw [Scene.node_of_not_mem h]
  unfold press
  rw [Hook.onHost_error hrefused]

theorem runHook_ne_fired {σ : Type} (hook : Hook σ) (trigger : Trigger) (stage : Stage σ) :
    (runHook setting chains hook trigger stage).1 ≠ .fired := by
  intro heq
  unfold runHook at heq
  split at heq
  · cases heq
  · split at heq <;> cases heq

theorem runHook_stray {σ : Type} (hook : Hook σ) (stage : Stage σ)
    (h : ∀ c ∈ chains, c.id ≠ trigger.chain) :
    (runHook setting chains hook trigger stage).1 = .hostFailed (.failed
      ("trigger '" ++ trigger.name ++ "' refers to unknown chain " ++ toString trigger.chain)) := by
  have hnone : chains.find? (·.id = trigger.chain) = none :=
    List.find?_eq_none.2 fun c hc => by simpa using h c hc
  unfold runHook
  rw [hnone]

/-- **An attempt.** On a scene on which triggers have been pressed, one more is pressed if it
lands; else the scene keeps its list of pressed triggers. -/
theorem fire_attempt (trigger : Trigger) (h : s.Pressed actions stage.host) :
    let fired := fire host (Hooks.usual host config) setting chains trigger stage
    Record.Of config chains s trigger fired.1 ∧
      s.Pressed (actions ++ if trigger.Lands config s then [trigger.action] else [])
        fired.2.host := by
  by_cases hhook : trigger.Hooked config
  · have hlands : ¬ trigger.Lands config s := fun hlands => hlands.1 hhook
    dsimp only
    rw [fire_report host setting chains hhook.1 hhook.2, if_neg hlands, List.append_nil]
    refine ⟨⟨rfl, ?_, fun hother => absurd hhook hother, fun _ hstray => ?_⟩, ?_⟩
    · exact iff_of_false (runHook_ne_fired setting chains _ trigger stage) hlands
    · exact runHook_stray setting chains _ stage hstray
    · exact runHook_keeps (P := fun stage : Stage Scene => s.Pressed actions stage.host)
        (fun c => Hook.writeReport_keeps_host Scene.Pressed.keeps setting c trigger) h
  · dsimp only
    rw [fire_press host setting chains hhook]
    by_cases hmem : trigger.action.node ∈ s.nodes.keys
    · have hlands : trigger.Lands config s := ⟨hhook, hmem⟩
      rw [press_live (h.keys ▸ hmem), if_pos hlands]
      exact ⟨⟨rfl, iff_of_true rfl hlands, fun _ hdead => absurd hmem hdead,
        fun hhooked => absurd hhooked hhook⟩, h.press trigger.action⟩
    · have hlands : ¬ trigger.Lands config s := fun hlands => hmem hlands.2
      rw [press_dead (h.keys ▸ hmem), if_neg hlands, List.append_nil]
      exact ⟨⟨rfl, iff_of_false (fun heq => by cases heq) hlands, fun _ _ => rfl,
        fun hhooked => absurd hhooked hhook⟩, h⟩

/-! ## All triggers -/

/-- All triggers are attempted on the nodes that the scene has at the start. -/
theorem fireAll_pressed (triggers : List Trigger) (h : s.Pressed actions stage.host) :
    let fired := fireAll host (Hooks.usual host config) setting chains triggers stage
    List.Forall₂ (Record.Of config chains s) triggers fired.1 ∧
      s.Pressed (actions ++
        (triggers.filter fun trigger => trigger.Lands config s).map (·.action)) fired.2.host := by
  induction triggers generalizing actions stage with
  | nil =>
    refine ⟨.nil, ?_⟩
    rw [List.filter_nil, List.map_nil, List.append_nil]
    exact h
  | cons trigger rest ih =>
    obtain ⟨hrecord, hfirst⟩ := fire_attempt config setting chains trigger h
    obtain ⟨hrecords, hrest⟩ := ih hfirst
    refine ⟨.cons hrecord hrecords, ?_⟩
    rw [List.append_assoc] at hrest
    by_cases hlands : trigger.Lands config s
    · rw [if_pos hlands] at hrest
      rw [List.filter_cons_of_pos (by simpa using hlands)]
      exact hrest
    · rw [if_neg hlands] at hrest
      rw [List.filter_cons_of_neg (by simpa using hlands)]
      exact hrest

/-- **Attempts.** Each trigger is attempted once and in order, and leaves one record. The scene's
list of pressed triggers grows by the actions of those that have no hook and whose node is there.
Nothing else changes but which nodes are cooked. -/
theorem fireAll_attempts (config : Config) (setting : Setting) (chains : List Chain)
    (triggers : List Trigger) (s : Scene) (files : FileTree) (out : Output) :
    let fired := fireAll host (Hooks.usual host config) setting chains triggers ⟨s, files, out⟩
    let t := fired.2.host
    List.Forall₂ (Record.Of config chains s) triggers fired.1 ∧
      t.fired = s.fired ++
        (triggers.filter fun trigger => trigger.Lands config s).map (·.action) ∧
      t.nodes.keys = s.nodes.keys ∧
      (∀ handle n, s.nodes.get? handle = some n →
        ∃ cooked, t.nodes.get? handle = some { n with cooked }) ∧
      t = { s with nodes := t.nodes, fired := t.fired } := by
  intro fired t
  have hstart : s.Pressed [] (⟨s, files, out⟩ : Stage Scene).host := .refl s
  obtain ⟨hrecords, hpressed⟩ := fireAll_pressed config setting chains triggers hstart
  exact ⟨hrecords, hpressed.fired, hpressed.keys, fun handle n => hpressed.get?, hpressed.rest⟩

/-- A trigger of a report without its chain, one of a node that is gone, and one that lands. -/
theorem fireAll_attempts_three :
    let stray : Trigger := ⟨7, 2, "report_json", "write", ⟨⟨3⟩, "write"⟩⟩
    let dead : Trigger := ⟨0, 0, "file", "reload", ⟨⟨9⟩, "reload"⟩⟩
    let live : Trigger := ⟨0, 0, "file", "reload", ⟨⟨1⟩, "reload"⟩⟩
    let fired := fireAll host (Hooks.usual host {}) .usual [.faces] [stray, dead, live]
      ⟨.faces "a.fbx" false, .empty ["work"], {}⟩
    (∃ first second third, fired.1 = [first, second, third] ∧
      first.outcome = .hostFailed (.failed "trigger 'write' refers to unknown chain 7") ∧
      second.outcome = .hostFailed (.unknownHandle 9) ∧ third.outcome = .fired) ∧
    fired.2.host.fired = [live.action] ∧
    ∃ cooked, fired.2.host.nodes.get? ⟨1⟩ =
      some ⟨"file1", "file", [("file", .text "a.fbx")], none, cooked⟩ := by
  intro stray dead live fired
  obtain ⟨hrecords, hfired, -, hnodes, -⟩ := fireAll_attempts {} .usual [.faces]
    [stray, dead, live] (.faces "a.fbx" false) (.empty ["work"]) {}
  obtain ⟨first, _, hstray, hrest, hfirst⟩ := List.forall₂_cons_left_iff.1 hrecords
  obtain ⟨second, _, hdead, hlast, rfl⟩ := List.forall₂_cons_left_iff.1 hrest
  obtain ⟨third, _, hlive, hnone, rfl⟩ := List.forall₂_cons_left_iff.1 hlast
  cases List.forall₂_nil_left_iff.1 hnone
  refine ⟨⟨first, second, third, hfirst, ?_, ?_, ?_⟩, hfired, hnodes ⟨1⟩ _ rfl⟩
  · have htext : "trigger '" ++ stray.name ++ "' refers to unknown chain " ++ toString stray.chain =
        "trigger 'write' refers to unknown chain 7" := by decide +kernel
    rw [← htext]
    exact hstray.stray (by decide) (by decide)
  · exact hdead.dead (by decide) (by decide)
  · exact hlive.fired.2 (by decide)

end Firing

end AssetCheck
