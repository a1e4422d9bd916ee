import AssetCheck.Proofs.Collect.Within
import AssetCheck.Proofs.Run.Abreast

/-!
# Attempts on two stages

A stage is within another if both have the same files and output, and the scene of the other holds
the nodes of the first, perhaps among others (`Stage.Within`). A trigger of a chain on both comes to
the same on both and leaves them so (`attempt_within`), although handles and names that are given
out next, and what has been cooked besides, may differ. So do all triggers in a row
(`fireAll_within`).
-/

namespace AssetCheck

open Scene (host)

/-- Both stages have the same files and output, and some chains stand on both scenes alike. -/
structure Stage.Within (chains : List Chain) (stage other : Stage Scene) : Prop where
  scene : stage.host.Within other.host
  sound : stage.host.Sound
  other_sound : other.host.Sound
  carries : ∀ c ∈ chains, stage.host.Carries c
  files : other.files = stage.files
  out : other.out = stage.out

variable {chains : List Chain} {stage other : Stage Scene}

/-- What happens to the scenes may be anything that keeps their graphs and one within the other. -/
theorem Stage.Within.moved (h : Stage.Within chains stage other) {s t : Scene}
    (hs : stage.host.SameGraph s) (ht : other.host.SameGraph t) (hst : s.Within t) :
    Stage.Within chains { stage with host := s } { other with host := t } where
  scene := hst
  sound := h.sound.sameGraph hs
  other_sound := h.other_sound.sameGraph ht
  carries := fun c hc => (h.carries c hc).of_links fun handle _ => hs.link handle
  files := h.files
  out := h.out

theorem Stage.Within.abreast (chains : List Chain) : Stage.Abreast (Stage.Within chains) where
  files := fun h => h.files
  out := fun h => h.out
  withFiles := fun h _ => { h with files := rfl }
  withOut := fun h _ => { h with out := rfl }

/-! ## The hook of a report -/

namespace Hook

variable {setting : Setting} {trigger : Trigger}

section Chain

variable {c : Chain} (hmem : c ∈ chains) {terminal : ChainNode}
  (hterminal : c.node? trigger.position = some terminal)

include hmem hterminal

theorem collect_within :
    Alike (Stage.Within chains)
      (Stage.onHost (Collect.fromChain host setting c trigger.position))
      (Stage.onHost (Collect.fromChain host setting c trigger.position)) := by
  intro stage other h
  have hcarries := h.carries c hmem
  have hlive := hcarries.mem_keys (Chain.handle_mem hterminal)
  have hcollect := Collect.fromChain_eq hcarries h.sound setting hterminal
  have hcollect' :=
    Collect.fromChain_eq (h.scene.carries hcarries) h.other_sound setting hterminal
  rw [h.scene.reportAt_eq hcarries setting trigger.position hlive] at hcollect'
  have hafter := h.moved
    (Scene.sameGraph_marked stage.host (c.handles.take (trigger.position + 1)))
    (Scene.sameGraph_marked other.host (c.handles.take (trigger.position + 1)))
    (h.scene.marked _)
  unfold Stage.onHost
  rw [hcollect, hcollect']
  cases stage.host.reportAt setting c trigger.position terminal.handle with
  | error e => exact .error hafter
  | ok report => exact .ok hafter

variable (hnode : trigger.action.node = terminal.handle)

include hnode

theorem reportPath_within :
    Alike (Stage.Within chains) (reportPath host setting trigger)
      (reportPath host setting trigger) := by
  intro stage other h
  have hlive : trigger.action.node ∈ stage.host.nodes.keys :=
    hnode ▸ (h.carries c hmem).mem_keys (Chain.handle_mem hterminal)
  obtain ⟨n, hn⟩ := Table.mem_keys_iff.1 hlive
  have hn' := (h.scene.get?_eq _ hlive).trans hn
  rw [reportPath_known hn, reportPath_known hn']
  cases pathOf setting trigger.action.node n with
  | error e => exact .error h
  | ok path => exact .ok h

variable (setting) in
theorem writeReport_within :
    Alike (Stage.Within chains) (writeReport host setting c trigger)
      (writeReport host setting c trigger) :=
  writeReport_alike (Stage.Within.abreast chains) (reportPath_within hmem hterminal hnode)
    (collect_within hmem hterminal)

end Chain

end Hook

/-! ## Triggers -/

/-- A trigger of one of some chains, which belongs to a node of it. -/
structure Trigger.Of (chains : List Chain) (trigger : Trigger) (c : Chain) : Prop where
  mem : c ∈ chains
  id_eq : trigger.chain = c.id
  node : ∃ terminal, c.node? trigger.position = some terminal ∧
    trigger.action.node = terminal.handle

namespace Firing

variable {setting : Setting} {trigger : Trigger}

theorem press_within {c : Chain} (hof : trigger.Of chains c)
    (h : Stage.Within chains stage other) :
    SameResult (Stage.Within chains) (Stage.onHost (host.fireTrigger trigger.action) stage)
      (Stage.onHost (host.fireTrigger trigger.action) other) := by
  obtain ⟨terminal, hterminal, hnode⟩ := hof.node
  have hlive : trigger.action.node ∈ stage.host.nodes.keys :=
    hnode ▸ (h.carries c hof.mem).mem_keys (Chain.handle_mem hterminal)
  have hpress := Hook.onHost_ok (Scene.fireTrigger_of_mem hlive)
  have hpress' := Hook.onHost_ok (Scene.fireTrigger_of_mem (h.scene.mem_keys hlive))
  rw [hpress, hpress']
  refine .ok (h.moved ⟨rfl, rfl, rfl, rfl, fun _ => rfl⟩ ⟨rfl, rfl, rfl, rfl, fun _ => rfl⟩ ?_)
  exact ⟨h.scene.types, h.scene.get?_eq⟩

section Others

variable {others : List Chain} (hids : chains.map (·.id) = List.range chains.length)
  (hothers : others.map (·.id) = List.range others.length) (hsubset : chains ⊆ others)

include hids hothers hsubset

/-- **Two attempts.** A trigger of a chain comes to the same, whatever other chains there are. -/
theorem attempt_within {c : Chain} (hof : trigger.Of chains c)
    (h : Stage.Within chains stage other) :
    (attempt host setting chains trigger stage).1 =
        (attempt host setting others trigger other).1 ∧
      Stage.Within chains (attempt host setting chains trigger stage).2
        (attempt host setting others trigger other).2 := by
  have hfind := find?_id hids hof.mem hof.id_eq
  have hfind' := find?_id hothers (hsubset hof.mem) hof.id_eq
  refine attempt_alike (hfind'.trans hfind.symm) (fun found hfound => ?_) (press_within hof h) h
  cases hfind.symm.trans hfound
  obtain ⟨terminal, hterminal, hnode⟩ := hof.node
  exact Hook.writeReport_within setting hof.mem hterminal hnode stage other h

variable (setting) in
/-- **Two runs of triggers.** Triggers of chains make the same records, whatever other chains there
are. -/
theorem fireAll_within {triggers : List Trigger}
    (hof : ∀ trigger ∈ triggers, ∃ c, trigger.Of chains c)
    (h : Stage.Within chains stage other) :
    let hooks := Hooks.usual host setting.config
    (fireAll host hooks setting chains triggers stage).1 =
        (fireAll host hooks setting others triggers other).1 ∧
      Stage.Within chains (fireAll host hooks setting chains triggers stage).2
        (fireAll host hooks setting others triggers other).2 := by
  refine fireAll_alike (fun trigger hmem _ _ hstage => ?_) h
  obtain ⟨c, htrigger⟩ := hof trigger hmem
  exact attempt_within hids hothers hsubset htrigger hstage

end Others

end Firing

end AssetCheck
