import AssetCheck.Trigger.Hook

/-!
Firing triggers. Each trigger is attempted once, in order; one that fails does not keep the next from
being attempted. A trigger with a hook needs its chain, any other is pressed on the host.
-/

namespace AssetCheck.Firing

variable {σ : Type} (h : Host σ) (hooks : Hooks σ) (setting : Setting) (chains : List Chain)

def press (trigger : Trigger) (stage : Stage σ) : Outcome × Stage σ :=
  match Stage.onHost (h.fireTrigger trigger.action) stage with
  | .ok () stage => (.fired, stage)
  | .error e stage => (.hostFailed e, stage)

def runHook (hook : Hook σ) (trigger : Trigger) (stage : Stage σ) : Outcome × Stage σ :=
  match chains.find? (·.id = trigger.chain) with
  | none =>
    (.hostFailed (.failed
      ("trigger '" ++ trigger.name ++ "' refers to unknown chain " ++ toString trigger.chain)), stage)
  | some chain =>
    match hook setting chain trigger stage with
    | .ok result stage => (.hooked result, stage)
    | .error e stage => (.hookFailed e, stage)

def fire (trigger : Trigger) (stage : Stage σ) : Record × Stage σ :=
  let (outcome, stage) :=
    match hooks.get? (trigger.nodeType, trigger.name) with
    | none => press h trigger stage
    | some hook => runHook setting chains hook trigger stage
  ({ chain := trigger.chain, nodeType := trigger.nodeType, name := trigger.name, outcome }, stage)

def fireAll : List Trigger → Stage σ → List Record × Stage σ
  | [], stage => ([], stage)
  | trigger :: rest, stage =>
    let (record, stage) := fire h hooks setting chains trigger stage
    let (records, stage) := fireAll rest stage
    (record :: records, stage)

theorem length_fireAll (triggers : List Trigger) (stage : Stage σ) :
    (fireAll h hooks setting chains triggers stage).1.length = triggers.length := by
  induction triggers generalizing stage with
  | nil => rfl
  | cons trigger rest ih => simp [fireAll, ih]

end AssetCheck.Firing
