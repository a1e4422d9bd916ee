import AssetCheck.Proofs.Collect.Verdicts
import AssetCheck.Proofs.Run.Credit

/-!
# One trigger after the other

Each trigger of a run is attempted on the stage that the triggers before it have left
(`getElem?_fireAll`), whatever came of them, and what each attempt keeps, all of them keep
(`stageAt_keeps`). The trigger of a report runs the usual hook on its chain (`attempt_eq`): without
a report it changes neither files nor output (`writeReport_error`), with one it writes it
(`writeReport_ok`).
-/

namespace AssetCheck

/-- What came of a trigger whose hook came to a result. -/
def Outcome.ofHook {σ : Type} : EStateM.Result ReportError σ HookResult → Outcome
  | .ok result _ => .hooked result
  | .error e _ => .hookFailed e

theorem Hooks.get?_usual {σ : Type} (h : Host σ) {config : Config} {nodeType name : String}
    (htype : nodeType = config.reportType) (hname : name = config.reportTrigger) :
    (Hooks.usual h config).get? (nodeType, name) = some (Hook.writeReport h) := by
  rw [htype, hname]
  exact (Table.get?_cons _ _ _).trans (if_pos rfl)

namespace Firing

section Stages

variable {σ : Type} (h : Host σ) (hooks : Hooks σ) (setting : Setting) (chains : List Chain)

/-- The stage on which the trigger with a number is attempted. -/
def stageAt (triggers : List Trigger) (stage : Stage σ) (i : Nat) : Stage σ :=
  (fireAll h hooks setting chains (triggers.take i) stage).2

/-- A record is that of its trigger, attempted on the stage that the ones before have left. -/
theorem getElem?_fireAll (triggers : List Trigger) (stage : Stage σ) (i : Nat) :
    (fireAll h hooks setting chains triggers stage).1[i]? = triggers[i]?.map fun trigger =>
      (fire h hooks setting chains trigger
        (stageAt h hooks setting chains triggers stage i)).1 := by
  induction triggers generalizing stage i with
  | nil => rfl
  | cons trigger rest ih =>
    cases i with
    | zero => rfl
    | succ i => exact ih _ i

theorem stageAt_succ {triggers : List Trigger} {i : Nat} {trigger : Trigger}
    (ht : triggers[i]? = some trigger) (stage : Stage σ) :
    stageAt h hooks setting chains triggers stage (i + 1) =
      (fire h hooks setting chains trigger
        (stageAt h hooks setting chains triggers stage i)).2 := by
  induction triggers generalizing stage i with
  | nil => cases ht
  | cons first rest ih =>
    cases i with
    | zero =>
      cases ht
      rfl
    | succ i => exact ih ht _

variable {h hooks setting chains}

/-- **Stages.** What each attempt keeps, all attempts keep. -/
theorem stageAt_keeps {P : Stage σ → Prop} {triggers : List Trigger}
    (hfire : ∀ trigger ∈ triggers, ∀ stage, P stage →
      P (fire h hooks setting chains trigger stage).2) {stage : Stage σ} (hstage : P stage)
    (i : Nat) : P (stageAt h hooks setting chains triggers stage i) := by
  induction triggers generalizing stage i with
  | nil =>
    cases i <;> exact hstage
  | cons trigger rest ih =>
    obtain ⟨hfirst, hrest⟩ := List.forall_mem_cons.1 hfire
    cases i with
    | zero => exact hstage
    | succ i => exact ih hrest (hfirst stage hstage) i

end Stages

def attempt {σ : Type} (h : Host σ) (setting : Setting) (chains : List Chain) (trigger : Trigger)
    (stage : Stage σ) : Record × Stage σ :=
  fire h (Hooks.usual h setting.config) setting chains trigger stage

theorem find?_id {chains : List Chain} (hids : chains.map (·.id) = List.range chains.length)
    {trigger : Trigger} {chain : Chain} (hmem : chain ∈ chains) (hid : trigger.chain = chain.id) :
    chains.find? (·.id = trigger.chain) = some chain := by
  have hchain := getElem?_id hids hmem
  have hlt := (List.getElem?_eq_some_iff.1 hchain).1
  rw [hid, List.find?_eq_bind_findIdx?_getElem?, findIdx?_eq hids, if_pos hlt]
  exact hchain

section Usual

variable {σ : Type} (h : Host σ) (setting : Setting) (chains : List Chain) {config : Config}
  {trigger : Trigger}

/-- The trigger of a report runs the usual hook, if it has a chain. -/
theorem fire_report (htype : trigger.nodeType = config.reportType)
    (hname : trigger.name = config.reportTrigger) (stage : Stage σ) :
    fire h (Hooks.usual h config) setting chains trigger stage =
      (⟨trigger.chain, trigger.nodeType, trigger.name,
          (runHook setting chains (Hook.writeReport h) trigger stage).1⟩,
        (runHook setting chains (Hook.writeReport h) trigger stage).2) := by
  unfold fire
  rw [Hooks.get?_usual h htype hname]

theorem fire_press (hother : ¬ (trigger.nodeType = config.reportType ∧
      trigger.name = config.reportTrigger)) (stage : Stage σ) :
    fire h (Hooks.usual h config) setting chains trigger stage =
      (⟨trigger.chain, trigger.nodeType, trigger.name, (press h trigger stage).1⟩,
        (press h trigger stage).2) := by
  have hhook : (Hooks.usual h config).get? (trigger.nodeType, trigger.name) = none := by
    refine (Table.get?_cons _ _ _).trans (if_neg fun heq => hother ?_)
    obtain ⟨htype, hname⟩ := Prod.mk.inj heq
    exact ⟨htype.symm, hname.symm⟩
  unfold fire
  rw [hhook]

theorem attempt_press (hother : ¬ (trigger.nodeType = setting.config.reportType ∧
      trigger.name = setting.config.reportTrigger)) (stage : Stage σ) :
    attempt h setting chains trigger stage =
      (⟨trigger.chain, trigger.nodeType, trigger.name, (press h trigger stage).1⟩,
        (press h trigger stage).2) :=
  fire_press h setting chains hother stage

variable {setting chains} in
theorem runHook_keeps {P : Stage σ → Prop} {hook : Hook σ}
    (hhook : ∀ c, Keeps P (hook setting c trigger)) {stage : Stage σ} (hstage : P stage) :
    P (runHook setting chains hook trigger stage).2 := by
  unfold runHook
  cases chains.find? (·.id = trigger.chain) with
  | none => exact hstage
  | some c =>
    have hafter := hhook c stage hstage
    unfold stateAfter at hafter
    dsimp only
    cases hresult : hook setting c trigger stage <;> rw [hresult] at hafter <;> exact hafter

end Usual

/-- The trigger of a report runs the usual hook on the chain with the trigger's number. -/
theorem attempt_eq {σ : Type} (h : Host σ) (setting : Setting) {chains : List Chain}
    (hids : chains.map (·.id) = List.range chains.length) {trigger : Trigger} {chain : Chain}
    (hmem : chain ∈ chains) (hid : trigger.chain = chain.id)
    (htype : trigger.nodeType = setting.config.reportType)
    (hname : trigger.name = setting.config.reportTrigger) (stage : Stage σ) :
    attempt h setting chains trigger stage =
      (⟨trigger.chain, trigger.nodeType, trigger.name,
          .ofHook (Hook.writeReport h setting chain trigger stage)⟩,
        stateAfter (Hook.writeReport h setting chain trigger) stage) := by
  unfold attempt stateAfter
  rw [fire_report h setting chains htype hname]
  unfold runHook
  rw [find?_id hids hmem hid]
  dsimp only
  cases Hook.writeReport h setting chain trigger stage <;> rfl

end Firing

/-! ## The hook of a report -/

namespace Hook

open Scene (host)

variable {setting : Setting} {chain : Chain} {trigger : Trigger} {stage : Stage Scene}

theorem onHost_ok {ε σ α : Type} {step : EStateM ε σ α} {stage : Stage σ} {a : α} {t : σ}
    (h : step stage.host = .ok a t) :
    Stage.onHost step stage = .ok a { stage with host := t } := by
  unfold Stage.onHost; rw [h]

theorem onHost_error {ε σ α : Type} {step : EStateM ε σ α} {stage : Stage σ} {e : ε} {t : σ}
    (h : step stage.host = .error e t) :
    Stage.onHost step stage = .error e { stage with host := t } := by
  unfold Stage.onHost; rw [h]

theorem ask_ok {σ α : Type} {request : EStateM HostError σ α} {stage : Stage σ} {a : α} {t : σ}
    (hask : request stage.host = .ok a t) :
    ask request stage = .ok a { stage with host := t } :=
  onHost_ok (Collect.ask_ok hask)

theorem onFiles_ok {ε σ α : Type} {step : EStateM ε FileTree α} {stage : Stage σ} {a : α}
    {files : FileTree} (h : step stage.files = .ok a files) :
    Stage.onFiles step stage = .ok a { stage with files } := by
  unfold Stage.onFiles; rw [h]

theorem onHost_keeps_host {ε σ α : Type} {P : σ → Prop} {step : EStateM ε σ α}
    (h : Keeps P step) : Keeps (fun stage => P stage.host) (Stage.onHost step) := by
  intro stage hstage
  have hafter := h stage.host hstage
  unfold stateAfter at hafter
  unfold stateAfter Stage.onHost
  cases hresult : step stage.host <;> rw [hresult] at hafter <;> exact hafter

theorem onFiles_keeps_host {ε σ α : Type} (step : EStateM ε FileTree α) (P : σ → Prop) :
    Keeps (fun stage => P stage.host) (Stage.onFiles step) := by
  intro stage hstage
  unfold stateAfter Stage.onFiles
  cases step stage.files <;> exact hstage

theorem onOutput_keeps_host {ε σ α : Type} (step : EStateM ε Output α) (P : σ → Prop) :
    Keeps (fun stage => P stage.host) (Stage.onOutput step) := by
  intro stage hstage
  unfold stateAfter Stage.onOutput
  cases step stage.out <;> exact hstage

theorem printReport_ok {σ : Type} {report : Report} {text : String} {out : Output}
    {stage : Stage σ} (htree : report.tree = .ok text)
    (hwrite : Output.write text stage.out = .ok () out) :
    printReport report stage = .ok () { stage with out } := by
  unfold printReport Stage.onOutput EStateM.adaptExcept
  rw [htree]
  dsimp only
  rw [hwrite]

theorem printReport_keeps_host {σ : Type} (report : Report) (P : σ → Prop) :
    Keeps (fun stage => P stage.host) (printReport report) := by
  unfold printReport
  cases report.tree with
  | error e => exact .throw e
  | ok text => exact onOutput_keeps_host _ P

/-- The path that a node holds for its report, if it has the parameter for it. -/
def pathOf (setting : Setting) (node : NodeHandle) (n : SceneNode) : Except ReportError String :=
  match n.parameters.get? setting.config.reportParameter with
  | some value => .ok value.asPath
  | none => .error (.host (.failed
      ("report node " ++ node.label ++ " has no '" ++ setting.config.reportParameter ++
        "' parameter")))

/-- A node of the scene tells the path of its report, and nothing is changed. -/
theorem reportPath_known {n : SceneNode}
    (hn : stage.host.nodes.get? trigger.action.node = some n) :
    reportPath host setting trigger stage =
      known (pathOf setting trigger.action.node n) stage := by
  have hfind := Scene.findParameter_eq hn setting.config.reportParameter
  unfold reportPath pathOf
  cases hvalue : n.parameters.get? setting.config.reportParameter with
  | none =>
    rw [if_neg (Table.get?_eq_none_iff.1 hvalue)] at hfind
    rw [bind_ok (ask_ok hfind)]
    rfl
  | some value =>
    rw [if_pos (Table.mem_keys_iff.2 ⟨value, hvalue⟩)] at hfind
    rw [bind_ok (ask_ok hfind)]
    exact bind_ok (ask_ok (Scene.parameterValue_eq hn hvalue))

theorem reportPath_eq {value : ParamValue}
    (hvalue : stage.host.valueOf? trigger.action.node setting.config.reportParameter = some value) :
    reportPath host setting trigger stage = .ok value.asPath stage := by
  obtain ⟨n, hn, hheld⟩ := Option.bind_eq_some_iff.1 hvalue
  rw [reportPath_known hn]
  unfold pathOf
  rw [hheld]
  rfl

variable {path : String} (hpath : reportPath host setting trigger stage = .ok path stage)

include hpath

theorem writeReport_error {e : ReportError} {t : Scene}
    (hcollect : Collect.fromChain host setting chain trigger.position stage.host = .error e t) :
    writeReport host setting chain trigger stage = .error e { stage with host := t } := by
  unfold writeReport
  rw [bind_ok hpath]
  exact bind_error (onHost_error hcollect)

theorem writeReport_ok {report : Report} {t : Scene} {files : FileTree}
    (hcollect : Collect.fromChain host setting chain trigger.position stage.host = .ok report t)
    (hsave : report.save path stage.files = .ok () files)
    (hprint : setting.config.printsReports = true →
      ∃ text out, report.tree = .ok text ∧ Output.write text stage.out = .ok () out) :
    ∃ out, writeReport host setting chain trigger stage =
      .ok (.reportWritten path report.passed) ⟨t, files, out⟩ := by
  have hfiles : Stage.onFiles (report.save path) { stage with host := t } =
      .ok () ⟨t, files, stage.out⟩ := onFiles_ok hsave
  unfold writeReport
  rw [bind_ok hpath, bind_ok (onHost_ok hcollect), bind_ok hfiles]
  by_cases hprints : setting.config.printsReports = true
  · obtain ⟨text, out, htree, hwrite⟩ := hprint hprints
    refine ⟨out, ?_⟩
    rw [if_pos hprints]
    exact bind_ok (printReport_ok htree hwrite)
  · refine ⟨stage.out, ?_⟩
    rw [if_neg hprints]
    rfl

variable (chain) in
/-- Writing a report does no more to the host than collecting it. -/
theorem writeReport_host :
    (stateAfter (writeReport host setting chain trigger) stage).host =
      stateAfter (Collect.fromChain host setting chain trigger.position) stage.host := by
  cases hcollect : Collect.fromChain host setting chain trigger.position stage.host with
  | error e t =>
    rw [stateAfter_error hcollect, stateAfter_error (writeReport_error hpath hcollect)]
  | ok report t =>
    have hrest : Keeps (fun stage : Stage Scene => stage.host = t) (do
        if setting.config.printsReports then printReport report
        return HookResult.reportWritten path report.passed) := by
      split
      · exact (printReport_keeps_host report (· = t)).bind fun _ => .pure _
      · exact .pure _
    unfold writeReport
    rw [stateAfter_ok hcollect, stateAfter_bind_ok hpath, stateAfter_bind_ok (onHost_ok hcollect)]
    exact ((onFiles_keeps_host _ (· = t)).bind fun _ => hrest) { stage with host := t } rfl

end Hook

/-! ## The triggers of a run -/

namespace Session

variable {σ : Type} (session : Session σ) (built : List BuiltChain) (stage : Stage σ)

def records : List Record :=
  (Firing.fireAll session.host (Hooks.usual session.host session.setting.config) session.setting
    (built.map (·.chain)) (built.flatMap (·.triggers)) stage).1

/-- The stage on which a trigger of built chains is attempted. -/
def stageAt (i : Nat) : Stage σ :=
  Firing.stageAt session.host (Hooks.usual session.host session.setting.config) session.setting
    (built.map (·.chain)) (built.flatMap (·.triggers)) stage i

/-- What is left to do when all triggers have been attempted: the scene is arranged and saved. -/
def finish (records : List Record) : EStateM Failure (Stage σ) RunSummary := fun stage =>
  (session.saveScene >>= fun _ => pure (.of (built.map (·.chain)) records)) (session.arrange stage)

variable {session built stage}

/-- Without a scene to save, a run whose triggers have been attempted goes well. -/
theorem finish_eq (h : session.scene = none) (records : List Record) :
    session.finish built records stage =
      .ok (.of (built.map (·.chain)) records) (session.arrange stage) := by
  have hsave : session.saveScene (session.arrange stage) = .ok () (session.arrange stage) := by
    unfold saveScene
    rw [h]
  unfold finish
  rw [bind_ok hsave]
  rfl

/-- Arranging the scene leaves files and output alone. -/
theorem arrange_eq (session : Session σ) (stage : Stage σ) :
    (session.arrange stage).files = stage.files ∧ (session.arrange stage).out = stage.out := by
  unfold arrange Stage.onHost
  cases session.host.layout stage.host <;> exact ⟨rfl, rfl⟩

theorem getElem?_records {i : Nat} {trigger : Trigger}
    (ht : (built.flatMap (·.triggers))[i]? = some trigger) :
    (session.records built stage)[i]? =
      some (Firing.attempt session.host session.setting (built.map (·.chain)) trigger
        (session.stageAt built stage i)).1 := by
  unfold records
  rw [Firing.getElem?_fireAll, ht]
  rfl

theorem stageAt_succ {i : Nat} {trigger : Trigger}
    (ht : (built.flatMap (·.triggers))[i]? = some trigger) :
    session.stageAt built stage (i + 1) =
      (Firing.attempt session.host session.setting (built.map (·.chain)) trigger
        (session.stageAt built stage i)).2 :=
  Firing.stageAt_succ _ _ _ _ ht stage

/-- A run whose chains can be built attempts all triggers. -/
theorem run_eq {spec : PipelineSpec} {assets : List String} {bench : Workbench σ}
    (hbuild : session.buildAll spec assets ⟨stage.host, 0⟩ = .ok built bench) :
    session.run spec assets stage =
      session.finish built (session.records built { stage with host := bench.host })
        (session.stageAt built { stage with host := bench.host }
          (built.flatMap (·.triggers)).length) := by
  unfold run finish records stageAt Firing.stageAt
  rw [hbuild, List.take_length]
  dsimp only
  generalize Firing.fireAll _ _ _ _ _ _ = fired
  cases hsave : session.saveScene (session.arrange fired.2) with
  | ok saved stage =>
    rw [bind_ok hsave]
    rfl
  | error e stage =>
    rw [bind_error hsave]

theorem run_ok (hscene : session.scene = none) {spec : PipelineSpec} {assets : List String} {s : σ}
    {bench : Workbench σ} (hbuild : session.buildAll spec assets ⟨s, 0⟩ = .ok built bench)
    (files : FileTree) (out : Output) :
    session.run spec assets ⟨s, files, out⟩ =
      .ok (.of (built.map (·.chain)) (session.records built ⟨bench.host, files, out⟩))
        (session.arrange (session.stageAt built ⟨bench.host, files, out⟩
          (assets.length * spec.triggers.length))) := by
  have hrun : session.run spec assets ⟨s, files, out⟩ = _ := run_eq hbuild
  rw [hrun, finish_eq hscene, length_triggers (builtFor_of_buildAll hbuild)]

end Session

end AssetCheck
