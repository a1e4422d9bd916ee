import AssetCheck.Proofs.Report.Persistence
import AssetCheck.Proofs.Report.Tree
import AssetCheck.Proofs.Run.Loader

/-!
# Reports that are counted as missing

The trigger of a report writes the report to a file, and then prints it. When it fails before the
file is written there is no report (`Hook.Produces`). When the output does not take the text the
report is there, as it should be, and only the text is withheld (`Hook.Withheld`). A run counts
both among the missing reports, and nothing else (`report_failures`).
-/

namespace AssetCheck

theorem Collect.version_of_fromChain {σ : Type} {h : Host σ} {setting : Setting} {chain : Chain}
    {position : Nat} {s t : σ} {report : Report}
    (hcollect : fromChain h setting chain position s = .ok report t) :
    report.version = Report.currentVersion := by
  unfold fromChain at hcollect
  cases hterminal : chain.node? position with
  | none =>
    rw [hterminal] at hcollect
    cases hcollect
  | some terminal =>
    rw [hterminal] at hcollect
    obtain ⟨_, _, -, hcooked⟩ := exists_ok_of_step_bind hcollect
    obtain ⟨_, _, -, hfound⟩ := exists_ok_of_step_bind hcooked
    obtain ⟨_, _, -, hpure⟩ := exists_ok_of_step_bind hfound
    cases hpure
    rfl

theorem Report.exists_tree {report : Report} (h : report.version = currentVersion) :
    ∃ text, report.tree = .ok text :=
  ⟨_, Report.tree_eq h⟩

namespace Hook

section Produces

variable {σ : Type} (h : Host σ) (setting : Setting) (chain : Chain) (trigger : Trigger)
  (stage : Stage σ)

/-- Attempted on a stage, a trigger writes a report to a path, which leaves these files. -/
def Writes (report : Report) (path : String) (files : FileTree) : Prop :=
  ∃ found collected, reportPath h setting trigger stage = .ok path found ∧
    Collect.fromChain h setting chain trigger.position found.host = .ok report collected ∧
    report.save path stage.files = .ok () files

/-- A report is to be printed, and the output of the stage does not take its text. -/
def Refused (report : Report) : Prop :=
  setting.config.printsReports = true ∧
    ∃ text fault, report.tree = .ok text ∧ stage.out.refuses stage.out.offers text = some fault

/-- A report file is written. -/
def Produces : Prop := ∃ report path files, Writes h setting chain trigger stage report path files

/-- A report file is written whose text is refused. -/
def Withheld : Prop :=
  ∃ report path files, Writes h setting chain trigger stage report path files ∧
    Refused setting stage report

end Produces

section WriteReport

variable {σ : Type} {h : Host σ} {setting : Setting} {chain : Chain} {trigger : Trigger}
  {stage : Stage σ}

theorem onHost_keeps {ε α : Type} (step : EStateM ε σ α) (files : FileTree) (out : Output) :
    Keeps (fun stage : Stage σ => stage.files = files ∧ stage.out = out) (Stage.onHost step) := by
  intro stage hstage
  unfold stateAfter Stage.onHost
  cases step stage.host <;> exact hstage

theorem exists_of_onHost_ok {ε α : Type} {step : EStateM ε σ α} {stage stage' : Stage σ} {a : α}
    (hok : Stage.onHost step stage = .ok a stage') :
    ∃ t, step stage.host = .ok a t ∧ stage' = { stage with host := t } := by
  unfold Stage.onHost at hok
  split at hok <;> cases hok
  exact ⟨_, ‹_›, rfl⟩

theorem exists_of_onFiles_ok {ε α : Type} {step : EStateM ε FileTree α} {stage stage' : Stage σ}
    {a : α} (hok : Stage.onFiles step stage = .ok a stage') :
    ∃ files, step stage.files = .ok a files ∧ stage' = { stage with files } := by
  unfold Stage.onFiles at hok
  split at hok <;> cases hok
  exact ⟨_, ‹_›, rfl⟩

section Keeps

variable {P : Stage σ → Prop}
  (hhost : ∀ {α : Type} (step : EStateM ReportError σ α), Keeps P (Stage.onHost step))

include hhost

variable (h setting trigger) in
theorem reportPath_keeps : Keeps P (reportPath h setting trigger) := by
  refine (hhost _).bind fun parameter? => ?_
  cases parameter? with
  | none => exact .throw _
  | some parameter => exact (hhost _).bind fun _ => .pure _

variable (h setting chain trigger) in
/-- What steps on the host, saving a report and printing it keep, writing it keeps. -/
theorem writeReport_keeps
    (hsave : ∀ (report : Report) path, Keeps P (Stage.onFiles (report.save path)))
    (hprint : ∀ report, Keeps P (printReport report)) :
    Keeps P (writeReport h setting chain trigger) := by
  refine (reportPath_keeps h setting trigger hhost).bind fun path => ?_
  refine (hhost _).bind fun report => (hsave report path).bind fun _ => ?_
  split
  · exact (hprint report).bind fun _ => .pure _
  · exact .pure _

end Keeps

variable {report : Report} {path : String} {files : FileTree}

theorem Writes.load (hw : Writes h setting chain trigger stage report path files) :
    Report.load files path = .ok report := by
  obtain ⟨_, _, -, hcollect, hsave⟩ := hw
  exact Report.load_of_save hsave (Collect.version_of_fromChain hcollect)

theorem writeReport_of_writes (hw : Writes h setting chain trigger stage report path files) :
    ∃ host, writeReport h setting chain trigger stage =
      (do
        if setting.config.printsReports then printReport report
        return HookResult.reportWritten path report.passed) ⟨host, files, stage.out⟩ := by
  obtain ⟨found, host, hpath, hcollect, hsave⟩ := hw
  have hfound := reportPath_keeps h setting trigger (onHost_keeps · stage.files stage.out) stage
    ⟨rfl, rfl⟩
  rw [stateAfter_ok hpath] at hfound
  have hfiles : Stage.onFiles (report.save path) { found with host } =
      .ok () ⟨host, files, stage.out⟩ := by
    rw [← hfound.1] at hsave
    rw [← hfound.2]
    exact onFiles_ok hsave
  refine ⟨host, ?_⟩
  unfold writeReport
  rw [bind_ok hpath, bind_ok (onHost_ok hcollect), bind_ok hfiles]

theorem Writes.ok (hw : Writes h setting chain trigger stage report path files)
    (hr : ¬ Refused setting stage report) :
    ∃ host out, writeReport h setting chain trigger stage =
      .ok (.reportWritten path report.passed) ⟨host, files, out⟩ := by
  obtain ⟨host, hwrite⟩ := writeReport_of_writes hw
  rw [hwrite]
  by_cases hprints : setting.config.printsReports = true
  · obtain ⟨_, _, -, hcollect, -⟩ := hw
    obtain ⟨text, htree⟩ := Report.exists_tree (Collect.version_of_fromChain hcollect)
    have htaken : stage.out.refuses stage.out.offers text = none := by
      by_contra hsome
      obtain ⟨fault, hfault⟩ := Option.ne_none_iff_exists'.1 hsome
      exact hr ⟨hprints, text, fault, htree, hfault⟩
    have hout : Output.write text stage.out =
        .ok () { stage.out with offers := stage.out.offers ++ [.whole text] } := by
      unfold Output.write
      rw [htaken]
    rw [if_pos hprints]
    exact ⟨host, _, bind_ok (printReport_ok htree hout)⟩
  · rw [if_neg hprints]
    exact ⟨host, stage.out, rfl⟩

theorem Writes.error (hw : Writes h setting chain trigger stage report path files)
    (hr : Refused setting stage report) :
    ∃ host out e, writeReport h setting chain trigger stage =
      .error (.io e) ⟨host, files, out⟩ := by
  obtain ⟨host, hwrite⟩ := writeReport_of_writes hw
  obtain ⟨hprints, text, ⟨e, taken⟩, htree, hrefuses⟩ := hr
  obtain ⟨out, hprint⟩ : ∃ out, printReport report (⟨host, files, stage.out⟩ : Stage σ) =
      .error (.io e) ⟨host, files, out⟩ := by
    unfold printReport Stage.onOutput EStateM.adaptExcept Output.write
    rw [htree]
    dsimp only
    rw [hrefuses]
    exact ⟨_, rfl⟩
  refine ⟨host, out, e, ?_⟩
  rw [hwrite, if_pos hprints]
  exact bind_error hprint

theorem produces_of_ok {result : HookResult} {after : Stage σ}
    (hok : writeReport h setting chain trigger stage = .ok result after) :
    Produces h setting chain trigger stage := by
  obtain ⟨path, found, hpath, hfound⟩ := exists_ok_of_step_bind hok
  obtain ⟨report, collected, hstep, hcollected⟩ := exists_ok_of_step_bind hfound
  obtain ⟨t, hcollect, rfl⟩ := exists_of_onHost_ok hstep
  obtain ⟨_, saved, hstep, -⟩ := exists_ok_of_step_bind hcollected
  obtain ⟨files, hsave, -⟩ := exists_of_onFiles_ok hstep
  have hkept := reportPath_keeps h setting trigger (onHost_keeps · stage.files stage.out) stage
    ⟨rfl, rfl⟩
  rw [stateAfter_ok hpath] at hkept
  refine ⟨report, path, files, found, t, hpath, hcollect, ?_⟩
  rw [← hkept.1]
  exact hsave

/-- The hook of a report fails if there is no report, or if its text is withheld. -/
theorem writeReport_fails_iff :
    (∃ e after, writeReport h setting chain trigger stage = .error e after) ↔
      ¬ Produces h setting chain trigger stage ∨ Withheld h setting chain trigger stage := by
  constructor
  · rintro ⟨e, after, herror⟩
    by_cases hproduces : Produces h setting chain trigger stage
    · obtain ⟨report, path, files, hw⟩ := hproduces
      refine .inr ⟨report, path, files, hw, ?_⟩
      by_contra hr
      obtain ⟨host, out, hok⟩ := hw.ok hr
      rw [hok] at herror
      cases herror
    · exact .inl hproduces
  · rintro (hno | ⟨report, path, files, hw, hr⟩)
    · cases hresult : writeReport h setting chain trigger stage with
      | ok result after => exact absurd (produces_of_ok hresult) hno
      | error e after => exact ⟨e, after, rfl⟩
    · obtain ⟨host, out, e, herror⟩ := hw.error hr
      exact ⟨_, _, herror⟩

theorem Writes.files_eq (hw : Writes h setting chain trigger stage report path files) :
    (stateAfter (writeReport h setting chain trigger) stage).files = files := by
  by_cases hr : Refused setting stage report
  · obtain ⟨host, out, e, herror⟩ := hw.error hr
    rw [stateAfter_error herror]
  · obtain ⟨host, out, hok⟩ := hw.ok hr
    rw [stateAfter_ok hok]

end WriteReport

end Hook

/-! ## The records of a run -/

open AssetSummary (reportFailure?)

/-- A hook that fails is the only reason for a missing report. -/
theorem Firing.reportFailure?_of_other {σ : Type} {h : Host σ} {setting : Setting}
    {chains : List Chain} {trigger : Trigger} {stage : Stage σ}
    (hother : ¬ (trigger.nodeType = setting.config.reportType ∧
      trigger.name = setting.config.reportTrigger)) :
    reportFailure? (attempt h setting chains trigger stage).1 = none := by
  rw [attempt_press h setting chains hother]
  unfold press reportFailure?
  cases Stage.onHost (h.fireTrigger trigger.action) stage <;> rfl

theorem RunSummary.succeeded_of {chains : List Chain}
    (hids : chains.map (·.id) = List.range chains.length) {records : List Record}
    (hlt : ∀ r ∈ records, r.chain < chains.length) :
    (RunSummary.of chains records).succeeded = true ↔
      ∀ r ∈ records, reportFailure? r = none := by
  unfold succeeded
  rw [assets_of hids, List.all_eq_true]
  constructor
  · intro hall r hr
    have hindex : r.chain < (chains.map (·.asset)).length := by
      rw [List.length_map]
      exact hlt r hr
    have hempty := of_decide_eq_true (hall _ (List.mem_mapIdx.2 ⟨r.chain, hindex, rfl⟩))
    exact List.filterMap_eq_nil_iff.1 hempty r (List.mem_filter.2 ⟨hr, decide_eq_true rfl⟩)
  · intro hnone entry hentry
    obtain ⟨i, hi, rfl⟩ := List.mem_mapIdx.1 hentry
    refine decide_eq_true (List.filterMap_eq_nil_iff.2 fun r hr => ?_)
    exact hnone r (List.mem_of_mem_filter hr)

namespace Session

variable {σ : Type} {session : Session σ} {spec : PipelineSpec} {assets : List String}

/-- The trigger with a number is to write the report of a chain. -/
structure ReportOf (session : Session σ) (built : List BuiltChain) (i : Nat) (chain : Chain)
    (trigger : Trigger) : Prop where
  trigger_eq : (built.flatMap (·.triggers))[i]? = some trigger
  nodeType_eq : trigger.nodeType = session.setting.config.reportType
  name_eq : trigger.name = session.setting.config.reportTrigger
  mem : chain ∈ built.map (·.chain)
  id_eq : trigger.chain = chain.id

variable (session) in
/-- Records are of the chains of the run. -/
theorem chain_lt_of_mem_records {built : List BuiltChain}
    (hbuilt : List.Forall₂ (BuiltFor spec) assets.zipIdx built) (start : Stage σ) :
    ∀ r ∈ session.records built start, r.chain < (built.map (·.chain)).length := by
  intro r hr
  have hkeys : (session.records built start).map Record.key =
      blocks spec.triggers 0 assets.length := by
    rw [← keys_eq hbuilt]
    exact Firing.fireAll_keys ..
  rw [length_chains hbuilt]
  exact chain_lt_of_mem_blocks (hkeys ▸ List.mem_map_of_mem hr)

section Records

variable {built : List BuiltChain} {start : Stage σ}
  (hids : (built.map (·.chain)).map (·.id) = List.range (built.map (·.chain)).length)

include hids

/-- The record of a report and the files after it. -/
theorem ReportOf.record {i : Nat} {chain : Chain} {trigger : Trigger}
    (h : session.ReportOf built i chain trigger) :
    ∃ record, (session.records built start)[i]? = some record ∧ record.chain = chain.id ∧
      ((reportFailure? record).isSome = true ↔
        ¬ Hook.Produces session.host session.setting chain trigger
            (session.stageAt built start i) ∨
          Hook.Withheld session.host session.setting chain trigger
            (session.stageAt built start i)) ∧
      ∀ report path files, Hook.Writes session.host session.setting chain trigger
          (session.stageAt built start i) report path files →
        (session.stageAt built start (i + 1)).files = files := by
  have hattempt := Firing.attempt_eq session.host session.setting hids h.mem h.id_eq h.nodeType_eq
    h.name_eq (session.stageAt built start i)
  have hrecord : (session.records built start)[i]? = _ := getElem?_records h.trigger_eq
  have hnext : session.stageAt built start (i + 1) = _ := stageAt_succ h.trigger_eq
  rw [hattempt] at hrecord hnext
  refine ⟨_, hrecord, h.id_eq, ?_, fun report path files hw => ?_⟩
  · rw [← Hook.writeReport_fails_iff]
    unfold reportFailure?
    cases Hook.writeReport session.host session.setting chain trigger
        (session.stageAt built start i) with
    | ok result after => simp [Outcome.ofHook]
    | error e after => simp [Outcome.ofHook]
  · rw [hnext]
    exact hw.files_eq

/-- A record of a missing report is that of a report of some chain. -/
theorem exists_reportOf {i : Nat} {record : Record}
    (hrecord : (session.records built start)[i]? = some record)
    (hlt : record.chain < (built.map (·.chain)).length)
    (hfailure : (reportFailure? record).isSome = true) :
    ∃ chain trigger, session.ReportOf built i chain trigger := by
  unfold records at hrecord
  rw [Firing.getElem?_fireAll, Option.map_eq_some_iff] at hrecord
  obtain ⟨trigger, htrigger, hrecord⟩ := hrecord
  have hchain : trigger.chain = record.chain := by
    rw [← hrecord]
    rfl
  have hkey : trigger.nodeType = session.setting.config.reportType ∧
      trigger.name = session.setting.config.reportTrigger := by
    by_contra hother
    have hnone : reportFailure? record = none := by
      rw [← hrecord]
      exact Firing.reportFailure?_of_other hother
    rw [hnone] at hfailure
    cases hfailure
  refine ⟨(built.map (·.chain))[record.chain], trigger, htrigger, hkey.1, hkey.2,
    List.getElem_mem hlt, ?_⟩
  rw [hchain, id_getElem hids]

end Records

/-- **Missing reports.** On any host, for any output, a trigger that is to write a report counts
as a failure of its asset exactly if it writes none, or if the output does not take the text of the
one that it has written; in this case the file stays, and can be read as ever. So a run has
succeeded exactly if each report was written and none was withheld. -/
theorem report_failures {stage stage' : Stage σ} {summary : RunSummary}
    (h : session.run spec assets stage = .ok summary stage') :
    ∃ built bench, session.buildAll spec assets ⟨stage.host, 0⟩ = .ok built bench ∧
      let before := session.stageAt built { stage with host := bench.host }
      (∀ i chain trigger, session.ReportOf built i chain trigger →
        ∃ record, summary.triggers[i]? = some record ∧ record.chain = chain.id ∧
          ((reportFailure? record).isSome = true ↔
            ¬ Hook.Produces session.host session.setting chain trigger (before i) ∨
              Hook.Withheld session.host session.setting chain trigger (before i)) ∧
          ∀ report path files,
            Hook.Writes session.host session.setting chain trigger (before i) report path files →
              (before (i + 1)).files = files ∧ Report.load files path = .ok report) ∧
      (∀ i asset, summary.assets[i]? = some asset →
        asset.reportFailures =
          (summary.triggers.filter (·.chain = i)).filterMap reportFailure?) ∧
      (summary.succeeded = true ↔ ∀ i chain trigger, session.ReportOf built i chain trigger →
        Hook.Produces session.host session.setting chain trigger (before i) ∧
          ¬ Hook.Withheld session.host session.setting chain trigger (before i)) := by
  obtain ⟨built, bench, hbuild, hsummary⟩ := exists_built_of_run h
  have hbuilt : List.Forall₂ (BuiltFor spec) assets.zipIdx built := builtFor_of_buildAll hbuild
  have hids := ids_eq hbuilt
  have hsummary : summary = .of (built.map (·.chain))
      (session.records built { stage with host := bench.host }) := hsummary
  have hlt := chain_lt_of_mem_records session hbuilt { stage with host := bench.host }
  refine ⟨built, bench, hbuild, fun i chain trigger hreport => ?_, fun i asset hasset => ?_, ?_⟩
  · obtain ⟨record, hrecord, hchain, hfails, hfiles⟩ := hreport.record hids
    rw [hsummary]
    exact ⟨record, hrecord, hchain, hfails,
      fun report path files hw => ⟨hfiles report path files hw, hw.load⟩⟩
  · rw [hsummary, RunSummary.assets_of hids, List.getElem?_mapIdx] at hasset
    obtain ⟨path, -, rfl⟩ := Option.map_eq_some_iff.1 hasset
    rw [hsummary]
    rfl
  · rw [hsummary, RunSummary.succeeded_of hids hlt]
    constructor
    · intro hnone i chain trigger hreport
      obtain ⟨record, hrecord, -, hfails, -⟩ := hreport.record hids
      rw [hnone record (List.mem_of_getElem? hrecord)] at hfails
      have hwell := mt hfails.2 Bool.false_ne_true
      rw [not_or, not_not] at hwell
      exact hwell
    · intro hall r hr
      obtain ⟨i, hi⟩ := List.getElem?_of_mem hr
      by_contra hsome
      have hfailure : (reportFailure? r).isSome = true := Option.isSome_iff_ne_none.2 hsome
      obtain ⟨chain, trigger, hreport⟩ := exists_reportOf hids hi (hlt r hr) hfailure
      obtain ⟨record, hrecord, -, hfails, -⟩ := hreport.record hids
      rw [hi] at hrecord
      cases hrecord
      obtain ⟨hproduces, hkept⟩ := hall i chain trigger hreport
      rcases hfails.1 hfailure with hno | hwithheld
      · exact hno hproduces
      · exact hkept hwithheld

end Session

/-! ## A closed pipe -/

def Output.closedPipe : Output := { refuses := fun _ _ => some (.brokenPipe, 0) }

def Setting.usual : Setting := ⟨{}, ⟨"artist", "ws01"⟩, "08:00"⟩

def Report.unchecked : Report :=
  { assetPath := "a.fbx", cookSuccess := true, diagnostics := [], host := "ws01"
    timestamp := "08:00", user := "artist", version := "2.0" }

def Trigger.unchecked : Trigger := ⟨0, 1, "report_json", "write", ⟨⟨2⟩, "write"⟩⟩

theorem Hook.writes_unchecked (out : Output) :
    ∃ files, Writes Scene.host .usual BuiltChain.unchecked.chain .unchecked
      ⟨.unchecked, .empty ["work"], out⟩ .unchecked "reports/a.fbx.json" files :=
  ⟨_, _, _, rfl, rfl, rfl⟩

namespace Session

theorem reportOf_unchecked :
    ReportOf ⟨Scene.host, .usual, none⟩ [.unchecked] 0 BuiltChain.unchecked.chain .unchecked :=
  ⟨rfl, rfl, rfl, List.mem_cons_self, rfl⟩

/-- A check of the asset is the attempt of its trigger. -/
theorem exists_check_unchecked (out : Output) :
    buildAll ⟨Scene.host, .usual, none⟩ (.ofChecks [] Setting.usual.config) ["a.fbx"]
        ⟨.standard, 0⟩ = .ok [.unchecked] ⟨.unchecked, 1⟩ ∧
      ∃ stage, check ⟨Scene.host, .usual, none⟩ [] ["a.fbx"] ⟨.standard, .empty ["work"], out⟩ =
          .ok (.of [BuiltChain.unchecked.chain] (records ⟨Scene.host, .usual, none⟩ [.unchecked]
            ⟨.unchecked, .empty ["work"], out⟩)) stage ∧
        stage.files = (stageAt ⟨Scene.host, .usual, none⟩ [.unchecked]
          ⟨.unchecked, .empty ["work"], out⟩ 1).files := by
  have hbuild : buildAll ⟨Scene.host, .usual, none⟩ (.ofChecks [] Setting.usual.config) ["a.fbx"]
      ⟨.standard, 0⟩ = .ok [.unchecked] ⟨.unchecked, 1⟩ := rfl
  exact ⟨hbuild, _, run_ok rfl hbuild (.empty ["work"]) out, (arrange_eq _ _).1⟩

/-- With an output that takes everything, a report that is written is no failure. -/
theorem report_failures_unchecked :
    ∃ summary stage, check ⟨Scene.host, .usual, none⟩ [] ["a.fbx"]
        ⟨.standard, .empty ["work"], {}⟩ = .ok summary stage ∧
      summary.succeeded = true ∧ Report.load stage.files "reports/a.fbx.json" = .ok .unchecked := by
  obtain ⟨hbuild, stage, hrun, hstage⟩ := exists_check_unchecked {}
  obtain ⟨files, hw⟩ := Hook.writes_unchecked {}
  obtain ⟨built, bench, hbuilt, hreports, -, hsucceeded⟩ := report_failures hrun
  rw [hbuild] at hbuilt
  cases hbuilt
  obtain ⟨-, -, -, -, hfiles⟩ := hreports 0 _ _ reportOf_unchecked
  obtain ⟨hlast, hload⟩ := hfiles _ _ _ hw
  refine ⟨_, stage, hrun, hsucceeded.2 fun i chain trigger hreport => ?_, ?_⟩
  · obtain ⟨htrigger, -, -, hmem, -⟩ := hreport
    cases List.mem_singleton.1 hmem
    cases i with
    | succ i => cases htrigger
    | zero =>
      cases htrigger
      refine ⟨⟨_, _, _, hw⟩, ?_⟩
      rintro ⟨_, _, _, -, -, _, _, -, hrefuses⟩
      cases hrefuses
  · rw [hstage, hlast]
    exact hload

/-- On a closed pipe the run counts the report as missing, although it is in its file. -/
theorem check_closed_pipe :
    ∃ summary stage, check ⟨Scene.host, .usual, none⟩ [] ["a.fbx"]
        ⟨.standard, .empty ["work"], .closedPipe⟩ = .ok summary stage ∧
      (∃ record ∈ summary.triggers, (reportFailure? record).isSome = true) ∧
      summary.succeeded = false ∧
      Report.load stage.files "reports/a.fbx.json" = .ok .unchecked := by
  obtain ⟨hbuild, stage, hrun, hstage⟩ := exists_check_unchecked .closedPipe
  obtain ⟨files, hw⟩ := Hook.writes_unchecked .closedPipe
  obtain ⟨text, htree⟩ : ∃ text, Report.unchecked.tree = .ok text := Report.exists_tree rfl
  obtain ⟨record, hrecord, hchain, hfails, hfiles⟩ := reportOf_unchecked.record rfl
  have hfailure : (reportFailure? record).isSome = true :=
    hfails.2 (.inr ⟨_, _, _, hw, rfl, text, _, htree, rfl⟩)
  have hmem := List.mem_of_getElem? hrecord
  have hlt := chain_lt_of_mem_records ⟨Scene.host, .usual, none⟩ (builtFor_of_buildAll hbuild)
    ⟨.unchecked, .empty ["work"], .closedPipe⟩
  refine ⟨_, stage, hrun, ⟨record, hmem, hfailure⟩, ?_, ?_⟩
  · rw [← Bool.not_eq_true]
    intro hsucceeded
    have hnone := (RunSummary.succeeded_of rfl hlt).1 hsucceeded record hmem
    rw [hnone] at hfailure
    cases hfailure
  · rw [hstage, hfiles _ _ _ hw]
    exact hw.load

end Session

end AssetCheck
