import AssetCheck.Proofs.Build.AllOrNothing
import AssetCheck.Proofs.Build.SetUp
import AssetCheck.Proofs.Report.Persistence
import AssetCheck.Proofs.Run.Stages

/-!
# The report of a check

The chain of a check is a loader that holds the path of the asset, the checks, and a node that holds
the path of the report and has the only trigger (`Scene.Checks`). All chains of a run stand on the
scene before the first trigger is attempted (`stands_of_buildAll`). From then on nodes are only
cooked (`stageAt_marks`), and no report depends on what has been cooked before. So each trigger
finds its own chain as it was built, whatever came of the triggers before it (`check_reports`).
-/

namespace AssetCheck

open Scene (Carries Sound)

theorem ParamValue.asPath_text (s : String) : (ParamValue.text s).asPath = s := rfl

/-! ## Chains on the bench of a run -/

/-- The chain of an asset stands on the scene as the pipeline asks for it. -/
structure Scene.StandsFor (s : Scene) (spec : PipelineSpec) (asset : String × Nat)
    (built : BuiltChain) : Prop where
  id_eq : built.chain.id = asset.2
  carries : s.Carries built.chain
  fits : ∃ subs, Substitutions.ofAsset asset.1 = .ok subs ∧ s.Fits subs spec.nodes built

theorem Scene.StandsFor.grown {s t : Scene} {spec : PipelineSpec} {asset : String × Nat}
    {built : BuiltChain} (h : s.StandsFor spec asset built) {created : List NodeHandle}
    (hg : s.Grown t created) : t.StandsFor spec asset built := by
  obtain ⟨subs, hsubs, hfits⟩ := h.fits
  exact ⟨h.id_eq, h.carries.grown hg, subs, hsubs, hfits.grown hg⟩

/-- **Standing.** When all chains of a run are built, each of them stands on the scene. -/
theorem Session.stands_of_buildAll {setting : Setting} {scene : Option String} {spec : PipelineSpec}
    {assets : List String} {s : Scene} (hs : s.Sound) {id : Nat} {built : List BuiltChain}
    {bench : Workbench Scene}
    (h : buildAll ⟨Scene.host, setting, scene⟩ spec assets ⟨s, id⟩ = .ok built bench) :
    (∃ created, s.Grown bench.host created) ∧
      List.Forall₂ (bench.host.StandsFor spec) (assets.zipIdx id) built := by
  induction assets generalizing s id built with
  | nil =>
    cases h
    exact ⟨⟨[], .start⟩, .nil⟩
  | cons asset rest ih =>
    obtain ⟨subs, first, ⟨t, id'⟩, others, hsubs, hfirst, hrest, rfl⟩ := exists_of_buildAll_cons h
    obtain ⟨hid, hbuilds⟩ := builds_of_build_ok hs hfirst
    have hfits := fits_of_build_ok hs hfirst
    obtain ⟨⟨created, hgrown⟩, hstand⟩ := ih (hbuilds.grown.sound hs) hrest
    have hstands : t.StandsFor spec (asset, id) first :=
      ⟨hbuilds.id_eq, hbuilds.carries, subs, hsubs, hfits⟩
    cases hid
    exact ⟨⟨_, hbuilds.grown.trans hgrown⟩, .cons (hstands.grown hgrown) hstand⟩

/-! ## The chain of a check -/

theorem PipelineSpec.types_ofChecks (checks : List String) (config : Config) :
    (ofChecks checks config).nodes.map (·.typeName) =
      config.loaderTypes.head?.getD "file" :: checks ++ [config.reportType] := by
  have hchecks : (checks.map fun check => NodeSpec.mk check []).map (·.typeName) = checks := by
    rw [List.map_map]
    exact List.map_id checks
  unfold ofChecks
  rw [List.map_append, List.map_cons, hchecks]
  rfl

/-- A loader that holds the path of an asset, some checks, and a node that holds the path of the
report and has the only trigger. -/
structure Scene.Checks (s : Scene) (config : Config) (count : Nat) (asset : String)
    (built : BuiltChain) : Prop where
  length_eq : built.chain.nodes.length = count + 2
  loader : ∃ loader, built.chain.node? 0 = some loader ∧
    s.valueOf? loader.handle config.loaderParameter = some (.text (AssetPath.normalize asset))
  terminal : ∃ terminal, built.chain.node? (count + 1) = some terminal ∧
    s.valueOf? terminal.handle config.reportParameter =
      some (.text (AssetPath.report (AssetPath.normalize asset))) ∧
    built.triggers = [{
      chain := built.chain.id, position := count + 1, nodeType := config.reportType
      name := config.reportTrigger, action := ⟨terminal.handle, config.reportTrigger⟩ }]

theorem flatten_noted_eq_nil {chain : Nat} {specs : List NodeSpec} (nodes : List ChainNode)
    (h : ∀ spec ∈ specs, spec.triggers = []) :
    (List.zipWith (NodeSpec.noted chain) specs nodes).flatten = [] := by
  induction specs generalizing nodes with
  | nil => rfl
  | cons spec rest ih =>
    obtain ⟨hspec, hrest⟩ := List.forall_mem_cons.1 h
    cases nodes with
    | nil => rfl
    | cons node nodes =>
      rw [List.zipWith_cons_cons, List.flatten_cons, ih nodes hrest, NodeSpec.noted, hspec]
      rfl

theorem Scene.StandsFor.checks {s : Scene} {checks : List String} {config : Config}
    {asset : String × Nat} {built : BuiltChain}
    (h : s.StandsFor (.ofChecks checks config) asset built) :
    s.Checks config checks.length asset.1 built := by
  obtain ⟨subs, hsubs, hfits⟩ := h.fits
  obtain ⟨hinput, hreport⟩ := Substitutions.get?_ofAsset hsubs
  have hnodes := hfits.nodes
  have htriggers := hfits.triggers
  unfold PipelineSpec.ofChecks at hnodes htriggers
  obtain ⟨before, last, hbefore, hlast, hsplit⟩ := exists_append_of_forall₂ hnodes
  rw [hsplit, List.zipWith_append hbefore.length_eq, List.flatten_append] at htriggers
  cases hbefore with
  | @cons _ loader _ middle hloader hmiddle =>
  cases hlast with
  | @cons _ terminal _ _ hterminal hnil =>
  cases hnil
  have hcount : middle.length = checks.length := by
    rw [← hmiddle.length_eq, List.length_map]
  have hnode : built.chain.node? (checks.length + 1) = some terminal := by
    unfold Chain.node?
    rw [hsplit, List.getElem?_append_right (by simp [hcount])]
    simp [hcount]
  obtain ⟨_, -, hloader⟩ := hloader.valueOf?_eq
  obtain ⟨_, -, hterminal⟩ := hterminal.valueOf?_eq
  refine ⟨?_, ⟨loader, ?_, ?_⟩, ⟨terminal, hnode, ?_, ?_⟩⟩
  · rw [hsplit]
    simp [hcount]
  · unfold Chain.node?
    rw [hsplit]
    rfl
  · rw [hloader, List.foldl_cons, List.foldl_nil, Directive.setOn,
      Build.resolve_token (by decide) hinput, Table.get?_insert, if_pos rfl]
  · rw [hterminal, List.foldl_cons, List.foldl_cons, List.foldl_nil, Directive.setOn,
      Directive.setOn, Build.resolve_token (by decide) hreport, Table.get?_insert, if_pos rfl]
  · have hposition := (h.carries.linear _ _ hnode).1
    rw [flatten_noted_eq_nil _ (List.forall_mem_cons.2 ⟨rfl, by simp [NodeSpec.triggers]⟩),
      List.nil_append] at htriggers
    rw [htriggers, ← hposition]
    rfl

/-! ## The report -/

def Scene.checkReport (s : Scene) (setting : Setting) (asset : String) (chain : Chain)
    (diagnostics : List Diagnostic) : Report where
  assetPath := AssetPath.normalize asset
  cookSuccess := chain.handles.all fun handle => (s.failure? handle).isNone
  diagnostics := diagnostics
  host := setting.identity.host
  timestamp := setting.now
  user := setting.identity.user
  version := Report.currentVersion

section Report

variable {s : Scene} {setting : Setting} {count : Nat} {asset : String} {built : BuiltChain}
  (h : s.Checks setting.config count asset built)

include h

theorem Scene.Checks.assetPathAt_eq (terminal : NodeHandle) :
    s.assetPathAt setting.config built.chain (count + 1) terminal =
      .ok (AssetPath.normalize asset) := by
  obtain ⟨loader, hnode, hvalue⟩ := h.loader
  have hhead : (built.chain.nodes.take (count + 1)).head? = some loader := by
    rw [List.head?_take, if_neg (Nat.succ_ne_zero count), List.head?_eq_getElem?]
    exact hnode
  unfold assetPathAt
  rw [hhead, Option.bind_some, hvalue]
  rfl

/-- The report of a check is up to its verdicts. -/
theorem Scene.Checks.reportAt_eq (terminal : NodeHandle) :
    s.reportAt setting built.chain (count + 1) terminal =
      ((built.chain.diagnosed setting.config (count + 1)).mapM (s.verdict setting.config)).map
        (s.checkReport setting asset built.chain) := by
  have hall : built.chain.handles.take (count + 1 + 1) = built.chain.handles := by
    refine List.take_of_length_le ?_
    rw [Chain.handles, List.length_map]
    exact Nat.le_of_eq h.length_eq
  unfold reportAt
  rw [except_bind_ok (h.assetPathAt_eq terminal), hall]
  cases (built.chain.diagnosed setting.config (count + 1)).mapM (s.verdict setting.config) <;> rfl

end Report

theorem Scene.Carries.all_cooked_iff {s : Scene} {c : Chain} (h : s.Carries c) (hs : s.Sound) :
    (c.handles.all fun handle => (s.failure? handle).isNone) = true ↔
      ∀ node ∈ c.nodes, ∀ type, s.types.get? node.typeName = some type →
        type.failsCook = false := by
  rw [List.all_eq_true, Chain.handles, List.forall_mem_map]
  refine forall₂_congr fun node hnode => ?_
  rw [Option.isNone_iff_eq_none, h.failure?_eq_none_iff hs hnode]

/-- What checking an asset comes to. The scene `s` has all chains of the run on it; the trigger of
the asset's report is attempted on the stage `before` and leaves the stage `after`. -/
structure Scene.Checked (s : Scene) (setting : Setting) (checks : List String) (asset : String)
    (chain : Chain) (before after : Stage Scene) (outcome : Outcome) : Prop where
  /-- The chain leads from the loader over the checks to the report. -/
  types : chain.nodes.map (·.typeName) =
    setting.config.loaderTypes.head?.getD "file" :: checks ++ [setting.config.reportType]
  /-- What is collected is the path of the asset, whether a type of the chain fails, and the
  verdicts on the nodes in order. -/
  collected : ∀ report t,
    Collect.fromChain host setting chain (checks.length + 1) before.host = .ok report t →
      report.assetPath = AssetPath.normalize asset ∧
      (report.cookSuccess = true ↔ ∀ node ∈ chain.nodes, ∀ type,
        s.types.get? node.typeName = some type → type.failsCook = false) ∧
      (chain.diagnosed setting.config (checks.length + 1)).mapM (s.verdict setting.config) =
        .ok report.diagnostics
  /-- With all verdicts there is a report, which is written to the place that the token of the
  asset's report stands for, and loaded from there. -/
  written : ∀ diagnostics,
    (chain.diagnosed setting.config (checks.length + 1)).mapM (s.verdict setting.config) =
        .ok diagnostics →
      ∃ report t subs path,
        Collect.fromChain host setting chain (checks.length + 1) before.host = .ok report t ∧
        Substitutions.ofAsset asset = .ok subs ∧
        subs.get? Substitutions.reportPath = some path ∧
        ∀ files, report.save path before.files = .ok () files →
          (setting.config.printsReports = true → ∃ text out, report.tree = .ok text ∧
            Output.write text before.out = .ok () out) →
          outcome = .hooked (.reportWritten path report.passed) ∧ after.files = files ∧
            Report.load after.files path = .ok report
  /-- The first verdict that cannot be read is the outcome, and nothing is written. -/
  malformed : ∀ nodes node others e,
    chain.diagnosed setting.config (checks.length + 1) = nodes ++ node :: others →
      (∀ n ∈ nodes, ∃ d, s.verdict setting.config n = .ok d) →
      s.verdict setting.config node = .error e →
      outcome = .hookFailed e ∧ after.files = before.files ∧ after.out = before.out ∧
      ∃ n type warning warnings reason, s.nodes.get? node.handle = some n ∧
        s.types.get? node.typeName = some type ∧ type.warnings = warning :: warnings ∧
        e = .malformedWarning n.name warning reason

/-- Only a warning cannot be read, so without warnings there are all verdicts. -/
theorem Scene.Checked.exists_diagnostics {s : Scene} {setting : Setting} {checks : List String}
    {asset : String} {chain : Chain} {before after : Stage Scene} {outcome : Outcome}
    (h : s.Checked setting checks asset chain before after outcome)
    (hquiet : ∀ name type, s.types.get? name = some type → type.warnings = []) :
    ∃ diagnostics, (chain.diagnosed setting.config (checks.length + 1)).mapM
      (s.verdict setting.config) = .ok diagnostics := by
  have hread : ∀ node, (∃ d, s.verdict setting.config node = .ok d) ∨
      ∃ e, s.verdict setting.config node = .error e := by
    intro node
    cases s.verdict setting.config node with
    | ok d => exact .inl ⟨d, rfl⟩
    | error e => exact .inr ⟨e, rfl⟩
  rcases all_or_first hread (chain.diagnosed setting.config (checks.length + 1)) with
    ⟨diagnostics, hall⟩ | ⟨nodes, node, others, hsplit, hnodes, e, he⟩
  · exact ⟨diagnostics, mapM_ok hall⟩
  · obtain ⟨-, -, -, _, type, _, _, _, -, htype, hwarnings, -⟩ :=
      h.malformed nodes node others e hsplit hnodes he
    rw [hquiet _ _ htype] at hwarnings
    cases hwarnings

/-! ## An attempt -/

section Attempt

variable {s : Scene} (hs : s.Sound) {setting : Setting} {checks : List String}
  {asset : String × Nat} {built : BuiltChain}
  (h : s.StandsFor (.ofChecks checks setting.config) asset built) {trigger : Trigger}
  (htrigger : built.triggers = [trigger]) {chains : List Chain}
  (hids : chains.map (·.id) = List.range chains.length)
  (hmem : built.chain ∈ chains) {stage : Stage Scene} {handles : List NodeHandle}
  (hstage : stage.host = s.marked handles)

include h htrigger

theorem Scene.StandsFor.trigger_eq :
    ∃ terminal, built.chain.node? (checks.length + 1) = some terminal ∧
      s.valueOf? terminal.handle setting.config.reportParameter =
        some (.text (AssetPath.report (AssetPath.normalize asset.1))) ∧
      trigger = {
        chain := asset.2, position := checks.length + 1
        nodeType := setting.config.reportType, name := setting.config.reportTrigger
        action := ⟨terminal.handle, setting.config.reportTrigger⟩ } := by
  obtain ⟨terminal, hterminal, hvalue, hown⟩ := h.checks.terminal
  rw [htrigger, h.id_eq] at hown
  exact ⟨terminal, hterminal, hvalue, List.singleton_inj.1 hown⟩

include hids hmem in
theorem Scene.StandsFor.attempt_eq (stage : Stage Scene) :
    Firing.attempt Scene.host setting chains trigger stage =
      (⟨asset.2, trigger.nodeType, trigger.name,
          .ofHook (Hook.writeReport Scene.host setting built.chain trigger stage)⟩,
        stateAfter (Hook.writeReport Scene.host setting built.chain trigger) stage) := by
  obtain ⟨_, -, -, rfl⟩ := h.trigger_eq htrigger
  exact Firing.attempt_eq Scene.host setting hids hmem h.id_eq.symm rfl rfl stage

include hs hstage

/-- The trigger of a check finds the path of the report and what to collect, whichever nodes have
been cooked before. -/
theorem Scene.StandsFor.collected :
    Hook.reportPath Scene.host setting trigger stage =
        .ok (AssetPath.report (AssetPath.normalize asset.1)) stage ∧
      trigger.position = checks.length + 1 ∧
      ∃ terminal, Collect.fromChain Scene.host setting built.chain (checks.length + 1) stage.host =
        known (s.reportAt setting built.chain (checks.length + 1) terminal)
          (s.marked (handles ++ built.chain.handles.take (checks.length + 2))) := by
  obtain ⟨terminal, hterminal, hvalue, rfl⟩ := h.trigger_eq htrigger
  have hgraph := Scene.sameGraph_marked s handles
  have hcollect := Collect.fromChain_eq (h.carries.of_links fun handle _ => hgraph.link handle)
    (hs.sameGraph hgraph) setting hterminal
  rw [Scene.reportAt_marked, Scene.marked_marked] at hcollect
  rw [← Scene.valueOf?_marked s handles, ← hstage] at hvalue
  rw [← ParamValue.asPath_text (AssetPath.report _)]
  refine ⟨Hook.reportPath_eq hvalue, rfl, terminal.handle, ?_⟩
  rw [hstage]
  exact hcollect

include hids hmem

/-- An attempt does no more to the scene than cook nodes. -/
theorem Scene.StandsFor.attempt_marks :
    (Firing.attempt Scene.host setting chains trigger stage).2.host =
      s.marked (handles ++ built.chain.handles.take (checks.length + 2)) := by
  obtain ⟨hpath, hposition, terminal, hcollect⟩ := h.collected hs htrigger hstage
  have hhost := Hook.writeReport_host built.chain hpath
  rw [hposition, stateAfter_known hcollect] at hhost
  rw [h.attempt_eq htrigger hids hmem]
  exact hhost

/-- **An attempt.** The trigger of a check comes to what the scene says of its chain. -/
theorem Scene.StandsFor.checked :
    s.Checked setting checks asset.1 built.chain stage
      (Firing.attempt Scene.host setting chains trigger stage).2
      (Firing.attempt Scene.host setting chains trigger stage).1.outcome := by
  obtain ⟨hpath, hposition, terminal, hcollect⟩ := h.collected hs htrigger hstage
  have hreport : s.reportAt setting built.chain (checks.length + 1) terminal = _ :=
    h.checks.reportAt_eq terminal
  obtain ⟨subs, hsubs, hfits⟩ := h.fits
  rw [h.attempt_eq htrigger hids hmem]
  constructor
  · rw [hfits.types, PipelineSpec.types_ofChecks]
  · intro report t hok
    rw [hcollect] at hok
    have hok := eq_ok_of_known hok
    rw [hreport] at hok
    cases hds : (built.chain.diagnosed setting.config (checks.length + 1)).mapM
        (s.verdict setting.config) with
    | error e =>
      rw [hds] at hok
      cases hok
    | ok diagnostics =>
      rw [hds] at hok
      cases hok
      exact ⟨rfl, h.carries.all_cooked_iff hs, rfl⟩
  · intro diagnostics hds
    rw [hreport, hds] at hcollect
    refine ⟨_, _, subs, _, hcollect, hsubs, (Substitutions.get?_ofAsset hsubs).2,
      fun files hsave hprint => ?_⟩
    rw [← hposition] at hcollect
    obtain ⟨out, hwrite⟩ := Hook.writeReport_ok hpath hcollect hsave hprint
    rw [hwrite, stateAfter_ok hwrite]
    exact ⟨rfl, rfl, Report.load_of_save hsave rfl⟩
  · intro nodes node others e hsplit hnodes he
    have hnode : node ∈ built.chain.diagnosed setting.config (checks.length + 1) := by
      rw [hsplit]
      exact List.mem_append_right _ List.mem_cons_self
    rw [hreport, hsplit, mapM_error hnodes he, ← hposition] at hcollect
    have hwrite := Hook.writeReport_error hpath hcollect
    rw [hwrite, stateAfter_error hwrite]
    refine ⟨rfl, rfl, rfl, h.carries.exists_of_verdict_error hs ?_ he⟩
    exact List.mem_of_mem_take (List.mem_filter.1 hnode).1

end Attempt

/-! ## All attempts -/

section Attempts

variable {s : Scene} {setting : Setting} {checks assets : List String} {built : List BuiltChain}
  (hstand : List.Forall₂ (s.StandsFor (.ofChecks checks setting.config)) assets.zipIdx built)

include hstand

theorem Session.exists_triggers :
    ∃ triggers, List.Forall₂ (fun (b : BuiltChain) trigger => b.triggers = [trigger]) built
      triggers := by
  refine exists_forall₂ fun b hb => ?_
  obtain ⟨asset, -, hstands⟩ := exists_of_forall₂_right hstand b hb
  obtain ⟨terminal, -, -, htrigger⟩ := hstands.checks.terminal
  exact ⟨_, htrigger⟩

/-- **Attempts.** No attempt does more to the scene than cook nodes. -/
theorem Session.stageAt_marks (hs : s.Sound)
    (hids : (built.map (·.chain)).map (·.id) = List.range (built.map (·.chain)).length)
    (scene : Option String) (files : FileTree) (out : Output) (i : Nat) :
    ∃ cooked, (stageAt ⟨Scene.host, setting, scene⟩ built ⟨s, files, out⟩ i).host =
      s.marked cooked := by
  obtain ⟨triggers, htriggers⟩ := exists_triggers hstand
  unfold stageAt
  rw [flatMap_eq_of_forall₂ htriggers]
  refine Firing.stageAt_keeps (P := fun stage => ∃ cooked, stage.host = s.marked cooked)
    (fun trigger htrigger stage hstage => ?_) ⟨[], s.marked_nil.symm⟩ i
  obtain ⟨b, hb, hown⟩ := exists_of_forall₂_right htriggers trigger htrigger
  obtain ⟨asset, -, hstands⟩ := exists_of_forall₂_right hstand b hb
  obtain ⟨cooked, hstage⟩ := hstage
  exact ⟨_, hstands.attempt_marks hs hown hids (List.mem_map_of_mem hb) hstage⟩

end Attempts

/-- **Checks.** Every asset of a check has one trigger, which is attempted whatever came of the
others and comes to what the asset's own chain says. The run is these attempts, after which the
scene is arranged and saved. -/
theorem Session.check_reports {s : Scene} (hs : s.Reachable) (setting : Setting)
    (scene : Option String) (checks assets : List String) (files : FileTree) (out : Output)
    {built : List BuiltChain} {bench : Workbench Scene}
    (h : buildAll ⟨Scene.host, setting, scene⟩ (.ofChecks checks setting.config) assets ⟨s, 0⟩ =
      .ok built bench) :
    let session : Session Scene := ⟨Scene.host, setting, scene⟩
    let start : Stage Scene := ⟨bench.host, files, out⟩
    (session.records built start).length = assets.length ∧
    (∀ i asset, assets[i]? = some asset →
      ∃ b record, built[i]? = some b ∧ (session.records built start)[i]? = some record ∧
        record.chain = i ∧
        bench.host.Checked setting checks asset b.chain (session.stageAt built start i)
          (session.stageAt built start (i + 1)) record.outcome) ∧
    session.check checks assets ⟨s, files, out⟩ =
      session.finish built (session.records built start)
        (session.stageAt built start assets.length) := by
  intro session start
  obtain ⟨⟨created, hgrown⟩, hstand⟩ := stands_of_buildAll hs.sound h
  have hsound := hgrown.sound hs.sound
  have hids := ids_eq (builtFor_of_buildAll h)
  obtain ⟨triggers, htriggers⟩ := exists_triggers hstand
  have hall : built.flatMap (·.triggers) = triggers := flatMap_eq_of_forall₂ htriggers
  have hcount : (built.flatMap (·.triggers)).length = assets.length := by
    rw [hall, ← htriggers.length_eq, ← hstand.length_eq, List.length_zipIdx]
  refine ⟨(Firing.length_fireAll ..).trans hcount, fun i asset hasset => ?_, ?_⟩
  · have hplace : (assets.zipIdx 0)[i]? = some (asset, i) := by
      rw [List.getElem?_zipIdx, hasset, Nat.zero_add]
      rfl
    obtain ⟨b, hb, hstands⟩ := getElem?_of_forall₂ hstand hplace
    obtain ⟨trigger, htrigger, hown⟩ := getElem?_of_forall₂ htriggers hb
    obtain ⟨cooked, hstage⟩ := stageAt_marks hstand hsound hids scene files out i
    have hmem : b.chain ∈ built.map (·.chain) := List.mem_map_of_mem (List.mem_of_getElem? hb)
    have hchecked := hstands.checked hsound hown hids hmem hstage
    rw [← hall] at htrigger
    refine ⟨b, _, hb, getElem?_records htrigger, ?_, ?_⟩
    · rw [hstands.attempt_eq hown hids hmem]
    · rw [stageAt_succ htrigger]
      exact hchecked
  · refine (run_eq h).trans ?_
    rw [hcount]

def Scene.openEdges : Scene :=
  standard.register { name := "check_faces", errors := ["open edge"] }

theorem Scene.openEdges_types {name : String} {type : NodeType}
    (h : openEdges.types.get? name = some type) : type.warnings = [] ∧ type.failsCook = false := by
  obtain ⟨entry, hfind, rfl⟩ := Option.map_eq_some_iff.1 h
  have hquiet : ∀ entry ∈ openEdges.types, entry.2.warnings = [] ∧ entry.2.failsCook = false := by
    decide
  exact hquiet entry (List.mem_of_find?_eq_some hfind)

def Setting.quiet : Setting := ⟨{ printsReports := false }, ⟨"artist", "ws01"⟩, "08:00"⟩

/-- The error of a check is a verdict, so the report of the first asset is written. -/
theorem Session.check_reports_open_edge :
    Scene.openEdges.Reachable ∧ ∃ built bench,
      buildAll ⟨Scene.host, .quiet, none⟩ (.ofChecks ["check_faces"] Setting.quiet.config)
        ["a\\b.fbx", "c.fbx"] ⟨.openEdges, 0⟩ = .ok built bench ∧
      let start : Stage Scene := ⟨bench.host, .empty ["work"], {}⟩
      ∃ record, ∃ report : Report,
        (records ⟨Scene.host, .quiet, none⟩ built start)[0]? = some record ∧
        report.assetPath = "a/b.fbx" ∧ report.cookSuccess = true ∧
        record.outcome = .hooked (.reportWritten "a/reports/b.fbx.json" report.passed) ∧
        Report.load (stageAt ⟨Scene.host, .quiet, none⟩ built start 1).files
          "a/reports/b.fbx.json" = .ok report := by
  have hs : Scene.openEdges.Reachable := .move (.register _) .standard
  obtain ⟨built, bench, hbuild⟩ := buildAll_ok .quiet none
    (.ofChecks ["check_faces"] Setting.quiet.config) hs.sound rfl ["a\\b.fbx", "c.fbx"] 0
  obtain ⟨⟨created, hgrown⟩, -⟩ := stands_of_buildAll hs.sound hbuild
  have hassets := (check_reports hs .quiet none ["check_faces"] ["a\\b.fbx", "c.fbx"]
    (.empty ["work"]) {} hbuild).2.1
  obtain ⟨b, record, -, hrecord, -, hchecked⟩ := hassets 0 "a\\b.fbx" rfl
  obtain ⟨diagnostics, hdiagnostics⟩ := hchecked.exists_diagnostics fun _ _ htype =>
    (Scene.openEdges_types (hgrown.types ▸ htype)).1
  obtain ⟨report, t, subs, path, hcollect, hsubs, hpath, hwritten⟩ :=
    hchecked.written diagnostics hdiagnostics
  obtain ⟨hasset, hcook, -⟩ := hchecked.collected report t hcollect
  obtain ⟨files, hsave⟩ : ∃ files, report.save "a/reports/b.fbx.json" (.empty ["work"]) =
      .ok () files := ⟨_, rfl⟩
  have hplace : AssetPath.report (AssetPath.normalize "a\\b.fbx") = "a/reports/b.fbx.json" := by
    decide +kernel
  rw [(Substitutions.get?_ofAsset hsubs).2, hplace] at hpath
  cases hpath
  obtain ⟨houtcome, -, hload⟩ := hwritten files hsave fun hprints => by cases hprints
  refine ⟨hs, built, bench, hbuild, record, report, hrecord, ?_, ?_, houtcome, hload⟩
  · rw [hasset]
    decide
  · refine hcook.2 fun node _ type htype => ?_
    rw [hgrown.types] at htype
    exact (Scene.openEdges_types htype).2

end AssetCheck
