import AssetCheck.Proofs.Run.Produced
import AssetCheck.Proofs.Run.TwoStages

/-!
# Runs of more assets

The chains of all assets are on the scene before the first trigger of a run is attempted, so those
of later assets stand beside the earlier ones all along. They make no difference to them: the scene
without the later chains is within the one with them, the triggers of the earlier chains come to the
same on both (`exists_first`), and what later triggers do is put behind. So a run of some assets is
how a run of more assets begins (`run_prefix`).
-/

namespace AssetCheck

/-! ## Triggers, some and then others -/

namespace Firing

section Triggers

variable {σ : Type} (h : Host σ) (hooks : Hooks σ) (setting : Setting) (chains : List Chain)

theorem take_fireAll (triggers : List Trigger) (stage : Stage σ) (n : Nat) :
    (fireAll h hooks setting chains triggers stage).1.take n =
      (fireAll h hooks setting chains (triggers.take n) stage).1 := by
  induction triggers generalizing stage n with
  | nil => cases n <;> rfl
  | cons trigger rest ih =>
    cases n with
    | zero => rfl
    | succ n => exact congrArg (_ :: ·) (ih _ n)

theorem stageAt_add (triggers : List Trigger) (stage : Stage σ) (i j : Nat) :
    stageAt h hooks setting chains triggers stage (i + j) =
      stageAt h hooks setting chains (triggers.drop i)
        (stageAt h hooks setting chains triggers stage i) j := by
  induction triggers generalizing stage i with
  | nil =>
    rw [List.drop_nil]
    cases i <;> cases j <;> rfl
  | cons trigger rest ih =>
    cases i with
    | zero =>
      rw [Nat.zero_add]
      rfl
    | succ i =>
      rw [Nat.succ_add]
      exact ih _ i

end Triggers

theorem attempt_keeps {σ : Type} {h : Host σ} {setting : Setting} {trigger : Trigger}
    {P : Stage σ → Prop} (hpress : Keeps P (Stage.onHost (h.fireTrigger trigger.action)))
    (hwrite : ∀ c, Keeps P (Hook.writeReport h setting c trigger)) (chains : List Chain)
    {stage : Stage σ} (hstage : P stage) : P (attempt h setting chains trigger stage).2 := by
  by_cases hreport : trigger.nodeType = setting.config.reportType ∧
      trigger.name = setting.config.reportTrigger
  · unfold attempt
    rw [fire_report h setting chains hreport.1 hreport.2]
    exact runHook_keeps hwrite hstage
  · have hafter := hpress stage hstage
    unfold stateAfter at hafter
    rw [attempt_press h setting chains hreport]
    unfold press
    cases hresult : Stage.onHost (h.fireTrigger trigger.action) stage <;>
      rw [hresult] at hafter <;> exact hafter

end Firing

/-! ## What is put behind -/

theorem Output.exists_text_append {o p : Output} (h : o.offers <+: p.offers) :
    ∃ more, p.text = o.text ++ more := by
  obtain ⟨offers, hoffers⟩ := h
  refine ⟨String.join (offers.map Offer.part), ?_⟩
  unfold text
  rw [← hoffers, List.map_append, String.join_append]

theorem Output.bytes_prefix {o p : Output} (h : o.offers <+: p.offers) : o.bytes <+: p.bytes := by
  obtain ⟨offers, hoffers⟩ := h
  unfold bytes
  rw [← hoffers, List.flatMap_append]
  exact List.prefix_append _ _

/-- The output of the stage begins with what it was offered before. -/
def Stage.Begins {σ : Type} (offers : List Offer) (stage : Stage σ) : Prop :=
  offers <+: stage.out.offers

namespace Hook

variable {σ : Type} {offers : List Offer}

theorem onHost_begins {ε α : Type} (step : EStateM ε σ α) :
    Keeps (Stage.Begins offers) (Stage.onHost step) := by
  intro stage hstage
  obtain ⟨-, hout⟩ := onHost_keeps step stage.files stage.out stage ⟨rfl, rfl⟩
  unfold Stage.Begins
  rw [hout]
  exact hstage

theorem onFiles_begins {ε α : Type} (step : EStateM ε FileTree α) :
    Keeps (Stage.Begins offers) (Stage.onFiles step : EStateM ε (Stage σ) α) := by
  intro stage hstage
  unfold stateAfter Stage.onFiles
  cases step stage.files <;> exact hstage

theorem write_begins (text : String) :
    Keeps (Stage.Begins offers)
      (Stage.onOutput (EStateM.adaptExcept .io (Output.write text)) :
        EStateM ReportError (Stage σ) Unit) := by
  intro stage hstage
  unfold stateAfter Stage.onOutput EStateM.adaptExcept Output.write
  cases stage.out.refuses stage.out.offers text <;>
    exact hstage.trans (List.prefix_append _ _)

theorem printReport_begins (report : Report) :
    Keeps (Stage.Begins offers) (printReport report : EStateM ReportError (Stage σ) Unit) := by
  unfold printReport
  cases report.tree with
  | error e => exact .throw e
  | ok text => exact write_begins text

theorem writeReport_begins (h : Host σ) (setting : Setting) (c : Chain) (trigger : Trigger) :
    Keeps (Stage.Begins offers) (writeReport h setting c trigger) :=
  writeReport_keeps h setting c trigger onHost_begins (fun _ _ => onFiles_begins _)
    printReport_begins

end Hook

/-- **Output.** What is written when a trigger is attempted stays where it is. -/
theorem Session.stageAt_begins {σ : Type} (session : Session σ) (built : List BuiltChain)
    (stage : Stage σ) {i j : Nat} (h : i ≤ j) :
    (session.stageAt built stage j).Begins (session.stageAt built stage i).out.offers := by
  obtain ⟨j, rfl⟩ := Nat.exists_eq_add_of_le h
  unfold stageAt
  rw [Firing.stageAt_add]
  refine Firing.stageAt_keeps (fun trigger _ stage hstage => ?_) List.prefix_rfl j
  exact Firing.attempt_keeps (Hook.onHost_begins _)
    (fun c => Hook.writeReport_begins session.host session.setting c trigger) _ hstage

/-- The summaries of earlier chains are those of the records before the ones of later chains. -/
theorem RunSummary.take_assets_of {first rest : List Chain}
    (hfirst : first.map (·.id) = List.range first.length)
    (hall : (first ++ rest).map (·.id) = List.range (first ++ rest).length)
    {records : List Record} {n : Nat} (hlater : ∀ r ∈ records.drop n, first.length ≤ r.chain) :
    (of (first ++ rest) records).assets.take first.length =
      (of first (records.take n)).assets := by
  rw [assets_of hfirst, assets_of hall]
  refine List.ext_getElem? fun i => ?_
  rw [List.getElem?_take, List.getElem?_mapIdx, List.getElem?_mapIdx]
  split
  · next hi =>
    have hnone : (records.drop n).filter (·.chain = i) = [] := by
      refine List.filter_eq_nil_iff.2 fun r hr hchain => ?_
      have hle := hlater r hr
      have hi' := of_decide_eq_true hchain
      omega
    have hown : records.filter (·.chain = i) = (records.take n).filter (·.chain = i) := by
      conv_lhs => rw [← List.take_append_drop n records]
      rw [List.filter_append, hnone, List.append_nil]
    rw [List.map_append, List.getElem?_append_left (by rw [List.length_map]; exact hi), hown]
  · next hi =>
    rw [List.getElem?_eq_none (by rw [List.length_map]; omega)]
    rfl

/-! ## Chains, some and then others -/

/-- The trigger belongs to a node of a chain, which has the type that the trigger names. -/
structure Trigger.On (trigger : Trigger) (c : Chain) : Prop where
  id_eq : trigger.chain = c.id
  node : ∃ node, c.node? trigger.position = some node ∧ trigger.action.node = node.handle ∧
    trigger.nodeType = node.typeName

theorem Scene.StandsFor.on {s : Scene} {spec : PipelineSpec} {asset : String × Nat}
    {built : BuiltChain} (h : s.StandsFor spec asset built) {trigger : Trigger}
    (htrigger : trigger ∈ built.triggers) : trigger.On built.chain := by
  obtain ⟨subs, -, hfits⟩ := h.fits
  rw [hfits.triggers] at htrigger
  obtain ⟨noted, hnoted, hown⟩ := List.mem_flatten.1 htrigger
  obtain ⟨position, hposition⟩ := List.getElem?_of_mem hnoted
  obtain ⟨spec, node, hspec, hnode, rfl⟩ := List.getElem?_zipWith_eq_some.1 hposition
  obtain ⟨name, -, rfl⟩ := List.mem_map.1 hown
  obtain ⟨fitted, hfitted, hfit⟩ := getElem?_of_forall₂ hfits.nodes hspec
  cases hnode.symm.trans hfitted
  refine ⟨rfl, node, ?_, rfl, hfit.typeName.symm⟩
  show built.chain.node? node.position = some node
  rw [(h.carries.linear position node hnode).1]
  exact hnode

theorem Scene.StandsFor.of {s : Scene} {spec : PipelineSpec} {asset : String × Nat}
    {built : BuiltChain} (h : s.StandsFor spec asset built) {chains : List Chain}
    (hmem : built.chain ∈ chains) {trigger : Trigger} (htrigger : trigger ∈ built.triggers) :
    trigger.Of chains built.chain := by
  obtain ⟨hid, node, hnode, hhandle, -⟩ := h.on htrigger
  exact ⟨hmem, hid, node, hnode, hhandle⟩

section Stand

variable {s : Scene} {spec : PipelineSpec} {assets : List (String × Nat)} {built : List BuiltChain}
  (hstand : List.Forall₂ (s.StandsFor spec) assets built)

include hstand

theorem Scene.carries_of_stand : ∀ c ∈ built.map (·.chain), s.Carries c := by
  refine List.forall_mem_map.2 fun b hb => ?_
  obtain ⟨asset, -, hstands⟩ := exists_of_forall₂_right hstand b hb
  exact hstands.carries

theorem Scene.exists_of_stand :
    ∀ trigger ∈ built.flatMap (·.triggers), ∃ c, trigger.Of (built.map (·.chain)) c := by
  intro trigger htrigger
  obtain ⟨b, hb, hown⟩ := List.mem_flatMap.1 htrigger
  obtain ⟨asset, -, hstands⟩ := exists_of_forall₂_right hstand b hb
  exact ⟨b.chain, hstands.of (List.mem_map_of_mem hb) hown⟩

end Stand

namespace Session

section Build

variable {σ : Type} {session : Session σ} {spec : PipelineSpec} {bench bench' : Workbench σ}
  {built : List BuiltChain}

theorem nextChain_of_buildAll {assets : List String}
    (h : session.buildAll spec assets bench = .ok built bench') :
    bench'.nextChain = bench.nextChain + assets.length := by
  induction assets generalizing bench built with
  | nil =>
    cases h
    rfl
  | cons asset rest ih =>
    obtain ⟨subs, first, next, others, -, hfirst, hrest, rfl⟩ := exists_of_buildAll_cons h
    rw [ih hrest, (build_keys hfirst).1, List.length_cons]
    omega

/-- Triggers have the numbers of their chains. -/
theorem le_chain_of_buildAll {assets : List String}
    (h : session.buildAll spec assets bench = .ok built bench') :
    ∀ trigger ∈ built.flatMap (·.triggers), bench.nextChain ≤ trigger.chain := by
  intro trigger htrigger
  obtain ⟨b, hb, hown⟩ := List.mem_flatMap.1 htrigger
  obtain ⟨asset, hasset, hbuilt⟩ := exists_of_forall₂_right (builtFor_of_buildAll h) b hb
  have hkey : trigger.key ∈ spec.triggers.map (asset.2, ·) :=
    hbuilt.keys ▸ List.mem_map_of_mem hown
  obtain ⟨_, -, heq⟩ := List.mem_map.1 hkey
  have hchain : asset.2 = trigger.chain := congrArg Prod.fst heq
  rw [← hchain]
  exact (List.mem_zipIdx hasset).1

variable (session) in
/-- Records of later triggers are of later chains. -/
theorem le_chain_of_mem_drop_records (first : List BuiltChain) {rest : List BuiltChain} {n : Nat}
    (hrest : ∀ trigger ∈ rest.flatMap (·.triggers), n ≤ trigger.chain) (stage : Stage σ) :
    ∀ r ∈ (session.records (first ++ rest) stage).drop (first.flatMap (·.triggers)).length,
      n ≤ r.chain := by
  intro r hr
  have hkeys : (session.records (first ++ rest) stage).map Record.key =
      ((first ++ rest).flatMap (·.triggers)).map Trigger.key := Firing.fireAll_keys ..
  have hkey := List.mem_map_of_mem (f := Record.key) hr
  rw [List.map_drop, hkeys, ← List.map_drop, List.flatMap_append, List.drop_left] at hkey
  obtain ⟨trigger, htrigger, heq⟩ := List.mem_map.1 hkey
  have hchain : trigger.chain = r.chain := congrArg Prod.fst heq
  rw [← hchain]
  exact hrest trigger htrigger

/-- **Summaries.** The summaries of earlier assets are those of the records of their triggers. -/
theorem take_assets {s : σ} {earlier later : List String} {first rest : List BuiltChain} {t : σ}
    (hall : session.buildAll spec (earlier ++ later) ⟨s, 0⟩ = .ok (first ++ rest) bench)
    (hfirst : session.buildAll spec earlier ⟨s, 0⟩ = .ok first ⟨t, earlier.length⟩)
    (hrest : session.buildAll spec later ⟨t, earlier.length⟩ = .ok rest bench) (stage : Stage σ) :
    (RunSummary.of ((first ++ rest).map (·.chain))
        (session.records (first ++ rest) stage)).assets.take earlier.length =
      (RunSummary.of (first.map (·.chain)) ((session.records (first ++ rest) stage).take
        (earlier.length * spec.triggers.length))).assets := by
  have hbuilt := builtFor_of_buildAll hfirst
  have hids := ids_eq (builtFor_of_buildAll hall)
  have hlater := le_chain_of_mem_drop_records session first (le_chain_of_buildAll hrest) stage
  rw [List.map_append] at hids ⊢
  rw [length_triggers hbuilt, ← length_chains hbuilt] at hlater
  rw [← length_chains hbuilt]
  exact RunSummary.take_assets_of (ids_eq hbuilt) hids hlater

end Build

/-- **Earlier triggers.** The triggers of earlier assets come to the same on the scene with their
own chains only and on the one with all chains. -/
theorem exists_first {s : Scene} (hs : s.Sound) {setting : Setting} {scene : Option String}
    {spec : PipelineSpec} {earlier later : List String} {built : List BuiltChain}
    {bench : Workbench Scene}
    (h : buildAll ⟨Scene.host, setting, scene⟩ spec (earlier ++ later) ⟨s, 0⟩ = .ok built bench)
    (files : FileTree) (out : Output) :
    let session : Session Scene := ⟨Scene.host, setting, scene⟩
    let count := earlier.length * spec.triggers.length
    ∃ first rest t, session.buildAll spec earlier ⟨s, 0⟩ = .ok first ⟨t, earlier.length⟩ ∧
      session.buildAll spec later ⟨t, earlier.length⟩ = .ok rest bench ∧ built = first ++ rest ∧
      session.records first ⟨t, files, out⟩ =
        (session.records built ⟨bench.host, files, out⟩).take count ∧
      Stage.Within (first.map (·.chain)) (session.stageAt first ⟨t, files, out⟩ count)
        (session.stageAt built ⟨bench.host, files, out⟩ count) := by
  intro session count
  obtain ⟨first, ⟨t, id⟩, rest, hfirst, hrest, hsplit⟩ := exists_of_buildAll_append h
  obtain rfl : id = earlier.length := by simpa using nextChain_of_buildAll hfirst
  obtain ⟨⟨created, hgrown⟩, hstand⟩ := stands_of_buildAll hs hfirst
  have ht := hgrown.sound hs
  obtain ⟨⟨others, hmore⟩, -⟩ := stands_of_buildAll ht hrest
  have hbuilt := builtFor_of_buildAll hfirst
  have hcount : (first.flatMap (·.triggers)).length = count := length_triggers hbuilt
  have htake : (built.flatMap (·.triggers)).take count = first.flatMap (·.triggers) := by
    rw [hsplit, List.flatMap_append, ← hcount, List.take_left]
  have hsubset : first.map (·.chain) ⊆ built.map (·.chain) := by
    rw [hsplit, List.map_append]
    exact List.subset_append_left _ _
  -- The later chains have been put behind what the first ones were built on.
  have hstart : Stage.Within (first.map (·.chain)) ⟨t, files, out⟩ ⟨bench.host, files, out⟩ :=
    ⟨hmore.within, ht, hmore.sound ht, Scene.carries_of_stand hstand, rfl, rfl⟩
  obtain ⟨hrecords, hstage⟩ := Firing.fireAll_within setting (ids_eq hbuilt)
    (ids_eq (builtFor_of_buildAll h)) hsubset (Scene.exists_of_stand hstand) hstart
  refine ⟨first, rest, t, hfirst, hrest, hsplit, ?_, ?_⟩
  · unfold records
    rw [Firing.take_fireAll, htake]
    exact hrecords
  · unfold stageAt Firing.stageAt
    rw [htake, List.take_of_length_le (Nat.le_of_eq hcount)]
    exact hstage

/-- **Later assets.** When a run over some assets and then others goes well, so does the run over
the first ones from the same start. It makes the same records and summaries of them, leaves the
files that the longer run has when it is done with their triggers, and its output is how that of the
longer run begins, also if parts of texts have arrived. -/
theorem run_prefix {s : Scene} (hs : s.Reachable) (setting : Setting) (spec : PipelineSpec)
    (earlier later : List String) (files : FileTree) (out : Output) {summary : RunSummary}
    {stage : Stage Scene}
    (h : run ⟨Scene.host, setting, none⟩ spec (earlier ++ later) ⟨s, files, out⟩ =
      .ok summary stage) :
    let session : Session Scene := ⟨Scene.host, setting, none⟩
    let count := earlier.length * spec.triggers.length
    ∃ summary' stage' built bench,
      session.run spec earlier ⟨s, files, out⟩ = .ok summary' stage' ∧
      session.buildAll spec (earlier ++ later) ⟨s, 0⟩ = .ok built bench ∧
      summary'.triggers = summary.triggers.take count ∧ summary'.triggers.length = count ∧
      summary'.assets = summary.assets.take earlier.length ∧
      summary'.assets.length = earlier.length ∧
      stage'.files = (session.stageAt built ⟨bench.host, files, out⟩ count).files ∧
      (out.bytes <+: stage'.out.bytes ∧ stage'.out.bytes <+: stage.out.bytes) ∧
      ∃ own more, stage'.out.text = out.text ++ own ∧ stage.out.text = out.text ++ own ++ more := by
  intro session count
  obtain ⟨built, bench, hbuild, -⟩ := exists_built_of_run h
  obtain ⟨first, rest, t, hfirst, hrest, rfl, hrecords, hstage⟩ :=
    exists_first hs.sound hbuild files out
  have hbuilt := builtFor_of_buildAll hfirst
  rw [run_ok rfl hbuild] at h
  cases h
  refine ⟨_, _, _, bench, run_ok rfl hfirst files out, hbuild, hrecords, ?_, ?_, ?_, ?_, ?_⟩
  · exact (Firing.length_fireAll ..).trans (length_triggers hbuilt)
  · rw [hrecords]
    exact (take_assets hbuild hfirst hrest _).symm
  · rw [RunSummary.assets_of (ids_eq hbuilt), List.length_mapIdx, List.length_map,
      length_chains hbuilt]
  · exact (arrange_eq _ _).1.trans hstage.files.symm
  · have hle : count ≤ (earlier ++ later).length * spec.triggers.length := by
      rw [List.length_append, Nat.add_mul]
      exact Nat.le_add_right _ _
    have hbegins := session.stageAt_begins (first ++ rest) ⟨bench.host, files, out⟩ hle
    have hout : _ = (session.stageAt first ⟨t, files, out⟩ count).out := hstage.out
    rw [hout] at hbegins
    have hshort := session.stageAt_begins first ⟨t, files, out⟩ (Nat.zero_le count)
    rw [(arrange_eq session (session.stageAt first _ count)).2, (arrange_eq session _).2]
    refine ⟨⟨Output.bytes_prefix hshort, Output.bytes_prefix hbegins⟩, ?_⟩
    obtain ⟨own, hown⟩ := Output.exists_text_append hshort
    obtain ⟨more, hmore⟩ := Output.exists_text_append hbegins
    exact ⟨own, more, hown, hmore.trans (congrArg (· ++ more) hown)⟩

/-- A second asset leaves what comes of the first one as it is. -/
theorem run_prefix_two_assets :
    Scene.oneLoader.Reachable ∧ ∃ summary stage summary' stage',
      run ⟨Scene.host, .usual, none⟩ (.ofChecks [] Setting.usual.config) ["a.fbx", "b.fbx"]
        ⟨.oneLoader, .empty ["work"], {}⟩ = .ok summary stage ∧
      run ⟨Scene.host, .usual, none⟩ (.ofChecks [] Setting.usual.config) ["a.fbx"]
        ⟨.oneLoader, .empty ["work"], {}⟩ = .ok summary' stage' ∧
      summary'.triggers = summary.triggers.take 1 ∧ summary'.triggers.length = 1 ∧
      summary'.assets = summary.assets.take 1 ∧ summary'.assets.length = 1 ∧
      ∃ more, stage.out.text = stage'.out.text ++ more := by
  have hs : Scene.oneLoader.Reachable := .move _ .standard
  obtain ⟨built, bench, hbuild⟩ := buildAll_ok .usual none (.ofChecks [] Setting.usual.config)
    hs.sound rfl ["a.fbx", "b.fbx"] 0
  have hrun := run_ok rfl hbuild (.empty ["work"]) {}
  obtain ⟨summary', stage', -, -, hshort, -, htriggers, hcount, hassets, hlength, -, -, own,
    more, hown, hmore⟩ := run_prefix hs .usual (.ofChecks [] Setting.usual.config) ["a.fbx"] ["b.fbx"]
      (.empty ["work"]) {} hrun
  refine ⟨hs, _, _, summary', stage', hrun, hshort, htriggers, hcount, hassets, hlength, more, ?_⟩
  rw [hown]
  exact hmore

end Session

end AssetCheck
