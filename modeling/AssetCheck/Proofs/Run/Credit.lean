import AssetCheck.Proofs.Build.Additions
import AssetCheck.Proofs.Build.InTurn
import AssetCheck.Proofs.Traversal

/-!
# Every outcome is credited once

Whatever the host does, a build notes the triggers of a pipeline in their order under the number of
its chain (`build_keys`), and firing makes one record of each (`fireAll_keys`). The chains of a run
are numbered by their assets, so the summary of an asset holds what came of its own triggers, and
nothing else (`run_credits`).
-/

namespace AssetCheck

def Trigger.key (t : Trigger) : Nat × String × String := (t.chain, t.nodeType, t.name)

def Record.key (r : Record) : Nat × String × String := (r.chain, r.nodeType, r.name)

/-- The triggers that a pipeline presses, by the type of the node and the name. -/
def PipelineSpec.triggers (spec : PipelineSpec) : List (String × String) :=
  spec.nodes.flatMap fun node => node.triggers.map fun name => (node.typeName, name)

/-! ## Noting triggers -/

namespace Build

variable {σ : Type} {h : Host σ} {subs : Substitutions} {b b' : Building σ}

theorem addNode_keys {built built' : BuiltChain} {spec : NodeSpec}
    (hstep : addNode h subs built spec b = .ok built' b') :
    built'.chain.id = built.chain.id ∧ built'.chain.asset = built.chain.asset ∧
      built'.triggers.map Trigger.key = built.triggers.map Trigger.key ++
        spec.triggers.map fun name => (built.chain.id, spec.typeName, name) := by
  obtain ⟨node, triggers, rfl, hsites⟩ := exists_of_addNode hstep
  refine ⟨rfl, rfl, ?_⟩
  have hkeys := congrArg (List.map fun site => (site.1, site.2.2)) hsites
  rw [List.map_map, List.map_map] at hkeys
  rw [List.map_append]
  exact congrArg (built.triggers.map Trigger.key ++ ·) hkeys

theorem addNodes_keys {built built' : BuiltChain} {specs : List NodeSpec}
    (hsteps : addNodes h subs built specs b = .ok built' b') :
    built'.chain.id = built.chain.id ∧ built'.chain.asset = built.chain.asset ∧
      built'.triggers.map Trigger.key = built.triggers.map Trigger.key ++
        (PipelineSpec.triggers ⟨specs⟩).map (built.chain.id, ·) := by
  induction specs generalizing built b with
  | nil =>
    cases hsteps
    exact ⟨rfl, rfl, (List.append_nil _).symm⟩
  | cons spec rest ih =>
    obtain ⟨next, _, hfirst, hrest⟩ := exists_ok_of_step_bind hsteps
    obtain ⟨hid, hasset, hkeys⟩ := addNode_keys hfirst
    obtain ⟨hid', hasset', hkeys'⟩ := ih hrest
    have hsplit : PipelineSpec.triggers ⟨spec :: rest⟩ =
        spec.triggers.map (fun name => (spec.typeName, name)) ++ PipelineSpec.triggers ⟨rest⟩ :=
      List.flatMap_cons
    refine ⟨hid'.trans hid, hasset'.trans hasset, ?_⟩
    rw [hkeys', hkeys, hid, hsplit, List.map_append, List.map_map, List.append_assoc]
    rfl

end Build

/-- **Noting.** A build notes the triggers of the pipeline, each once and in order. -/
theorem build_keys {σ : Type} {h : Host σ} {spec : PipelineSpec} {subs : Substitutions}
    {bench bench' : Workbench σ} {built : BuiltChain}
    (hbuild : build h spec subs bench = .ok built bench') :
    bench'.nextChain = bench.nextChain + 1 ∧ built.chain.id = bench.nextChain ∧
      built.chain.asset = (subs.get? Substitutions.assetInput).getD "" ∧
      built.triggers.map Trigger.key = spec.triggers.map (bench.nextChain, ·) := by
  unfold build at hbuild
  dsimp only at hbuild
  split at hbuild
  · next hnodes =>
    cases hbuild
    obtain ⟨hid, hasset, hkeys⟩ := Build.addNodes_keys hnodes
    exact ⟨rfl, hid, hasset, hkeys⟩
  · cases hbuild

/-- The chain of an asset of a run and its triggers. -/
structure BuiltFor (spec : PipelineSpec) (asset : String × Nat) (built : BuiltChain) : Prop where
  id_eq : built.chain.id = asset.2
  asset_eq : built.chain.asset = AssetPath.normalize asset.1
  keys : built.triggers.map Trigger.key = spec.triggers.map (asset.2, ·)

theorem Session.builtFor_of_buildAll {σ : Type} {session : Session σ} {spec : PipelineSpec}
    {assets : List String} {bench bench' : Workbench σ} {built : List BuiltChain}
    (h : session.buildAll spec assets bench = .ok built bench') :
    List.Forall₂ (BuiltFor spec) (assets.zipIdx bench.nextChain) built := by
  induction assets generalizing bench built with
  | nil =>
    cases h
    exact .nil
  | cons asset rest ih =>
    obtain ⟨subs, first, next, others, hsubs, hfirst, hrest, rfl⟩ := exists_of_buildAll_cons h
    obtain ⟨hnext, hid, hasset, hkeys⟩ := build_keys hfirst
    have hbuilt := ih hrest
    rw [hnext] at hbuilt
    rw [(Substitutions.get?_ofAsset hsubs).1] at hasset
    exact .cons ⟨hid, hasset, hkeys⟩ hbuilt

/-! ## Firing -/

/-- **Firing.** There is one record for each trigger, in order. -/
theorem Firing.fireAll_keys {σ : Type} (h : Host σ) (hooks : Hooks σ) (setting : Setting)
    (chains : List Chain) (triggers : List Trigger) (stage : Stage σ) :
    (fireAll h hooks setting chains triggers stage).1.map Record.key =
      triggers.map Trigger.key := by
  induction triggers generalizing stage with
  | nil => rfl
  | cons trigger rest ih => exact congrArg (trigger.key :: ·) (ih _)

/-! ## Adding up -/

namespace AssetSummary

def report? (r : Record) : Option WrittenReport :=
  match r.outcome with
  | .hooked (.reportWritten path passed) => some ⟨path, passed⟩
  | _ => none

/-- The line for a hook that failed. -/
def reportFailure? (r : Record) : Option String :=
  match r.outcome with
  | .hookFailed e => some (r.name ++ ": " ++ e.message)
  | _ => none

/-- The line for a trigger that the host refused. -/
def triggerFailure? (r : Record) : Option String :=
  match r.outcome with
  | .hostFailed e => some (r.name ++ ": " ++ e.message)
  | _ => none

theorem add_eq (s : AssetSummary) (r : Record) :
    s.add r = ⟨s.asset, s.reports ++ (report? r).toList,
      s.reportFailures ++ (reportFailure? r).toList,
      s.triggerFailures ++ (triggerFailure? r).toList⟩ := by
  unfold add report? reportFailure? triggerFailure?
  cases r.outcome with
  | fired => simp
  | hooked result => cases result <;> simp
  | hostFailed e => simp
  | hookFailed e => simp

theorem foldl_add (s : AssetSummary) (records : List Record) :
    records.foldl add s = ⟨s.asset, s.reports ++ records.filterMap report?,
      s.reportFailures ++ records.filterMap reportFailure?,
      s.triggerFailures ++ records.filterMap triggerFailure?⟩ := by
  induction records generalizing s with
  | nil => simp
  | cons r rest ih =>
    have hsplit : ∀ {α : Type} (f : Record → Option α),
        (r :: rest).filterMap f = (f r).toList ++ rest.filterMap f := by
      intro α f
      rw [List.filterMap_cons]
      cases f r <;> rfl
    rw [List.foldl_cons, ih, add_eq, hsplit report?, hsplit reportFailure?,
      hsplit triggerFailure?]
    simp only [List.append_assoc]

end AssetSummary

section Chains

variable {chains : List Chain} (hids : chains.map (·.id) = List.range chains.length)

include hids

/-- Where chains are numbered from zero, the number of a chain is its place. -/
theorem id_getElem (i : Nat) (hi : i < chains.length) : chains[i].id = i := by
  have hget : (chains.map (·.id))[i]? = some chains[i].id := by
    rw [List.getElem?_map, List.getElem?_eq_getElem hi]
    rfl
  rw [hids, List.getElem?_range hi] at hget
  exact (Option.some.inj hget).symm

theorem getElem?_id {c : Chain} (hc : c ∈ chains) : chains[c.id]? = some c := by
  obtain ⟨i, hi, rfl⟩ := List.mem_iff_getElem.1 hc
  rw [id_getElem hids i hi]
  exact List.getElem?_eq_getElem hi

theorem findIdx?_eq (number : Nat) :
    chains.findIdx? (·.id = number) = if number < chains.length then some number else none := by
  have hid := id_getElem hids
  split
  · next h =>
    rw [List.findIdx?_eq_some_iff_getElem]
    refine ⟨h, decide_eq_true (hid number h), fun j hj => ?_⟩
    rw [hid j (Nat.lt_trans hj h)]
    simpa using Nat.ne_of_lt hj
  · next h =>
    rw [List.findIdx?_eq_none_iff]
    intro c hc
    obtain ⟨i, hi, rfl⟩ := List.mem_iff_getElem.1 hc
    rw [hid i hi]
    exact decide_eq_false fun he => h (he ▸ hi)

theorem addRecord_eq {assets : List AssetSummary} (hlen : assets.length = chains.length)
    (r : Record) : addRecord chains assets r = assets.modify r.chain (·.add r) := by
  unfold addRecord
  rw [findIdx?_eq hids]
  split
  · next hnone =>
    split at hnone
    · cases hnone
    · next h => rw [List.modify_eq_self (by omega)]
  · next index hsome =>
    split at hsome
    · cases hsome
      rfl
    · cases hsome

/-- An asset gets the records of its chain, in their order. -/
theorem getElem?_foldl_addRecord {records : List Record} {assets : List AssetSummary}
    (hlen : assets.length = chains.length) (i : Nat) :
    (records.foldl (addRecord chains) assets)[i]? =
      assets[i]?.map fun a => (records.filter (·.chain = i)).foldl AssetSummary.add a := by
  induction records generalizing assets with
  | nil => simp
  | cons r rest ih =>
    have hstep := addRecord_eq hids hlen r
    rw [List.foldl_cons, hstep, ih (by rw [List.length_modify, hlen]), List.getElem?_modify]
    by_cases hr : r.chain = i
    · rw [List.filter_cons_of_pos (by simpa using hr)]
      cases assets[i]? with
      | none => rfl
      | some a =>
        simp only [Option.map_some, Functor.map, if_pos hr]
        rfl
    · rw [List.filter_cons_of_neg (by simpa using hr)]
      cases assets[i]? with
      | none => rfl
      | some a => simp only [Option.map_some, Functor.map, if_neg hr]

end Chains

/-- The summary of an asset for which these records have been made. -/
def AssetSummary.ofRecords (asset : String) (records : List Record) : AssetSummary :=
  { asset
    reports := records.filterMap report?
    reportFailures := records.filterMap reportFailure?
    triggerFailures := records.filterMap triggerFailure? }

/-- **Adding up.** The summary of an asset is that of the records of its chain. -/
theorem RunSummary.assets_of {chains : List Chain}
    (hids : chains.map (·.id) = List.range chains.length) (records : List Record) :
    (RunSummary.of chains records).assets = (chains.map (·.asset)).mapIdx fun i asset =>
      .ofRecords asset (records.filter (·.chain = i)) := by
  refine List.ext_getElem? fun i => ?_
  unfold RunSummary.of
  dsimp only
  rw [getElem?_foldl_addRecord hids (List.length_map _), List.getElem?_map, List.getElem?_mapIdx,
    List.getElem?_map, Option.map_map, Option.map_map]
  refine congrArg (fun f => chains[i]?.map f) (funext fun c => ?_)
  exact AssetSummary.foldl_add (.start c.asset) _

/-- A block of triggers for each number, one block after the other. -/
def blocks (triggers : List (String × String)) (start count : Nat) :
    List (Nat × String × String) :=
  (List.range' start count).flatMap fun i => triggers.map (i, ·)

theorem length_blocks (triggers : List (String × String)) (start count : Nat) :
    (blocks triggers start count).length = count * triggers.length := by
  induction count generalizing start with
  | zero => exact (Nat.zero_mul _).symm
  | succ count ih =>
    have hrest := ih (start + 1)
    unfold blocks at hrest ⊢
    rw [List.range'_succ, List.flatMap_cons, List.length_append, hrest, List.length_map,
      Nat.succ_mul, Nat.add_comm]

theorem getElem?_blocks {triggers : List (String × String)} {i j count : Nat} (start : Nat)
    (hi : i < count) {t : String × String} (ht : triggers[j]? = some t) :
    (blocks triggers start count)[i * triggers.length + j]? = some (start + i, t) := by
  obtain ⟨hj, -⟩ := List.getElem?_eq_some_iff.1 ht
  induction i generalizing start count with
  | zero =>
    obtain ⟨count, rfl⟩ : ∃ k, count = k + 1 := ⟨count - 1, by omega⟩
    unfold blocks
    rw [List.range'_succ, List.flatMap_cons, Nat.zero_mul, Nat.zero_add,
      List.getElem?_append_left (by rw [List.length_map]; exact hj), List.getElem?_map, ht]
    rfl
  | succ i ih =>
    obtain ⟨count, rfl⟩ : ∃ k, count = k + 1 := ⟨count - 1, by omega⟩
    have hrest := ih (start + 1) (Nat.lt_of_succ_lt_succ hi)
    have hpast : (i + 1) * triggers.length + j =
        triggers.length + (i * triggers.length + j) := by
      rw [Nat.succ_mul]
      omega
    unfold blocks at hrest ⊢
    rw [List.range'_succ, List.flatMap_cons, hpast, List.getElem?_append_right (by simp),
      List.length_map, Nat.add_sub_cancel_left, hrest, Nat.add_assoc, Nat.add_comm 1]

theorem chain_lt_of_mem_blocks {triggers : List (String × String)} {count : Nat}
    {key : Nat × String × String} (h : key ∈ blocks triggers 0 count) : key.1 < count := by
  obtain ⟨i, hi, ht⟩ := List.mem_flatMap.1 h
  obtain ⟨t, -, rfl⟩ := List.mem_map.1 ht
  simpa using hi

/-! ## Runs -/

namespace Session

variable {σ : Type} {session : Session σ} {spec : PipelineSpec} {assets : List String}

theorem exists_built_of_run {stage stage' : Stage σ} {summary : RunSummary}
    (h : session.run spec assets stage = .ok summary stage') :
    ∃ built bench, session.buildAll spec assets ⟨stage.host, 0⟩ = .ok built bench ∧
      summary = .of (built.map (·.chain))
        (Firing.fireAll session.host (Hooks.usual session.host session.setting.config)
          session.setting (built.map (·.chain)) (built.flatMap (·.triggers))
          { stage with host := bench.host }).1 := by
  unfold run at h
  split at h
  · cases h
  · next built bench hbuild =>
    dsimp only at h
    split at h
    · cases h
      exact ⟨built, bench, hbuild, rfl⟩
    · cases h

variable {built : List BuiltChain}

theorem ids_eq (h : List.Forall₂ (BuiltFor spec) assets.zipIdx built) :
    (built.map (·.chain)).map (·.id) = List.range (built.map (·.chain)).length := by
  have hids : built.map (·.chain.id) = assets.zipIdx.map Prod.snd :=
    map_eq_of_forall₂ h fun _ _ hb => hb.id_eq
  rw [List.map_map, List.length_map, ← h.length_eq, List.length_zipIdx, List.range_eq_range',
    ← List.zipIdx_map_snd]
  exact hids

theorem paths_eq (h : List.Forall₂ (BuiltFor spec) assets.zipIdx built) :
    (built.map (·.chain)).map (·.asset) = assets.map AssetPath.normalize := by
  have hpaths : built.map (·.chain.asset) =
      assets.zipIdx.map fun asset => AssetPath.normalize asset.1 :=
    map_eq_of_forall₂ h fun _ _ hb => hb.asset_eq
  have hzip : assets.zipIdx.map (fun asset => AssetPath.normalize asset.1) =
      (assets.zipIdx.map Prod.fst).map AssetPath.normalize := (List.map_map ..).symm
  rw [hzip, List.zipIdx_map_fst] at hpaths
  rw [List.map_map]
  exact hpaths

theorem keys_eq (h : List.Forall₂ (BuiltFor spec) assets.zipIdx built) :
    (built.flatMap (·.triggers)).map Trigger.key = blocks spec.triggers 0 assets.length := by
  have hkeys : built.map (fun b => b.triggers.map Trigger.key) =
      assets.zipIdx.map fun asset => spec.triggers.map (asset.2, ·) :=
    map_eq_of_forall₂ h fun _ _ hb => hb.keys
  unfold blocks
  rw [List.map_flatMap, List.flatMap_def, hkeys, List.flatMap_def, ← List.zipIdx_map_snd,
    List.map_map]
  rfl

theorem length_chains (h : List.Forall₂ (BuiltFor spec) assets.zipIdx built) :
    (built.map (·.chain)).length = assets.length := by
  rw [List.length_map, ← h.length_eq, List.length_zipIdx]

theorem length_triggers (h : List.Forall₂ (BuiltFor spec) assets.zipIdx built) :
    (built.flatMap (·.triggers)).length = assets.length * spec.triggers.length := by
  rw [← List.length_map Trigger.key, keys_eq h, length_blocks]

/-- A report is missing exactly if some hook failed. -/
theorem reportFailures_eq_nil_iff {asset : String} {records : List Record} :
    (AssetSummary.ofRecords asset records).reportFailures = [] ↔
      ∀ r ∈ records, ∀ e, r.outcome ≠ .hookFailed e := by
  unfold AssetSummary.ofRecords AssetSummary.reportFailure?
  rw [List.filterMap_eq_nil_iff]
  refine forall₂_congr fun r _ => ?_
  cases r.outcome <;> simp

/-- **Credit.** A run makes one record of each trigger of each asset, asset by asset and in the
order of the pipeline, and the summary of an asset is that of its own records. So a run has
succeeded exactly if no hook failed. -/
theorem run_credits {stage stage' : Stage σ} {summary : RunSummary}
    (h : session.run spec assets stage = .ok summary stage') :
    summary.triggers.length = assets.length * spec.triggers.length ∧
    (∀ i j t, i < assets.length → spec.triggers[j]? = some t →
      ∃ r, summary.triggers[i * spec.triggers.length + j]? = some r ∧
        r.chain = i ∧ (r.nodeType, r.name) = t) ∧
    (summary.assets = assets.mapIdx fun i asset =>
      .ofRecords (AssetPath.normalize asset) (summary.triggers.filter (·.chain = i))) ∧
    (summary.succeeded = true ↔ ∀ r ∈ summary.triggers, ∀ e, r.outcome ≠ .hookFailed e) := by
  obtain ⟨built, bench, hbuild, hsummary⟩ := exists_built_of_run h
  have hbuilt : List.Forall₂ (BuiltFor spec) assets.zipIdx built := builtFor_of_buildAll hbuild
  have hkeys : summary.triggers.map Record.key = blocks spec.triggers 0 assets.length := by
    rw [hsummary, ← keys_eq hbuilt]
    exact Firing.fireAll_keys ..
  have hassets : summary.assets = assets.mapIdx fun i asset =>
      .ofRecords (AssetPath.normalize asset) (summary.triggers.filter (·.chain = i)) := by
    rw [hsummary, RunSummary.assets_of (ids_eq hbuilt), paths_eq hbuilt,
      List.mapIdx_eq_zipIdx_map, List.mapIdx_eq_zipIdx_map, List.zipIdx_map, List.map_map]
    rfl
  refine ⟨?_, ?_, hassets, ?_⟩
  · rw [← List.length_map Record.key, hkeys, length_blocks]
  · intro i j t hi ht
    have hget := getElem?_blocks 0 hi ht
    rw [← hkeys, List.getElem?_map, Option.map_eq_some_iff, Nat.zero_add] at hget
    obtain ⟨r, hr, hkey⟩ := hget
    cases hkey
    exact ⟨r, hr, rfl, rfl⟩
  · unfold RunSummary.succeeded
    rw [hassets, List.all_eq_true]
    constructor
    · intro hall r hr
      have hown : r.key ∈ blocks spec.triggers 0 assets.length :=
        hkeys ▸ List.mem_map_of_mem hr
      have hlt : r.chain < assets.length := chain_lt_of_mem_blocks hown
      have hempty := of_decide_eq_true (hall _ (List.mem_mapIdx.2 ⟨r.chain, hlt, rfl⟩))
      exact reportFailures_eq_nil_iff.1 hempty r (List.mem_filter.2 ⟨hr, decide_eq_true rfl⟩)
    · intro hnone entry hentry
      obtain ⟨i, hi, rfl⟩ := List.mem_mapIdx.1 hentry
      refine decide_eq_true (reportFailures_eq_nil_iff.2 fun r hr => ?_)
      exact hnone r (List.mem_of_mem_filter hr)

end Session

/-- A host that makes nodes of any type, but has no parameters and presses nothing but `go`. -/
def Host.stubborn : Host Nat where
  perform
    | .createNode _ => fun n => .ok ⟨n⟩ (n + 1)
    | .connectInput _ _ => fun n => .ok () n
    | .findTrigger node name => fun n => .ok (some ⟨node, name⟩) n
    | .findParameter _ _ => fun n => .ok none n
    | .fireTrigger action => fun n =>
      if action.name = "go" then .ok () n else .error (.failed "no") n
    | _ => fun n => .error (.failed "no") n
  saveScene := fun _ s => .ok () s
  reach := fun _ => 0

/-- Two triggers for the host, and then one for the hook. -/
def PipelineSpec.threeTriggers : PipelineSpec :=
  ⟨[⟨"tool", [.press "go", .press "stop"]⟩, ⟨"report_json", [.press "write"]⟩]⟩

theorem Session.run_credits_stubborn :
    ∃ summary stage, run ⟨.stubborn, ⟨{}, ⟨"artist", "ws01"⟩, "08:00"⟩, none⟩ .threeTriggers
        ["a\\b.fbx", "a\\b.fbx"] ⟨7, .empty ["work"], {}⟩ = .ok summary stage ∧
      summary.triggers.length = 6 ∧
      (∃ r, summary.triggers[4]? = some r ∧ r.chain = 1 ∧ (r.nodeType, r.name) = ("tool", "stop")) ∧
      (summary.assets = ["a\\b.fbx", "a\\b.fbx"].mapIdx fun i asset =>
        .ofRecords (AssetPath.normalize asset) (summary.triggers.filter (·.chain = i))) ∧
      summary.succeeded = false := by
  obtain ⟨summary, stage, hrun⟩ : ∃ summary stage,
      run ⟨.stubborn, ⟨{}, ⟨"artist", "ws01"⟩, "08:00"⟩, none⟩ .threeTriggers
        ["a\\b.fbx", "a\\b.fbx"] ⟨7, .empty ["work"], {}⟩ = .ok summary stage := ⟨_, _, rfl⟩
  obtain ⟨hlength, hrecords, hassets, hsucceeded⟩ := run_credits hrun
  refine ⟨summary, stage, hrun, hlength, hrecords 1 1 _ (by decide) rfl, hassets, ?_⟩
  cases hrun
  rfl

end AssetCheck
