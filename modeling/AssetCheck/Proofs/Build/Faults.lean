import AssetCheck.Failure
import AssetCheck.Proofs.Build.Outcome

/-!
# What ends a build

Which pipelines can be built with some registered types (`PipelineSpec.Registered`), and which fault
is the first one of any other (`PipelineSpec.FirstFault`), is said here without reference to how
chains are built: nodes count in their order, in a node its type comes first, and then its
directives in theirs. On a reachable scene a build ends in the one or the other, and in no other way
(`build_ends`).
-/

namespace AssetCheck

/-! ## Directives -/

/-- Nodes of the type have the parameter to set, or the trigger to press. -/
def NodeType.Has (type : NodeType) : Directive → Prop
  | .set name _ => name ∈ type.parameters.map Prod.fst
  | .press name => name ∈ type.triggers

/-- What a directive asks for and nodes of the type lack. -/
inductive NodeType.Lacks (type : NodeType) (typeName : String) : Directive → BuildError → Prop
  | parameter {name : String} (literal : ParamValue) : name ∉ type.parameters.map Prod.fst →
      Lacks type typeName (.set name literal) (.unknownParameter typeName name)
  | trigger {name : String} : name ∉ type.triggers →
      Lacks type typeName (.press name) (.unknownTrigger typeName name)

theorem NodeType.fault?_eq_none_iff {type : NodeType} {typeName : String} {directive : Directive} :
    type.fault? typeName directive = none ↔ type.Has directive := by
  cases directive with
  | set name literal => exact fault?_set_eq_none_iff
  | press name => exact fault?_press_eq_none_iff

theorem NodeType.fault?_eq_some_iff {type : NodeType} {typeName : String} {directive : Directive}
    {e : BuildError} :
    type.fault? typeName directive = some e ↔ type.Lacks typeName directive e := by
  constructor
  · intro h
    cases directive with
    | set name literal =>
      obtain ⟨hlacks, rfl⟩ := fault?_set_eq_some h
      exact .parameter literal hlacks
    | press name =>
      obtain ⟨hlacks, rfl⟩ := fault?_press_eq_some h
      exact .trigger hlacks
  · intro h
    cases h with
    | parameter literal hlacks => exact if_neg hlacks
    | trigger hlacks => exact if_neg hlacks

/-! ## Nodes -/

/-- The type of the node is registered, and has what the directives ask for. -/
def NodeSpec.Registered (types : Table String NodeType) (spec : NodeSpec) : Prop :=
  ∃ type, types.get? spec.typeName = some type ∧ ∀ directive ∈ spec.directives, type.Has directive

/-- The first reason why a node cannot be made. -/
inductive NodeSpec.FirstFault (types : Table String NodeType) : NodeSpec → BuildError → Prop
  | type {spec : NodeSpec} : types.get? spec.typeName = none →
      FirstFault types spec (.unknownNodeType spec.typeName)
  | directive {typeName : String} {type : NodeType} {before after : List Directive}
      {directive : Directive} {e : BuildError} : types.get? typeName = some type →
      (∀ earlier ∈ before, type.Has earlier) → type.Lacks typeName directive e →
      FirstFault types ⟨typeName, before ++ directive :: after⟩ e

theorem NodeSpec.fault?_eq_none_iff {types : Table String NodeType} {spec : NodeSpec} :
    spec.fault? types = none ↔ spec.Registered types := by
  unfold fault? Registered
  cases types.get? spec.typeName with
  | none => simp
  | some type => simp [List.findSome?_eq_none_iff, NodeType.fault?_eq_none_iff]

theorem NodeSpec.fault?_eq_some_iff {types : Table String NodeType} {spec : NodeSpec}
    {e : BuildError} : spec.fault? types = some e ↔ spec.FirstFault types e := by
  constructor
  · intro h
    unfold fault? at h
    split at h
    · next hnone =>
      cases h
      exact .type hnone
    · next type htype =>
      obtain ⟨before, directive, after, hsplit, hfault, hbefore⟩ := List.findSome?_eq_some_iff.1 h
      obtain ⟨typeName, directives⟩ := spec
      obtain rfl : directives = before ++ directive :: after := hsplit
      exact .directive htype (fun earlier hmem => NodeType.fault?_eq_none_iff.1 (hbefore _ hmem))
        (NodeType.fault?_eq_some_iff.1 hfault)
  · intro h
    unfold fault?
    cases h with
    | type hnone => rw [hnone]
    | directive htype hbefore hlacks =>
      rw [htype]
      exact List.findSome?_eq_some_iff.2 ⟨_, _, _, rfl, NodeType.fault?_eq_some_iff.2 hlacks,
        fun earlier hmem => NodeType.fault?_eq_none_iff.2 (hbefore _ hmem)⟩

/-! ## Pipelines -/

/-- All nodes are registered, with what they ask for. -/
def PipelineSpec.Registered (types : Table String NodeType) (spec : PipelineSpec) : Prop :=
  ∀ node ∈ spec.nodes, node.Registered types

/-- The first reason why a pipeline cannot be built. -/
inductive PipelineSpec.FirstFault (types : Table String NodeType) :
    PipelineSpec → BuildError → Prop
  | node {before after : List NodeSpec} {node : NodeSpec} {e : BuildError} :
      (∀ earlier ∈ before, earlier.Registered types) → node.FirstFault types e →
      FirstFault types ⟨before ++ node :: after⟩ e

theorem PipelineSpec.fault?_eq_none_iff {types : Table String NodeType} {spec : PipelineSpec} :
    spec.fault? types = none ↔ spec.Registered types := by
  unfold fault? Registered
  simp only [List.findSome?_eq_none_iff, NodeSpec.fault?_eq_none_iff]

theorem PipelineSpec.fault?_eq_some_iff {types : Table String NodeType} {spec : PipelineSpec}
    {e : BuildError} : spec.fault? types = some e ↔ spec.FirstFault types e := by
  constructor
  · intro h
    obtain ⟨before, node, after, hsplit, hfault, hbefore⟩ := List.findSome?_eq_some_iff.1 h
    obtain ⟨nodes⟩ := spec
    obtain rfl : nodes = before ++ node :: after := hsplit
    exact .node (fun earlier hmem => NodeSpec.fault?_eq_none_iff.1 (hbefore _ hmem))
      (NodeSpec.fault?_eq_some_iff.1 hfault)
  · rintro ⟨hbefore, hfault⟩
    exact List.findSome?_eq_some_iff.2 ⟨_, _, _, rfl, NodeSpec.fault?_eq_some_iff.2 hfault,
      fun earlier hmem => NodeSpec.fault?_eq_none_iff.2 (hbefore _ hmem)⟩

/-- A fault of a pipeline is no error of the host. -/
theorem PipelineSpec.FirstFault.isSpecDefect {types : Table String NodeType} {spec : PipelineSpec}
    {e : BuildError} (h : spec.FirstFault types e) : e.isSpecDefect = true := by
  obtain ⟨-, hnode⟩ := h
  cases hnode with
  | type _ => rfl
  | directive _ _ hlacks => cases hlacks <;> rfl

theorem BuildError.ne_host_of_isSpecDefect {e : BuildError} (h : e.isSpecDefect = true)
    (cause : HostError) : e ≠ .host cause := by
  rintro rfl
  cases h

/-! ## Builds -/

section Ends

open Scene (host)

variable {s : Scene} (hs : s.Sound) {spec : PipelineSpec} {subs : Substitutions} {id : Nat}

include hs

theorem exists_build_ok_iff :
    (∃ built bench, build host spec subs ⟨s, id⟩ = .ok built bench) ↔
      spec.fault? s.types = none := by
  constructor
  · rintro ⟨built, bench, hbuild⟩
    refine Option.eq_none_iff_forall_ne_some.2 fun e hfault => ?_
    obtain ⟨t, created, -, herror⟩ := build_error hs spec subs id hfault
    rw [herror] at hbuild
    cases hbuild
  · intro hfault
    obtain ⟨built, t, hbuild, -⟩ := build_ok hs spec subs id hfault
    exact ⟨built, _, hbuild⟩

theorem exists_build_error_iff {e : BuildError} :
    (∃ bench, build host spec subs ⟨s, id⟩ = .error e bench) ↔ spec.fault? s.types = some e := by
  constructor
  · rintro ⟨bench, hbuild⟩
    cases hfault : spec.fault? s.types with
    | none =>
      obtain ⟨built, t, hok, -⟩ := build_ok hs spec subs id hfault
      rw [hok] at hbuild
      cases hbuild
    | some fault =>
      obtain ⟨t, created, -, herror⟩ := build_error hs spec subs id hfault
      rw [herror] at hbuild
      cases hbuild
      rfl
  · intro hfault
    obtain ⟨t, created, -, herror⟩ := build_error hs spec subs id hfault
    exact ⟨_, herror⟩

end Ends

/-- **Ends.** On a reachable scene a build succeeds exactly if all nodes are registered, with what
they ask for. It fails exactly with the first fault of its pipeline, which is never an error of the
host, and for which the pipeline is to blame. -/
theorem build_ends {s : Scene} (hs : s.Reachable) (spec : PipelineSpec) (subs : Substitutions)
    (id : Nat) :
    ((∃ built bench, build Scene.host spec subs ⟨s, id⟩ = .ok built bench) ↔
      spec.Registered s.types) ∧
    (∀ e, (∃ bench, build Scene.host spec subs ⟨s, id⟩ = .error e bench) ↔
      spec.FirstFault s.types e) ∧
    ∀ e bench, build Scene.host spec subs ⟨s, id⟩ = .error e bench →
      (∀ cause, e ≠ .host cause) ∧ (Failure.build e).isSpecDefect = true := by
  have herror : ∀ e, (∃ bench, build Scene.host spec subs ⟨s, id⟩ = .error e bench) ↔
      spec.FirstFault s.types e := fun e =>
    (exists_build_error_iff hs.sound).trans PipelineSpec.fault?_eq_some_iff
  refine ⟨(exists_build_ok_iff hs.sound).trans PipelineSpec.fault?_eq_none_iff, herror, ?_⟩
  intro e bench hbuild
  have hdefect := ((herror e).1 ⟨bench, hbuild⟩).isSpecDefect
  exact ⟨BuildError.ne_host_of_isSpecDefect hdefect, hdefect⟩

/-- The second node lacks a trigger and a parameter, and the third one is of an unknown type. -/
def PipelineSpec.threeFaults : PipelineSpec :=
  ⟨[⟨"file", [.set "file" (.text "a.fbx")]⟩,
    ⟨"report_json", [.press "write", .press "explode", .set "file" (.int 1)]⟩,
    ⟨"check_unknown", []⟩]⟩

/-- The trigger is what ends the build. -/
theorem build_ends_three_faults :
    Scene.standard.Reachable ∧ ¬ PipelineSpec.threeFaults.Registered Scene.standard.types ∧
    (∃ bench, build Scene.host .threeFaults .empty ⟨.standard, 0⟩ =
      .error (.unknownTrigger "report_json" "explode") bench) ∧
    (Failure.build (.unknownTrigger "report_json" "explode")).isSpecDefect = true := by
  obtain ⟨hok, herror, hdefect⟩ := build_ends .standard .threeFaults .empty 0
  have hloader : NodeSpec.Registered Scene.standard.types
      ⟨"file", [.set "file" (.text "a.fbx")]⟩ :=
    ⟨_, rfl, List.forall_mem_singleton.2 (.head _)⟩
  have htrigger : NodeSpec.FirstFault Scene.standard.types
      ⟨"report_json", [.press "write"] ++ .press "explode" :: [.set "file" (.int 1)]⟩
      (.unknownTrigger "report_json" "explode") :=
    .directive rfl (List.forall_mem_singleton.2 (.head _)) (.trigger (by decide))
  obtain ⟨bench, hbuild⟩ := (herror _).2 <|
    @PipelineSpec.FirstFault.node _ [_] [_] _ _ (List.forall_mem_singleton.2 hloader) htrigger
  refine ⟨.standard, fun hregistered => ?_, ⟨bench, hbuild⟩, (hdefect _ _ hbuild).2⟩
  obtain ⟨built, bench', hbuilt⟩ := hok.2 hregistered
  rw [hbuild] at hbuilt
  cases hbuilt

end AssetCheck
