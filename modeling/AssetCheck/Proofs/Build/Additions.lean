import AssetCheck.Chain.Build
import AssetCheck.Proofs.Step

/-!
# What a build adds

A node that can be added comes last in its chain, and what its directives assign and press follows
in their order (`exists_of_addNode`). The host gives the handles in it, and nothing else.
-/

namespace AssetCheck

/-- The chain, the position, the type of the node and the name: all but the host's handle. -/
def Trigger.site (t : Trigger) : Nat × Nat × String × String :=
  (t.chain, t.position, t.nodeType, t.name)

/-- The assignment that a directive makes. -/
def Build.assign (subs : Substitutions) (parameter : String × ParamValue) : Assignment :=
  ⟨parameter.1, (resolve subs parameter.2).1, (resolve subs parameter.2).2⟩

/-- The assignments that the directives of a node make. -/
def NodeSpec.assignments (subs : Substitutions) (spec : NodeSpec) : List Assignment :=
  spec.parameters.map (Build.assign subs)

namespace Build

variable {σ : Type} {h : Host σ} {subs : Substitutions} {b b' : Building σ}

/-- A directive that can be followed adds its assignment or its trigger. -/
theorem followDirective_adds {chain position : Nat} {typeName : String} {node : NodeHandle}
    {parts parts' : NodeParts} {directive : Directive}
    (hstep : followDirective h subs chain position typeName node parts directive b =
      .ok parts' b') :
    parts'.assignments = parts.assignments ++ (directive.parameter?.map (assign subs)).toList ∧
      parts'.triggers.map Trigger.site = parts.triggers.map Trigger.site ++
        directive.trigger?.toList.map fun name => (chain, position, typeName, name) := by
  cases directive with
  | set name literal =>
    obtain ⟨parameter?, _, -, hfound⟩ := exists_ok_of_step_bind hstep
    cases parameter? with
    | none => cases hfound
    | some parameter =>
      obtain ⟨_, _, -, hset⟩ := exists_ok_of_step_bind hfound
      cases hset
      exact ⟨rfl, (List.append_nil _).symm⟩
  | press name =>
    obtain ⟨action?, _, -, hfound⟩ := exists_ok_of_step_bind hstep
    cases action? with
    | none => cases hfound
    | some action =>
      cases hfound
      exact ⟨(List.append_nil _).symm, List.map_append⟩

theorem followDirectives_adds {chain position : Nat} {typeName : String} {node : NodeHandle}
    {parts parts' : NodeParts} {directives : List Directive}
    (hsteps : followDirectives h subs chain position typeName node parts directives b =
      .ok parts' b') :
    parts'.assignments =
        parts.assignments ++ (directives.filterMap Directive.parameter?).map (assign subs) ∧
      parts'.triggers.map Trigger.site = parts.triggers.map Trigger.site ++
        (directives.filterMap Directive.trigger?).map
          fun name => (chain, position, typeName, name) := by
  induction directives generalizing parts b with
  | nil =>
    cases hsteps
    exact ⟨(List.append_nil _).symm, (List.append_nil _).symm⟩
  | cons directive rest ih =>
    obtain ⟨next, _, hfirst, hrest⟩ := exists_ok_of_step_bind hsteps
    obtain ⟨hassignments, htriggers⟩ := followDirective_adds hfirst
    obtain ⟨hassignments', htriggers'⟩ := ih hrest
    rw [hassignments', hassignments, htriggers', htriggers, List.append_assoc, List.append_assoc]
    cases directive <;> exact ⟨rfl, rfl⟩

/-- A node that can be added comes last, with what its directives assign, and its triggers come
after those of the nodes before it. -/
theorem exists_of_addNode {built built' : BuiltChain} {spec : NodeSpec}
    (hstep : addNode h subs built spec b = .ok built' b') :
    ∃ node triggers,
      built' = ⟨built.chain.push node spec.typeName (spec.assignments subs),
        built.triggers ++ triggers⟩ ∧
      triggers.map Trigger.site = spec.triggers.map fun name =>
        (built.chain.id, built.chain.nodes.length, spec.typeName, name) := by
  obtain ⟨node, _, -, hnode⟩ := exists_ok_of_step_bind hstep
  obtain ⟨parts, _, hparts, hlast⟩ := exists_ok_of_step_bind hnode
  obtain ⟨hassignments, htriggers⟩ := followDirectives_adds hparts
  refine ⟨node, parts.triggers, ?_, htriggers⟩
  have hpushed : spec.assignments subs = parts.assignments := hassignments.symm
  rw [hpushed]
  cases hprevious : built.chain.nodes.getLast? with
  | none =>
    rw [hprevious] at hlast
    cases hlast
    rfl
  | some previous =>
    rw [hprevious] at hlast
    obtain ⟨_, _, -, hpure⟩ := exists_ok_of_step_bind hlast
    cases hpure
    rfl

end Build

end AssetCheck
