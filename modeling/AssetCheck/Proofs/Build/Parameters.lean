import Mathlib.Data.List.Nodup
import AssetCheck.Proofs.Build.Additions
import AssetCheck.Proofs.Build.SetUp
import AssetCheck.Proofs.Collect.Within
import AssetCheck.Proofs.Pipeline.RoundTrip
import AssetCheck.Proofs.Substitutions

/-!
# The parameters of a chain

A directive sets a parameter to its literal, or to what the literal stands for
(`Substitutions.Resolves`). The scene keeps the value that was set last, and the node of the chain
names the one that was set first; in a well-formed pipeline no node sets a parameter twice, and the
two are the same (`Scene.Shows`, `parameters_land`).
-/

namespace AssetCheck

/-! ## What literals stand for -/

/-- The value that a literal stands for, and where it comes from. -/
inductive Substitutions.Resolves (subs : Substitutions) : ParamValue → ParamValue → Origin → Prop
  | token {token value : String} : (token, value) ∈ subs.entries →
      token.toList.head? = some sigil → Resolves subs (.text token) (.text value) (.token token)
  | literal {literal : ParamValue} :
      (∀ token value, (token, value) ∈ subs.entries → token.toList.head? = some sigil →
        literal ≠ .text token) →
      Resolves subs literal literal .literal

theorem Build.resolve_eq_iff {subs : Substitutions} {literal value : ParamValue} {origin : Origin} :
    resolve subs literal = (value, origin) ↔ subs.Resolves literal value origin := by
  constructor
  · intro h
    unfold resolve at h
    cases hlookup : subs.lookup? literal with
    | some entry =>
      obtain ⟨rfl, hsigil, hmem⟩ := Substitutions.lookup?_eq_some_iff.1 hlookup
      rw [hlookup] at h
      cases h
      exact .token hmem hsigil
    | none =>
      rw [hlookup] at h
      cases h
      refine .literal fun token value hmem hsigil htext => ?_
      have hsome := Substitutions.lookup?_eq_some_iff.2 ⟨htext, hsigil, hmem⟩
      rw [hlookup] at hsome
      cases hsome
  · intro h
    unfold resolve
    cases h with
    | token hmem hsigil => rw [Substitutions.lookup?_eq_some_iff.2 ⟨rfl, hsigil, hmem⟩]
    | literal hother =>
      have hnone : subs.lookup? literal = none := by
        refine Option.eq_none_iff_forall_ne_some.2 fun entry hlookup => ?_
        obtain ⟨htext, hsigil, hmem⟩ := Substitutions.lookup?_eq_some_iff.1 hlookup
        exact hother entry.1 entry.2 hmem hsigil htext
      rw [hnone]

/-! ## What the chain names -/

namespace Build

section AnyHost

variable {σ : Type} {h : Host σ} {subs : Substitutions} {b b' : Building σ}

theorem addNode_assignments {built built' : BuiltChain} {spec : NodeSpec}
    (hstep : addNode h subs built spec b = .ok built' b') :
    built'.chain.nodes.map (·.assignments) =
      built.chain.nodes.map (·.assignments) ++ [spec.assignments subs] := by
  obtain ⟨node, triggers, rfl, -⟩ := exists_of_addNode hstep
  exact List.map_append

theorem addNodes_assignments {specs : List NodeSpec} {built built' : BuiltChain}
    (hsteps : addNodes h subs built specs b = .ok built' b') :
    built'.chain.nodes.map (·.assignments) =
      built.chain.nodes.map (·.assignments) ++ specs.map (NodeSpec.assignments subs) := by
  induction specs generalizing built b with
  | nil =>
    cases hsteps
    exact (List.append_nil _).symm
  | cons spec rest ih =>
    obtain ⟨next, _, hfirst, hrest⟩ := exists_ok_of_step_bind hsteps
    rw [ih hrest, addNode_assignments hfirst, List.append_assoc]
    rfl

end AnyHost

end Build

/-- A chain names what the directives set, in their order, whatever the host. -/
theorem assignments_of_build_ok {σ : Type} {h : Host σ} {spec : PipelineSpec} {subs : Substitutions}
    {bench bench' : Workbench σ} {built : BuiltChain}
    (hbuild : build h spec subs bench = .ok built bench') :
    built.chain.nodes.map (·.assignments) = spec.nodes.map (NodeSpec.assignments subs) := by
  unfold build at hbuild
  dsimp only at hbuild
  split at hbuild
  · next hnodes =>
    cases hbuild
    exact Build.addNodes_assignments hnodes
  · cases hbuild

/-! ## What the scene keeps -/

/-- The value that a parameter has before it is set; the last one, if the type lists several. -/
def NodeType.initial? (type : NodeType) (name : String) : Option ParamValue :=
  Table.get? type.parameters.reverse name

/-- The values that the directives of a node give, in their order. -/
def NodeSpec.values (subs : Substitutions) (spec : NodeSpec) : List (String × ParamValue) :=
  spec.parameters.map fun p => (p.1, (Build.resolve subs p.2).1)

theorem NodeSpec.keys_values (subs : Substitutions) (spec : NodeSpec) :
    Table.keys (spec.values subs) = spec.parameters.map Prod.fst :=
  List.map_map ..

theorem Directive.foldl_setOn (subs : Substitutions) (directives : List Directive)
    (parameters : Table String ParamValue) :
    directives.foldl (setOn subs) parameters =
      ((directives.filterMap parameter?).map fun p => (p.1, (Build.resolve subs p.2).1)).foldl
        (fun t entry => t.insert entry.1 entry.2) parameters := by
  induction directives generalizing parameters with
  | nil => rfl
  | cons directive rest ih =>
    rw [List.foldl_cons, ih]
    cases directive <;> rfl

/-- The last directive for a parameter counts, or else what its type gives. -/
theorem Scene.Fitted.valueOf?_eq_or {s : Scene} {subs : Substitutions} {spec : NodeSpec}
    {node : ChainNode} (h : s.Fitted subs spec node) :
    ∃ type, s.types.get? spec.typeName = some type ∧ ∀ name,
      s.valueOf? node.handle name =
        (Table.get? (spec.values subs).reverse name).or (type.initial? name) := by
  obtain ⟨type, htype, hvalue⟩ := h.valueOf?_eq
  refine ⟨type, htype, fun name => ?_⟩
  rw [hvalue, Directive.foldl_setOn, Table.get?_foldl_insert, Table.get?_ofList]
  rfl

/-! ## Both -/

/-- The scene and a node of a chain both show what the directives of a pipeline's node set, and that
they set nothing else. -/
structure Scene.Shows (s : Scene) (subs : Substitutions) (spec : NodeSpec) (node : ChainNode) :
    Prop where
  set : ∀ name literal, .set name literal ∈ spec.directives → ∃ value origin,
    subs.Resolves literal value origin ∧ s.valueOf? node.handle name = some value ∧
      node.assignment? name = some ⟨name, value, origin⟩
  unset : ∀ name, name ∉ spec.parameters.map Prod.fst → node.assignment? name = none ∧
    ∃ type, s.types.get? spec.typeName = some type ∧
      s.valueOf? node.handle name = type.initial? name

section Shows

variable {s : Scene} {subs : Substitutions} {spec : NodeSpec} {node : ChainNode}

theorem ChainNode.assignment?_of_assignments (h : node.assignments = spec.assignments subs)
    (name : String) :
    node.assignment? name =
      (spec.parameters.find? fun p => p.1 = name).map (Build.assign subs) := by
  unfold ChainNode.assignment?
  rw [h]
  exact List.find?_map

theorem Scene.Fitted.shows (h : s.Fitted subs spec node)
    (hassignments : node.assignments = spec.assignments subs)
    (hnodup : (spec.parameters.map Prod.fst).Nodup) : s.Shows subs spec node := by
  obtain ⟨type, htype, hvalue⟩ := h.valueOf?_eq_or
  have hassignment := ChainNode.assignment?_of_assignments hassignments
  have hkeys : Table.keys (spec.values subs).reverse = (spec.parameters.map Prod.fst).reverse := by
    rw [Table.keys_reverse, NodeSpec.keys_values]
  constructor
  · intro name literal hmem
    have hparameter : (name, literal) ∈ spec.parameters := List.mem_filterMap.2 ⟨_, hmem, rfl⟩
    refine ⟨(Build.resolve subs literal).1, (Build.resolve subs literal).2,
      Build.resolve_eq_iff.1 rfl, ?_, ?_⟩
    · have hlast : (name, (Build.resolve subs literal).1) ∈ (spec.values subs).reverse :=
        List.mem_reverse.2 (List.mem_map.2 ⟨_, hparameter, rfl⟩)
      have hdistinct : (Table.keys (spec.values subs).reverse).Nodup := by
        rw [hkeys]
        exact List.nodup_reverse.2 hnodup
      rw [hvalue, Table.get?_of_mem hdistinct hlast, Option.some_or]
    · rw [hassignment, Table.find?_of_mem hnodup hparameter]
      rfl
  · intro name hmem
    refine ⟨?_, type, htype, ?_⟩
    · rw [hassignment, Option.map_eq_none_iff, List.find?_eq_none]
      exact fun p hp hname => hmem (List.mem_map.2 ⟨p, hp, of_decide_eq_true hname⟩)
    · have hnone : name ∉ Table.keys (spec.values subs).reverse := by
        rw [hkeys, List.mem_reverse]
        exact hmem
      rw [hvalue, Table.get?_eq_none_iff.2 hnone, Option.none_or]

end Shows

/-- **Parameters.** The nodes of a chain show, on the scene and in the chain, what the directives of
a pipeline that was read set; and the nodes that were there before keep their parameters. -/
theorem parameters_land {s : Scene} (hs : s.Reachable) {raw : Json.Value} (hraw : raw.Proper)
    {spec : PipelineSpec} (hspec : PipelineSpec.ofJson raw = .ok spec) (subs : Substitutions)
    {id : Nat} {built : BuiltChain} {bench : Workbench Scene}
    (hbuild : build Scene.host spec subs ⟨s, id⟩ = .ok built bench) :
    built.chain.nodes.length = spec.nodes.length ∧
    (∀ position nodeSpec, spec.nodes[position]? = some nodeSpec →
      ∃ node, built.chain.node? position = some node ∧ bench.host.Shows subs nodeSpec node) ∧
    ∀ handle ∈ s.nodes.keys, ∀ name, bench.host.valueOf? handle name = s.valueOf? handle name := by
  have hfits := (fits_of_build_ok hs.sound hbuild).nodes
  refine ⟨hfits.length_eq.symm, fun position nodeSpec hnodeSpec => ?_, fun handle hmem name => ?_⟩
  · obtain ⟨node, hnode, hfitted⟩ := getElem?_of_forall₂ hfits hnodeSpec
    refine ⟨node, hnode, hfitted.shows ?_ ?_⟩
    · have hat := congrArg (·[position]?) (assignments_of_build_ok hbuild)
      simp only [List.getElem?_map, hnode, hnodeSpec, Option.map_some] at hat
      exact Option.some.inj hat
    · exact (PipelineSpec.wellFormed_of_ofJson hraw hspec nodeSpec
        (List.mem_of_getElem? hnodeSpec)).parameters_nodup
  · exact (builds_of_build_ok hs.sound hbuild).2.grown.within.valueOf?_eq hmem name

/-- What the first token stands for is another token. -/
def Substitutions.chained : Substitutions :=
  ⟨[("$IN", "$OUT"), ("$OUT", "out.fbx")], by decide, by decide⟩

/-- The first node sets its parameter to a token, the second one leaves it. -/
def PipelineSpec.tokensRaw : Json.Value :=
  .object [("nodes", .array
    [.object [("parm_file", .string "$IN"), ("type_name", .string "file")],
      .object [("type_name", .string "report_json"), ("press_write", .null)]])]

def PipelineSpec.tokens : PipelineSpec :=
  ⟨[⟨"file", [.set "file" (.text "$IN")]⟩, ⟨"report_json", [.press "write"]⟩]⟩

def Scene.oneSet : Scene :=
  (Move.ask (.setParameter ⟨⟨1⟩, "file"⟩ (.text "$IN"))).apply
    ((Move.ask (.createNode "file")).apply standard)

/-- The new loader is set to the second token, and the old one stays as it is. -/
theorem parameters_land_chained :
    Scene.oneSet.Reachable ∧ PipelineSpec.tokensRaw.Proper ∧
    PipelineSpec.ofJson PipelineSpec.tokensRaw = .ok .tokens ∧
    ∃ built bench, build Scene.host .tokens .chained ⟨.oneSet, 0⟩ = .ok built bench ∧
      (∃ node, built.chain.node? 0 = some node ∧
        bench.host.valueOf? node.handle "file" = some (.text "$OUT") ∧
        node.assignment? "file" = some ⟨"file", .text "$OUT", .token "$IN"⟩) ∧
      (∃ node, built.chain.node? 1 = some node ∧
        bench.host.valueOf? node.handle "json_path" = some (.text "") ∧
        node.assignment? "json_path" = none) ∧
      bench.host.valueOf? ⟨1⟩ "file" = some (.text "$IN") := by
  have hreachable : Scene.oneSet.Reachable := .move _ (.move _ .standard)
  have hproper : PipelineSpec.tokensRaw.Proper := by
    refine .object (by decide) (List.forall_mem_singleton.2 (.array ?_))
    refine List.forall_mem_cons.2 ⟨.object (by decide) ?_, List.forall_mem_singleton.2
      (.object (by decide) ?_)⟩
    · exact List.forall_mem_cons.2 ⟨.string _, List.forall_mem_singleton.2 (.string _)⟩
    · exact List.forall_mem_cons.2 ⟨.string _, List.forall_mem_singleton.2 .null⟩
  have hread : PipelineSpec.ofJson PipelineSpec.tokensRaw = .ok .tokens := rfl
  obtain ⟨built, t, hbuild, hbuilds⟩ := build_ok hreachable.sound .tokens .chained 0 rfl
  obtain ⟨-, hnodes, hold⟩ := parameters_land hreachable hproper hread .chained hbuild
  obtain ⟨loader, hloader, hset⟩ := hnodes 0 _ rfl
  obtain ⟨report, hreport, hunset⟩ := hnodes 1 _ rfl
  obtain ⟨value, origin, hvalue, hkept, hnamed⟩ := hset.set "file" (.text "$IN") (.head _)
  cases Build.resolve_eq_iff.2 hvalue
  obtain ⟨hnone, type, htype, hinitial⟩ := hunset.unset "json_path" List.not_mem_nil
  rw [hbuilds.grown.types] at htype
  cases htype
  exact ⟨hreachable, hproper, hread, built, _, hbuild, ⟨loader, hloader, hkept, hnamed⟩,
    ⟨report, hreport, hinitial, hnone⟩, hold ⟨1⟩ (.head _) "file"⟩

end AssetCheck
