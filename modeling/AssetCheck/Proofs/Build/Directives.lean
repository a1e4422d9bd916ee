import AssetCheck.Chain.Build
import AssetCheck.Proofs.Scene.Answers
import AssetCheck.Proofs.Scene.Sound

/-!
# Following the directives of a new node

A pipeline is at fault where it names a type, a parameter or a trigger that is not registered; the
first such place decides how a build ends (`PipelineSpec.fault?`). It depends on the registered
types alone, and not on the nodes of the scene or on the asset. Directives without a fault are
followed to the end and change the parameters of the new node only (`followDirectives_ok`).
-/

namespace AssetCheck

/-! ## Faults -/

/-- What a directive asks for that nodes of a type do not have. -/
def NodeType.fault? (type : NodeType) (typeName : String) : Directive → Option BuildError
  | .set name _ =>
    if name ∈ type.parameters.map Prod.fst then none else some (.unknownParameter typeName name)
  | .press name => if name ∈ type.triggers then none else some (.unknownTrigger typeName name)

theorem NodeType.fault?_set_eq_none_iff {type : NodeType} {typeName name : String}
    {literal : ParamValue} :
    type.fault? typeName (.set name literal) = none ↔ name ∈ type.parameters.map Prod.fst := by
  unfold fault?
  by_cases h : name ∈ type.parameters.map Prod.fst <;> simp [h]

theorem NodeType.fault?_press_eq_none_iff {type : NodeType} {typeName name : String} :
    type.fault? typeName (.press name) = none ↔ name ∈ type.triggers := by
  unfold fault?
  by_cases h : name ∈ type.triggers <;> simp [h]

theorem NodeType.fault?_set_eq_some {type : NodeType} {typeName name : String}
    {literal : ParamValue}
    {e : BuildError} (h : type.fault? typeName (.set name literal) = some e) :
    name ∉ type.parameters.map Prod.fst ∧ e = .unknownParameter typeName name := by
  dsimp only [fault?] at h
  split at h
  · cases h
  · next hmem => exact ⟨hmem, (Option.some.inj h).symm⟩

theorem NodeType.fault?_press_eq_some {type : NodeType} {typeName name : String} {e : BuildError}
    (h : type.fault? typeName (.press name) = some e) :
    name ∉ type.triggers ∧ e = .unknownTrigger typeName name := by
  dsimp only [fault?] at h
  split at h
  · cases h
  · next hmem => exact ⟨hmem, (Option.some.inj h).symm⟩

/-- The first thing that a node asks for and that is not registered. -/
def NodeSpec.fault? (types : Table String NodeType) (spec : NodeSpec) : Option BuildError :=
  match types.get? spec.typeName with
  | none => some (.unknownNodeType spec.typeName)
  | some type => spec.directives.findSome? (type.fault? spec.typeName)

/-- The first thing that a pipeline asks for and that is not registered. -/
def PipelineSpec.fault? (types : Table String NodeType) (spec : PipelineSpec) : Option BuildError :=
  spec.nodes.findSome? (NodeSpec.fault? types)

/-! ## What directives give -/

/-- The parameters of a node after a directive. -/
def Directive.setOn (subs : Substitutions) (parameters : Table String ParamValue) :
    Directive → Table String ParamValue
  | .set name literal => parameters.insert name (Build.resolve subs literal).1
  | .press _ => parameters

def NodeParts.follow (subs : Substitutions) (chain position : Nat) (typeName : String)
    (handle : NodeHandle) (parts : NodeParts) : Directive → NodeParts
  | .set name literal =>
    let (value, origin) := Build.resolve subs literal
    { parts with assignments := parts.assignments ++ [{ name, value, origin }] }
  | .press name =>
    let trigger : Trigger :=
      { chain, position, nodeType := typeName, name, action := ⟨handle, name⟩ }
    { parts with triggers := parts.triggers ++ [trigger] }

theorem Directive.mem_keys_setOn {subs : Substitutions} {parameters : Table String ParamValue}
    {type : NodeType} (h : ∀ name, name ∈ parameters.keys ↔ name ∈ type.parameters.map Prod.fst)
    {typeName : String} {directive : Directive} (hd : type.fault? typeName directive = none)
    (name : String) :
    name ∈ (directive.setOn subs parameters).keys ↔ name ∈ type.parameters.map Prod.fst := by
  cases directive with
  | press other => exact h name
  | set other literal =>
    have hmem := NodeType.fault?_set_eq_none_iff.1 hd
    dsimp only [setOn]
    rw [Table.mem_keys_insert, h]
    exact ⟨fun ho => ho.elim (fun he => he ▸ hmem) id, Or.inr⟩

/-! ## A node at the end of a scene -/

namespace Scene

theorem updateNode_add {s : Scene} {handle : NodeHandle} (h : handle ∉ s.nodes.keys) (n : SceneNode)
    (change : SceneNode → SceneNode) :
    (s.add handle n).updateNode handle change = s.add handle (change n) := by
  have hold : s.nodes.map
      (fun entry => if entry.1 = handle then (entry.1, change entry.2) else entry) =
      s.nodes.map id :=
    List.map_congr_left fun entry hmem =>
      if_neg fun he : entry.1 = handle => h (he ▸ List.mem_map_of_mem hmem)
  unfold updateNode add
  rw [List.map_append, hold, List.map_id, List.map_singleton, if_pos rfl]

end Scene

namespace Build

open Scene (host)

section NewNode

variable {s : Scene} {handle : NodeHandle} {type : NodeType} {typeName : String}
  (hfresh : handle ∉ s.nodes.keys) (htype : s.types.get? typeName = some type)
  (subs : Substitutions) (chain position : Nat) (created : List NodeHandle)

theorem ask_ok {α : Type} {request : EStateM HostError Scene α} {s t : Scene} {a : α}
    (h : request s = .ok a t) (created : List NodeHandle) :
    ask request ⟨s, created⟩ = .ok a ⟨t, created⟩ := by
  unfold ask
  simp only [h]

include hfresh htype

theorem followDirective_ok {n : SceneNode} (hn : n.typeName = typeName)
    (hkeys : ∀ name, name ∈ n.parameters.keys ↔ name ∈ type.parameters.map Prod.fst)
    (parts : NodeParts) {directive : Directive} (hd : type.fault? typeName directive = none) :
    followDirective host subs chain position typeName handle parts directive
      ⟨s.add handle n, created⟩ =
      .ok (parts.follow subs chain position typeName handle directive)
        ⟨s.add handle { n with parameters := directive.setOn subs n.parameters }, created⟩ := by
  have hget := Scene.get?_add_self hfresh n
  cases directive with
  | set name literal =>
    have hname := (hkeys name).2 (NodeType.fault?_set_eq_none_iff.1 hd)
    have hfind := Scene.findParameter_eq hget name
    rw [if_pos hname] at hfind
    have hset := Scene.setParameter_of_mem hget hname (resolve subs literal).1
    rw [Scene.updateNode_add hfresh] at hset
    dsimp only [followDirective]
    rw [bind_ok (ask_ok hfind created)]
    exact bind_ok (ask_ok hset created)
  | press name =>
    have hfind := Scene.findTrigger_eq hget (by rw [hn]; exact htype) name
    rw [if_pos (NodeType.fault?_press_eq_none_iff.1 hd)] at hfind
    dsimp only [followDirective]
    rw [bind_ok (ask_ok hfind created)]
    rfl

theorem followDirective_error {n : SceneNode} (hn : n.typeName = typeName)
    (hkeys : ∀ name, name ∈ n.parameters.keys ↔ name ∈ type.parameters.map Prod.fst)
    (parts : NodeParts) {directive : Directive} {e : BuildError}
    (hd : type.fault? typeName directive = some e) :
    followDirective host subs chain position typeName handle parts directive
      ⟨s.add handle n, created⟩ =
      .error e ⟨s.add handle n, created⟩ := by
  have hget := Scene.get?_add_self hfresh n
  cases directive with
  | set name literal =>
    obtain ⟨hmem, rfl⟩ := NodeType.fault?_set_eq_some hd
    have hfind := Scene.findParameter_eq hget name
    rw [if_neg fun hname => hmem ((hkeys name).1 hname)] at hfind
    dsimp only [followDirective]
    rw [bind_ok (ask_ok hfind created)]
    rfl
  | press name =>
    obtain ⟨hmem, rfl⟩ := NodeType.fault?_press_eq_some hd
    have hfind := Scene.findTrigger_eq hget (by rw [hn]; exact htype) name
    rw [if_neg hmem] at hfind
    dsimp only [followDirective]
    rw [bind_ok (ask_ok hfind created)]
    rfl

theorem followDirectives_ok {directives : List Directive} {n : SceneNode}
    (hn : n.typeName = typeName)
    (hkeys : ∀ name, name ∈ n.parameters.keys ↔ name ∈ type.parameters.map Prod.fst)
    (parts : NodeParts) (hd : directives.findSome? (type.fault? typeName) = none) :
    followDirectives host subs chain position typeName handle parts directives
        ⟨s.add handle n, created⟩ =
      .ok (directives.foldl (NodeParts.follow subs chain position typeName handle) parts)
        ⟨s.add handle { n with parameters := directives.foldl (Directive.setOn subs) n.parameters },
          created⟩ := by
  induction directives generalizing n parts with
  | nil => rfl
  | cons directive rest ih =>
    rw [List.findSome?_cons] at hd
    split at hd
    · cases hd
    · next hfirst =>
      unfold followDirectives
      rw [bind_ok
        (followDirective_ok hfresh htype subs chain position created hn hkeys parts hfirst)]
      exact ih (n := { n with parameters := directive.setOn subs n.parameters }) hn
        (Directive.mem_keys_setOn hkeys hfirst) _ hd

/-- The first directive at fault ends the building of its node. -/
theorem followDirectives_error {directives : List Directive} {n : SceneNode}
    (hn : n.typeName = typeName)
    (hkeys : ∀ name, name ∈ n.parameters.keys ↔ name ∈ type.parameters.map Prod.fst)
    (parts : NodeParts) {e : BuildError}
    (hd : directives.findSome? (type.fault? typeName) = some e) :
    ∃ parameters,
      followDirectives host subs chain position typeName handle parts directives
          ⟨s.add handle n, created⟩ =
        .error e ⟨s.add handle { n with parameters }, created⟩ := by
  induction directives generalizing n parts with
  | nil => cases hd
  | cons directive rest ih =>
    rw [List.findSome?_cons] at hd
    split at hd
    · next hfirst =>
      cases hd
      refine ⟨n.parameters, ?_⟩
      unfold followDirectives
      exact bind_error
        (followDirective_error hfresh htype subs chain position created hn hkeys parts hfirst)
    · next hfirst =>
      obtain ⟨parameters, hrest⟩ :=
        ih (n := { n with parameters := directive.setOn subs n.parameters }) hn
        (Directive.mem_keys_setOn hkeys hfirst)
        (parts.follow subs chain position typeName handle directive) hd
      refine ⟨parameters, ?_⟩
      unfold followDirectives
      rw [bind_ok
        (followDirective_ok hfresh htype subs chain position created hn hkeys parts hfirst)]
      exact hrest

end NewNode

end Build

end AssetCheck
