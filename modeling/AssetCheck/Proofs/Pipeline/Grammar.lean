import AssetCheck.Pipeline.Json
import AssetCheck.Proofs.Traversal

/-!
# The grammar of pipelines

Which JSON values describe pipelines, and which pipeline each of them describes
(`PipelineSpec.DescribedBy`), is said here without reference to how they are read. So is the first
defect of a value that describes none (`PipelineSpec.FirstDefect`): elements count in their order,
in an element its type comes first, and then its members in theirs. Each value either describes a
pipeline or has a first defect (`describes_or_defect`), and reading finds the one or the other.
-/

namespace AssetCheck

/-! ## Scalars -/

namespace Json.Value

def IsScalar : Value → Prop
  | .bool _ | .number _ | .string _ => True
  | .null | .array _ | .object _ => False

/-- The value of a parameter that a scalar stands for. -/
inductive StandsFor : Value → ParamValue → Prop
  | bool (b : Bool) : StandsFor (.bool b) (.bool b)
  | whole (n : Int64) : StandsFor (.int n.toInt) (.int n)
  | beyond {n : Int} : (∀ k : Int64, k.toInt ≠ n) → StandsFor (.int n) (.float (nearestFloat n))
  | float (x : Float) : StandsFor (.number (.float x)) (.float x)
  | text (s : String) : StandsFor (.string s) (.text s)

end Json.Value

theorem int64?_toInt (n : Int64) : int64? n.toInt = some n := by
  unfold int64?
  rw [if_pos ⟨Int64.minValue_le_toInt n, Int64.toInt_le n⟩, Int64.ofInt_toInt]

/-- A whole number either has 64 bits with a sign or is beyond them. -/
theorem int64?_cases (n : Int) :
    (∃ k : Int64, k.toInt = n ∧ int64? n = some k) ∨
      (∀ k : Int64, k.toInt ≠ n) ∧ int64? n = none := by
  by_cases h : ∃ k : Int64, k.toInt = n
  · obtain ⟨k, rfl⟩ := h
    exact .inl ⟨k, rfl, int64?_toInt k⟩
  · have hne : ∀ k : Int64, k.toInt ≠ n := fun k hk => h ⟨k, hk⟩
    refine .inr ⟨hne, if_neg fun hrange => ?_⟩
    exact hne (Int64.ofInt n) (Int64.toInt_ofInt_of_le hrange.1 (Int.lt_add_one_of_le hrange.2))

theorem int64?_eq_none {n : Int} (h : ∀ k : Int64, k.toInt ≠ n) : int64? n = none := by
  rcases int64?_cases n with ⟨k, hk, -⟩ | ⟨-, hnone⟩
  · exact absurd hk (h k)
  · exact hnone

namespace ParamValue

theorem ofJson?_of_standsFor {v : Json.Value} {x : ParamValue} (h : v.StandsFor x) :
    ofJson? v = some x := by
  cases h with
  | bool b => rfl
  | whole n =>
    show some ((int64? n.toInt).elim _ ParamValue.int) = _
    rw [int64?_toInt]
    rfl
  | @beyond n hn =>
    show some ((int64? n).elim _ ParamValue.int) = _
    rw [int64?_eq_none hn]
    rfl
  | float x => rfl
  | text s => rfl

theorem exists_standsFor {v : Json.Value} (h : v.IsScalar) : ∃ x, v.StandsFor x := by
  cases v with
  | null => cases h
  | bool b => exact ⟨_, .bool b⟩
  | number n =>
    cases n with
    | int n =>
      rcases int64?_cases n with ⟨k, rfl, -⟩ | ⟨hne, -⟩
      · exact ⟨_, .whole k⟩
      · exact ⟨_, .beyond hne⟩
    | float x => exact ⟨_, .float x⟩
  | string s => exact ⟨_, .text s⟩
  | array vs => cases h
  | object ms => cases h

theorem ofJson?_eq_none {v : Json.Value} (h : ¬ v.IsScalar) : ofJson? v = none := by
  cases v with
  | null | array _ | object _ => rfl
  | bool _ | number _ | string _ => exact absurd trivial h

end ParamValue

/-! ## Directives -/

/-- The directive that a member of a node describes. -/
inductive Directive.DescribedBy : String × Json.Value → Directive → Prop
  | parameter {name : String} {value : Json.Value} {x : ParamValue} : name ≠ "" →
      value.StandsFor x → DescribedBy (PipelineSpec.parameterLead ++ name, value) (.set name x)
  | trigger {name : String} (value : Json.Value) : name ≠ "" →
      DescribedBy (PipelineSpec.triggerLead ++ name, value) (.press name)

/-- Why a member of the node at an index describes no directive. -/
inductive Directive.Defect (index : Nat) : String × Json.Value → SpecError → Prop
  | badValue {name : String} {value : Json.Value} : name ≠ "" → ¬ value.IsScalar →
      Defect index (PipelineSpec.parameterLead ++ name, value)
        (.badValue index (PipelineSpec.parameterLead ++ name))
  | unknownKey {key : String} (value : Json.Value) :
      (∀ name, name ≠ "" → key ≠ PipelineSpec.parameterLead ++ name) →
      (∀ name, name ≠ "" → key ≠ PipelineSpec.triggerLead ++ name) →
      Defect index (key, value) (.unknownKey index key)

theorem Text.after?_eq_some_iff {lead s rest : String} :
    after? lead s = some rest ↔ s = lead ++ rest := by
  unfold after?
  rw [Option.map_eq_some_iff]
  constructor
  · rintro ⟨cs, hcs, rfl⟩
    apply String.toList_inj.1
    rw [← List.isPrefixOf?_eq_some_iff_append_eq.1 hcs, String.toList_append, String.toList_ofList]
  · rintro rfl
    refine ⟨rest.toList, ?_, String.ofList_toList⟩
    rw [List.isPrefixOf?_eq_some_iff_append_eq, String.toList_append]

namespace PipelineSpec

theorem nameAfter?_eq_some_iff {lead key name : String} :
    nameAfter? lead key = some name ↔ name ≠ "" ∧ key = lead ++ name := by
  unfold nameAfter?
  rw [Option.filter_eq_some_iff, Text.after?_eq_some_iff]
  simp [and_comm]

theorem nameAfter?_eq_none {lead key : String} (h : ∀ name, name ≠ "" → key ≠ lead ++ name) :
    nameAfter? lead key = none := by
  rw [Option.eq_none_iff_forall_ne_some]
  intro name hname
  obtain ⟨hne, hkey⟩ := nameAfter?_eq_some_iff.1 hname
  exact h name hne hkey

/-- The two leads differ in their second character. -/
theorem parameter_ne_trigger (name other : String) :
    parameterLead ++ name ≠ triggerLead ++ other := by
  intro h
  have hlist := congrArg String.toList h
  rw [String.toList_append, String.toList_append,
    show parameterLead.toList = 'p' :: 'a' :: ['r', 'm', '_'] by decide,
    show triggerLead.toList = 'p' :: 'r' :: ['e', 's', 's', '_'] by decide] at hlist
  simp at hlist

theorem readDirective_of_described {index : Nat} {m : String × Json.Value} {d : Directive}
    (h : d.DescribedBy m) : readDirective index m.1 m.2 = .ok d := by
  unfold readDirective
  cases h with
  | parameter hname hvalue =>
    rw [nameAfter?_eq_some_iff.2 ⟨hname, rfl⟩, ParamValue.ofJson?_of_standsFor hvalue]
  | trigger value hname =>
    rw [nameAfter?_eq_none fun other _ => (parameter_ne_trigger other _).symm,
      nameAfter?_eq_some_iff.2 ⟨hname, rfl⟩]

theorem readDirective_of_defect {index : Nat} {m : String × Json.Value} {e : SpecError}
    (h : Directive.Defect index m e) : readDirective index m.1 m.2 = .error e := by
  unfold readDirective
  cases h with
  | badValue hname hvalue =>
    rw [nameAfter?_eq_some_iff.2 ⟨hname, rfl⟩, ParamValue.ofJson?_eq_none hvalue]
  | unknownKey value hparameter htrigger =>
    rw [nameAfter?_eq_none hparameter, nameAfter?_eq_none htrigger]

theorem directive_or_defect (index : Nat) (m : String × Json.Value) :
    (∃ d, Directive.DescribedBy m d) ∨ ∃ e, Directive.Defect index m e := by
  obtain ⟨key, value⟩ := m
  by_cases hparameter : ∃ name, name ≠ "" ∧ key = parameterLead ++ name
  · obtain ⟨name, hname, rfl⟩ := hparameter
    by_cases hvalue : value.IsScalar
    · obtain ⟨x, hx⟩ := ParamValue.exists_standsFor hvalue
      exact .inl ⟨_, .parameter hname hx⟩
    · exact .inr ⟨_, .badValue hname hvalue⟩
  · by_cases htrigger : ∃ name, name ≠ "" ∧ key = triggerLead ++ name
    · obtain ⟨name, hname, rfl⟩ := htrigger
      exact .inl ⟨_, .trigger value hname⟩
    · exact .inr ⟨_, .unknownKey value (fun name hname hkey => hparameter ⟨name, hname, hkey⟩)
        fun name hname hkey => htrigger ⟨name, hname, hkey⟩⟩

/-! ## Nodes -/

/-- No member tells the type of a node. -/
def Untyped (members : Table String Json.Value) : Prop := ∀ m ∈ members, isTypeKey m.1 = false

end PipelineSpec

/-- A name with a character that can be seen. -/
def Text.IsVisible (name : String) : Prop := ∃ c ∈ name.toList, isBlank c = false

/-- The node that an element of a pipeline describes. One member tells its type, and the others
describe its directives in their order. -/
inductive NodeSpec.DescribedBy : Json.Value → NodeSpec → Prop
  | record {before after : Table String Json.Value} {key typeName : String}
      {directives : List Directive} : PipelineSpec.isTypeKey key = true →
      PipelineSpec.Untyped (before ++ after) → Text.IsVisible typeName →
      List.Forall₂ Directive.DescribedBy (before ++ after) directives →
      DescribedBy (.object (before ++ (key, .string typeName) :: after)) ⟨typeName, directives⟩

/-- The first reason why the element at an index describes no node. -/
inductive NodeSpec.Defect (index : Nat) : Json.Value → SpecError → Prop
  | notObject {element : Json.Value} : (∀ members, element ≠ .object members) →
      Defect index element (.notObject index)
  | noType {members : Table String Json.Value} : PipelineSpec.Untyped members →
      Defect index (.object members) (.missingTypeName index)
  | secondType {before between after : Table String Json.Value}
      {first second : String × Json.Value} :
      PipelineSpec.Untyped before → PipelineSpec.isTypeKey first.1 = true →
      PipelineSpec.Untyped between → PipelineSpec.isTypeKey second.1 = true →
      Defect index (.object (before ++ first :: (between ++ second :: after)))
        (.unknownKey index second.1)
  | badTypeName {before after : Table String Json.Value} {key : String} {value : Json.Value} :
      PipelineSpec.isTypeKey key = true → PipelineSpec.Untyped (before ++ after) →
      (∀ name, value = .string name → ¬ Text.IsVisible name) →
      Defect index (.object (before ++ (key, value) :: after)) (.badTypeName index key)
  | directive {before after good rest : Table String Json.Value} {key typeName : String}
      {m : String × Json.Value} {e : SpecError} : PipelineSpec.isTypeKey key = true →
      PipelineSpec.Untyped (before ++ after) → Text.IsVisible typeName →
      before ++ after = good ++ m :: rest → (∀ g ∈ good, ∃ d, Directive.DescribedBy g d) →
      Directive.Defect index m e →
      Defect index (.object (before ++ (key, .string typeName) :: after)) e

theorem Text.isAllBlank_eq_false_iff {name : String} :
    isAllBlank name = false ↔ IsVisible name := by
  unfold isAllBlank IsVisible
  simp

namespace PipelineSpec

theorem untyped_append {before after : Table String Json.Value} :
    Untyped (before ++ after) ↔ Untyped before ∧ Untyped after := List.forall_mem_append

theorem filter_keys_eq_nil {members : Table String Json.Value} (h : Untyped members) :
    (Table.keys members).filter isTypeKey = [] := by
  rw [List.filter_eq_nil_iff]
  intro key hkey
  obtain ⟨m, hm, rfl⟩ := List.mem_map.1 hkey
  rw [h m hm]
  exact Bool.false_ne_true

/-- A type key is found behind members that tell no type. -/
theorem filter_keys_append {before after : Table String Json.Value} {m : String × Json.Value}
    (hbefore : Untyped before) (hm : isTypeKey m.1 = true) :
    (Table.keys (before ++ m :: after)).filter isTypeKey =
      m.1 :: (Table.keys after).filter isTypeKey := by
  have hmap : Table.keys (before ++ m :: after) = Table.keys before ++ m.1 :: Table.keys after :=
    List.map_append
  rw [hmap, List.filter_append, filter_keys_eq_nil hbefore, List.filter_cons_of_pos hm]
  rfl

theorem typeKeys_cases (members : Table String Json.Value) :
    Untyped members ∨
      (∃ before m after, members = before ++ m :: after ∧ isTypeKey m.1 = true ∧
        Untyped (before ++ after)) ∨
      ∃ before first between second after,
        members = before ++ first :: (between ++ second :: after) ∧ Untyped before ∧
        isTypeKey first.1 = true ∧ Untyped between ∧ isTypeKey second.1 = true := by
  have hfirst : ∀ members : Table String Json.Value, Untyped members ∨
      ∃ before m after, members = before ++ m :: after ∧ Untyped before ∧
        isTypeKey m.1 = true := by
    intro members
    rcases hfilter : members.filter (fun m => isTypeKey m.1) with _ | ⟨m, rest⟩
    · refine .inl fun m hm => ?_
      simpa using List.filter_eq_nil_iff.1 hfilter m hm
    · obtain ⟨before, after, hsplit, hbefore, hm, -⟩ := List.filter_eq_cons_iff.1 hfilter
      exact .inr ⟨before, m, after, hsplit, fun b hb => by simpa using hbefore b hb, hm⟩
  rcases hfirst members with h | ⟨before, m, after, rfl, hbefore, hm⟩
  · exact .inl h
  · rcases hfirst after with hafter | ⟨between, second, after, rfl, hbetween, hsecond⟩
    · exact .inr (.inl ⟨before, m, after, rfl, hm, untyped_append.2 ⟨hbefore, hafter⟩⟩)
    · exact .inr (.inr ⟨before, m, between, second, after, rfl, hbefore, hm, hbetween, hsecond⟩)

def typeName? (index : Nat) (key : String) : Json.Value → Except SpecError String
  | .string name => if Text.isAllBlank name then .error (.badTypeName index key) else .ok name
  | _ => .error (.badTypeName index key)

/-- A node with one type key is read by the value under it and then by its other members. -/
theorem readNode_typed {index : Nat} {before after : Table String Json.Value} {key : String}
    {value : Json.Value} (hkey : isTypeKey key = true) (hothers : Untyped (before ++ after)) :
    readNode index (.object (before ++ (key, value) :: after)) = (do
      let typeName ← typeName? index key value
      let directives ← (before ++ after).mapM fun m => readDirective index m.1 m.2
      .ok { typeName, directives }) := by
  obtain ⟨hbefore, hafter⟩ := untyped_append.1 hothers
  have hfilter : (Table.keys (before ++ (key, value) :: after)).filter isTypeKey = [key] := by
    rw [filter_keys_append hbefore hkey, filter_keys_eq_nil hafter]
  have hne : ∀ m ∈ before ++ after, m.1 ≠ key := by
    intro m hm he
    have hm := hothers m hm
    rw [he, hkey] at hm
    cases hm
  have hget : Table.get? (before ++ (key, value) :: after) key = some value := by
    have hnone : before.find? (fun entry => entry.1 = key) = none := List.find?_eq_none.2
      fun entry hentry => by simpa using hne entry (List.mem_append_left _ hentry)
    unfold Table.get?
    rw [List.find?_append, hnone, Option.none_or, List.find?_cons_of_pos (by simp)]
    rfl
  have hrest : (before ++ (key, value) :: after).filter (·.1 ≠ key) = before ++ after := by
    rw [List.filter_append, List.filter_cons_of_neg (by simp), ← List.filter_append,
      List.filter_eq_self]
    intro m hm
    simpa using hne m hm
  have hname : readTypeName index key (before ++ (key, value) :: after) =
      typeName? index key value := by
    unfold readTypeName
    rw [hget]
    cases value <;> rfl
  unfold readNode
  dsimp only
  rw [hfilter]
  dsimp only
  rw [hrest, hname]

theorem typeName?_of_visible {index : Nat} {key name : String} (h : Text.IsVisible name) :
    typeName? index key (.string name) = .ok name :=
  if_neg (by rw [Text.isAllBlank_eq_false_iff.2 h]; exact Bool.false_ne_true)

theorem typeName?_of_bad {index : Nat} {key : String} {value : Json.Value}
    (h : ∀ name, value = .string name → ¬ Text.IsVisible name) :
    typeName? index key value = .error (.badTypeName index key) := by
  cases value with
  | string name =>
    refine if_pos (Bool.not_eq_false _ ▸ fun hfalse => h name rfl ?_)
    exact Text.isAllBlank_eq_false_iff.1 hfalse
  | _ => rfl

theorem readNode_of_described {index : Nat} {element : Json.Value} {node : NodeSpec}
    (h : node.DescribedBy element) : readNode index element = .ok node := by
  cases h with
  | record hkey hothers hname hdirectives =>
    rw [readNode_typed hkey hothers, except_bind_ok (typeName?_of_visible hname)]
    exact except_bind_ok (mapM_ok (hdirectives.imp fun m d => readDirective_of_described))

theorem readNode_of_defect {index : Nat} {element : Json.Value} {e : SpecError}
    (h : NodeSpec.Defect index element e) : readNode index element = .error e := by
  cases h with
  | notObject hobject =>
    cases element with
    | object members => exact absurd rfl (hobject members)
    | _ => rfl
  | noType hmembers =>
    unfold readNode
    dsimp only
    rw [filter_keys_eq_nil hmembers]
  | secondType hbefore hfirst hbetween hsecond =>
    unfold readNode
    dsimp only
    rw [filter_keys_append hbefore hfirst, filter_keys_append hbetween hsecond]
  | badTypeName hkey hothers hvalue =>
    rw [readNode_typed hkey hothers, typeName?_of_bad hvalue]
    rfl
  | @directive before after good rest key typeName m e hkey hothers hname hsplit hgood hdefect =>
    have hread : ∀ g ∈ good, ∃ d, readDirective index g.1 g.2 = .ok d := fun g hg =>
      (hgood g hg).imp fun d => readDirective_of_described
    rw [readNode_typed hkey hothers, except_bind_ok (typeName?_of_visible hname), hsplit,
      mapM_error hread (readDirective_of_defect hdefect)]
    rfl

theorem node_or_defect (index : Nat) (element : Json.Value) :
    (∃ node, NodeSpec.DescribedBy element node) ∨ ∃ e, NodeSpec.Defect index element e := by
  by_cases hobject : ∃ members, element = .object members
  · obtain ⟨members, rfl⟩ := hobject
    rcases typeKeys_cases members with h | ⟨before, ⟨key, value⟩, after, rfl, hkey, hothers⟩ |
      ⟨before, first, between, second, after, rfl, hbefore, hfirst, hbetween, hsecond⟩
    · exact .inr ⟨_, .noType h⟩
    · by_cases hvalue : ∃ name, value = .string name ∧ Text.IsVisible name
      · obtain ⟨name, rfl, hname⟩ := hvalue
        rcases all_or_first (directive_or_defect index) (before ++ after) with
          ⟨directives, hdirectives⟩ | ⟨good, m, rest, hsplit, hgood, e, hdefect⟩
        · exact .inl ⟨_, .record hkey hothers hname hdirectives⟩
        · exact .inr ⟨e, .directive hkey hothers hname hsplit hgood hdefect⟩
      · exact .inr ⟨_, .badTypeName hkey hothers fun name hname hvisible =>
          hvalue ⟨name, hname, hvisible⟩⟩
    · exact .inr ⟨_, .secondType hbefore hfirst hbetween hsecond⟩
  · exact .inr ⟨_, .notObject fun members hmembers => hobject ⟨members, hmembers⟩⟩

/-! ## Pipelines -/

/-- The pipeline that a value describes. -/
inductive DescribedBy : Json.Value → PipelineSpec → Prop
  | nodes {elements : List Json.Value} {specs : List NodeSpec} :
      List.Forall₂ NodeSpec.DescribedBy elements specs →
      DescribedBy (.object [(nodesKey, .array elements)]) ⟨specs⟩

/-- The first reason why a value describes no pipeline. -/
inductive FirstDefect : Json.Value → SpecError → Prop
  | notObject {raw : Json.Value} : (∀ members, raw ≠ .object members) →
      FirstDefect raw (.wrongRoot [])
  | wrongKeys {members : Table String Json.Value} : Table.keys members ≠ [nodesKey] →
      FirstDefect (.object members) (.wrongRoot (Table.keys members))
  | notList {value : Json.Value} : (∀ elements, value ≠ .array elements) →
      FirstDefect (.object [(nodesKey, value)]) .nodesNotList
  | element {before after : List Json.Value} {element : Json.Value} {e : SpecError} :
      (∀ b ∈ before, ∃ node, NodeSpec.DescribedBy b node) →
      NodeSpec.Defect before.length element e →
      FirstDefect (.object [(nodesKey, .array (before ++ element :: after))]) e

theorem readNodes_of_described {elements : List Json.Value} {specs : List NodeSpec}
    (h : List.Forall₂ NodeSpec.DescribedBy elements specs) (index : Nat) :
    readNodes index elements = .ok specs := by
  induction h generalizing index with
  | nil => rfl
  | cons hnode _ ih =>
    unfold readNodes
    rw [except_bind_ok (readNode_of_described hnode), except_bind_ok (ih (index + 1))]

theorem readNodes_of_defect {before after : List Json.Value} {element : Json.Value} {e : SpecError}
    (hbefore : ∀ b ∈ before, ∃ node, NodeSpec.DescribedBy b node) {index : Nat}
    (h : NodeSpec.Defect (index + before.length) element e) :
    readNodes index (before ++ element :: after) = .error e := by
  induction before generalizing index with
  | nil =>
    have hread : readNode index element = .error e := readNode_of_defect h
    rw [List.nil_append]
    unfold readNodes
    rw [hread]
    rfl
  | cons b before ih =>
    obtain ⟨⟨node, hnode⟩, hrest⟩ := List.forall_mem_cons.1 hbefore
    rw [List.length_cons, Nat.add_comm before.length, ← Nat.add_assoc] at h
    rw [List.cons_append]
    unfold readNodes
    rw [except_bind_ok (readNode_of_described hnode), ih hrest h]
    rfl

theorem ofJson_of_described {raw : Json.Value} {spec : PipelineSpec} (h : spec.DescribedBy raw) :
    ofJson raw = .ok spec := by
  cases h with
  | nodes hnodes =>
    show (readNodes 0 _).map PipelineSpec.mk = _
    rw [readNodes_of_described hnodes]
    rfl

theorem ofJson_of_defect {raw : Json.Value} {e : SpecError} (h : FirstDefect raw e) :
    ofJson raw = .error e := by
  cases h with
  | notObject hobject =>
    cases raw with
    | object members => exact absurd rfl (hobject members)
    | _ => rfl
  | @wrongKeys members hkeys =>
    unfold ofJson
    split
    · next key value heq =>
      cases heq
      exact if_neg fun hkey => hkeys (by rw [hkey]; rfl)
    · next heq =>
      cases heq
      rfl
    · next hobject => exact absurd rfl (hobject members)
  | @notList value hlist =>
    cases value with
    | array elements => exact absurd rfl (hlist elements)
    | _ => rfl
  | element hbefore hdefect =>
    show (readNodes 0 _).map PipelineSpec.mk = _
    rw [readNodes_of_defect hbefore (by rw [Nat.zero_add]; exact hdefect)]
    rfl

/-- **Alternative.** A value describes a pipeline or has a first defect. -/
theorem describes_or_defect (raw : Json.Value) :
    (∃ spec, DescribedBy raw spec) ∨ ∃ e, FirstDefect raw e := by
  by_cases hobject : ∃ members, raw = .object members
  · obtain ⟨members, rfl⟩ := hobject
    by_cases hkeys : Table.keys members = [nodesKey]
    · obtain ⟨⟨key, value⟩, rest, rfl, hkey, hrest⟩ := List.map_eq_cons_iff.1 hkeys
      obtain rfl : rest = [] := List.map_eq_nil_iff.1 hrest
      obtain rfl : key = nodesKey := hkey
      by_cases hlist : ∃ elements, value = .array elements
      · obtain ⟨elements, rfl⟩ := hlist
        have hall : ∀ element, (∃ node, NodeSpec.DescribedBy element node) ∨
            ∀ index, ∃ e, NodeSpec.Defect index element e := fun element =>
          or_iff_not_imp_left.2 fun hnone index => (node_or_defect index element).resolve_left hnone
        rcases all_or_first hall elements with
          ⟨specs, hspecs⟩ | ⟨before, element, after, rfl, hbefore, hdefect⟩
        · exact .inl ⟨_, .nodes hspecs⟩
        · obtain ⟨e, he⟩ := hdefect before.length
          exact .inr ⟨e, .element hbefore he⟩
      · exact .inr ⟨_, .notList fun elements he => hlist ⟨elements, he⟩⟩
    · exact .inr ⟨_, .wrongKeys hkeys⟩
  · exact .inr ⟨_, .notObject fun members hmembers => hobject ⟨members, hmembers⟩⟩

theorem ofJson_eq_ok_iff {raw : Json.Value} {spec : PipelineSpec} :
    ofJson raw = .ok spec ↔ spec.DescribedBy raw :=
  (settled (fun _ => ofJson_of_described) (fun _ => ofJson_of_defect)
    (describes_or_defect raw)).1 spec

theorem ofJson_eq_error_iff {raw : Json.Value} {e : SpecError} :
    ofJson raw = .error e ↔ FirstDefect raw e :=
  (settled (fun _ => ofJson_of_described) (fun _ => ofJson_of_defect)
    (describes_or_defect raw)).2 e

/-- **Grammar.** Reading accepts exactly the values that describe a pipeline and gives the pipeline
they describe; of any other value it reports the first defect. -/
theorem ofJson_follows_grammar (raw : Json.Value) :
    (∀ spec, ofJson raw = .ok spec ↔ spec.DescribedBy raw) ∧
      ∀ e, ofJson raw = .error e ↔ FirstDefect raw e :=
  ⟨fun _ => ofJson_eq_ok_iff, fun _ => ofJson_eq_error_iff⟩

end PipelineSpec

end AssetCheck
