import AssetCheck.Proofs.Json.Proper
import AssetCheck.Proofs.Json.Values
import AssetCheck.Proofs.Pipeline.Grammar

/-!
# Written pipelines are read back

A pipeline is read back from what it is written as if it is well formed (`described_toJson`).
Whatever is read from a proper value is well formed (`wellFormed_of_described`), and a pipeline is
always written as a proper value; so no other pipeline is read back (`ofJson_toJson_iff`).
-/

namespace AssetCheck

open PipelineSpec (directiveMember nodeToJson parameterLead triggerLead typeNameKey)

/-! ## Well-formed pipelines -/

/-- A value that JSON can hold: not infinity, and not the double that is no number. -/
def ParamValue.isFinite : ParamValue → Bool
  | .float x => x.isFinite
  | .bool _ | .int _ | .text _ => true

def ParamValue.isFloat : ParamValue → Bool
  | .float _ => true
  | .bool _ | .int _ | .text _ => false

theorem ParamValue.isFinite_of_isFloat_eq_false {x : ParamValue} (h : x.isFloat = false) :
    x.isFinite = true := by
  cases x with
  | float x => cases h
  | bool _ | int _ | text _ => rfl

def Directive.name : Directive → String
  | .set name _ => name
  | .press name => name

/-- The type can be seen, and the directives differ in their names, of which none is empty. -/
structure NodeSpec.WellFormed (node : NodeSpec) : Prop where
  visible : Text.IsVisible node.typeName
  named : ∀ d ∈ node.directives, d.name ≠ ""
  parameters_nodup : (node.parameters.map Prod.fst).Nodup
  triggers_nodup : node.triggers.Nodup
  finite : ∀ p ∈ node.parameters, p.2.isFinite = true

def PipelineSpec.WellFormed (spec : PipelineSpec) : Prop := ∀ node ∈ spec.nodes, node.WellFormed

-- Named, as the characters of a text are to be tried and not all characters.
instance : DecidablePred Text.IsVisible := fun name =>
  List.decidableBEx (fun c => Text.isBlank c = false) name.toList

instance : DecidablePred NodeSpec.WellFormed := fun node =>
  decidable_of_iff (Text.IsVisible node.typeName ∧ (∀ d ∈ node.directives, d.name ≠ "") ∧
      (node.parameters.map Prod.fst).Nodup ∧ node.triggers.Nodup ∧
      ∀ p ∈ node.parameters, p.2.isFinite = true)
    ⟨fun h => ⟨h.1, h.2.1, h.2.2.1, h.2.2.2.1, h.2.2.2.2⟩,
      fun h => ⟨h.visible, h.named, h.parameters_nodup, h.triggers_nodup, h.finite⟩⟩

instance : DecidablePred PipelineSpec.WellFormed := fun spec =>
  inferInstanceAs (Decidable (∀ node ∈ spec.nodes, node.WellFormed))

/-- No parameter is set to a double. -/
def PipelineSpec.FloatFree (spec : PipelineSpec) : Prop :=
  ∀ node ∈ spec.nodes, ∀ p ∈ node.parameters, p.2.isFloat = false

/-! ## Keys of directives -/

def Directive.key (d : Directive) : String := (directiveMember d).1

theorem Directive.DescribedBy.key_eq {m : String × Json.Value} {d : Directive}
    (h : d.DescribedBy m) : d.key = m.1 := by
  cases h <;> rfl

theorem Directive.DescribedBy.name_ne {m : String × Json.Value} {d : Directive}
    (h : d.DescribedBy m) : d.name ≠ "" := by
  cases h with
  | parameter hname _ => exact hname
  | trigger _ hname => exact hname

theorem append_left_inj {lead s t : String} : lead ++ s = lead ++ t ↔ s = t := by
  rw [← String.toList_inj, String.toList_append, String.toList_append, List.append_cancel_left_eq,
    String.toList_inj]

theorem parameterLead_mem_keys {name : String} {ds : List Directive} :
    parameterLead ++ name ∈ ds.map Directive.key ↔
      name ∈ (ds.filterMap Directive.parameter?).map Prod.fst := by
  induction ds with
  | nil => simp
  | cons d ds ih =>
    rw [List.map_cons, List.mem_cons, ih]
    cases d with
    | set other value =>
      have hkey : parameterLead ++ name = (Directive.set other value).key ↔ name = other :=
        append_left_inj
      simp only [hkey, List.filterMap_cons, Directive.parameter?, List.map_cons, List.mem_cons]
    | press other =>
      have hkey : parameterLead ++ name ≠ (Directive.press other).key :=
        PipelineSpec.parameter_ne_trigger name other
      simp only [List.filterMap_cons, Directive.parameter?, or_iff_right hkey]

theorem triggerLead_mem_keys {name : String} {ds : List Directive} :
    triggerLead ++ name ∈ ds.map Directive.key ↔ name ∈ ds.filterMap Directive.trigger? := by
  induction ds with
  | nil => simp
  | cons d ds ih =>
    rw [List.map_cons, List.mem_cons, ih]
    cases d with
    | set other value =>
      have hkey : triggerLead ++ name ≠ (Directive.set other value).key :=
        (PipelineSpec.parameter_ne_trigger other name).symm
      simp only [List.filterMap_cons, Directive.trigger?, or_iff_right hkey]
    | press other =>
      have hkey : triggerLead ++ name = (Directive.press other).key ↔ name = other :=
        append_left_inj
      simp only [hkey, List.filterMap_cons, Directive.trigger?, List.mem_cons]

/-- The keys are distinct if parameters and triggers are, each among themselves. -/
theorem nodup_keys_iff {ds : List Directive} :
    (ds.map Directive.key).Nodup ↔
      ((ds.filterMap Directive.parameter?).map Prod.fst).Nodup ∧
        (ds.filterMap Directive.trigger?).Nodup := by
  induction ds with
  | nil => simp
  | cons d ds ih =>
    rw [List.map_cons, List.nodup_cons, ih]
    cases d with
    | set name value =>
      have hkey : (Directive.set name value).key ∉ ds.map Directive.key ↔ _ :=
        not_congr parameterLead_mem_keys
      simp only [hkey, List.filterMap_cons, Directive.parameter?, Directive.trigger?, List.map_cons,
        List.nodup_cons, and_assoc]
    | press name =>
      have hkey : (Directive.press name).key ∉ ds.map Directive.key ↔ _ :=
        not_congr triggerLead_mem_keys
      simp only [hkey, List.filterMap_cons, Directive.parameter?, Directive.trigger?,
        List.nodup_cons, and_left_comm]

theorem isTypeKey_key (d : Directive) : PipelineSpec.isTypeKey d.key = false := by
  have hfirst : ∀ key, PipelineSpec.isTypeKey key = true → key.toList.head? ≠ some 'p' := by
    intro key h
    unfold PipelineSpec.isTypeKey at h
    rcases Bool.or_eq_true_iff.1 h with h | h
    · rw [of_decide_eq_true h]
      decide
    · rw [of_decide_eq_true h]
      decide
  rw [Bool.eq_false_iff]
  intro h
  refine hfirst _ h ?_
  cases d with
  | set name value =>
    show (parameterLead ++ name).toList.head? = _
    rw [String.toList_append]
    rfl
  | press name =>
    show (triggerLead ++ name).toList.head? = _
    rw [String.toList_append]
    rfl

/-! ## What is read is well formed -/

theorem Json.Value.Plain.proper {depth : Nat} {v : Json.Value} (h : v.Plain depth) : v.Proper := by
  induction h with
  | null => exact .null
  | bool _ b => exact .bool b
  | whole _ hlow hhigh => exact .number (.int hlow hhigh)
  | string _ s => exact .string s
  | array _ ih => exact .array ih
  | object hkeys _ ih => exact .object hkeys ih

/-- A whole number of a proper value that does not fit 64 bits with a sign fits them without. -/
theorem finite_of_standsFor {v : Json.Value} {x : ParamValue} (h : v.StandsFor x) (hv : v.Proper) :
    x.isFinite = true := by
  cases h with
  | bool _ | whole _ | text _ => rfl
  | float x =>
    cases hv with
    | number hn =>
      cases hn with
      | float hx => exact hx
  | @beyond n hne =>
    cases hv with
    | number hn =>
      cases hn with
      | int hlow hhigh =>
        refine Decimal.isFinite_nearestFloat ?_ hhigh
        refine Int.not_lt.1 fun hsmall => hne (Int64.ofInt n) ?_
        exact Int64.toInt_ofInt_of_le hlow hsmall

theorem NodeSpec.wellFormed_of_described {element : Json.Value} {node : NodeSpec}
    (h : node.DescribedBy element) (hproper : element.Proper) : node.WellFormed := by
  cases h with
  | @record before after key typeName directives _ _ hname hdirectives =>
    cases hproper with
    | object hkeys hvalues =>
      have hothers : (before ++ after).Sublist (before ++ (key, .string typeName) :: after) :=
        (List.sublist_cons_self _ after).append_left before
      have hnodup : (directives.map Directive.key).Nodup := by
        rw [map_eq_of_forall₂ hdirectives fun _ _ hd => hd.key_eq]
        exact (hothers.map Prod.fst).nodup hkeys
      have hdescribed : ∀ d ∈ directives, ∃ m ∈ before ++ after, d.DescribedBy m :=
        exists_of_forall₂_right hdirectives
      refine ⟨hname, fun d hd => ?_, (nodup_keys_iff.1 hnodup).1, (nodup_keys_iff.1 hnodup).2, ?_⟩
      · obtain ⟨m, -, hm⟩ := hdescribed d hd
        exact hm.name_ne
      · intro p hp
        obtain ⟨d, hd, hset⟩ := List.mem_filterMap.1 hp
        obtain ⟨m, hmem, hm⟩ := hdescribed d hd
        cases hm with
        | parameter _ hvalue =>
          cases hset
          exact finite_of_standsFor hvalue (hvalues _ (hothers.subset hmem))
        | trigger _ _ => cases hset

theorem PipelineSpec.wellFormed_of_described {raw : Json.Value} {spec : PipelineSpec}
    (h : spec.DescribedBy raw) (hproper : raw.Proper) : spec.WellFormed := by
  cases h with
  | nodes hnodes =>
    cases hproper with
    | object _ hvalues =>
      have helements := List.forall_mem_singleton.1 hvalues
      cases helements with
      | array helements =>
        intro node hnode
        obtain ⟨element, hmem, hdescribed⟩ := exists_of_forall₂_right hnodes node hnode
        exact NodeSpec.wellFormed_of_described hdescribed (helements element hmem)

/-! ## What is well formed is read -/

theorem ParamValue.toJson_of_finite {x : Float} (h : x.isFinite = true) :
    (ParamValue.float x).toJson = .number (.float x) := if_pos h

theorem ParamValue.toJson_of_not_finite {x : Float} (h : ¬ x.isFinite = true) :
    (ParamValue.float x).toJson = .null := if_neg h

theorem ParamValue.standsFor_toJson {x : ParamValue} (h : x.isFinite = true) :
    x.toJson.StandsFor x := by
  cases x with
  | bool b => exact .bool b
  | int n => exact .whole n
  | float x =>
    rw [toJson_of_finite h]
    exact .float x
  | text s => exact .text s

theorem ParamValue.ofJson?_toJson {x : ParamValue} (h : x.isFinite = true) :
    ofJson? x.toJson = some x :=
  ofJson?_of_standsFor (standsFor_toJson h)

/-- The members of a well-formed node have distinct keys, so each keeps its place and value. -/
theorem NodeSpec.WellFormed.nodeToJson_eq {node : NodeSpec} (h : node.WellFormed) :
    nodeToJson node =
      .object ((typeNameKey, .string node.typeName) :: node.directives.map directiveMember) := by
  have hkeys : ((typeNameKey, Json.Value.string node.typeName) ::
      node.directives.map directiveMember).map Prod.fst =
        typeNameKey :: node.directives.map Directive.key := by
    rw [List.map_cons, List.map_map]
    rfl
  have hnew : typeNameKey ∉ node.directives.map Directive.key := by
    intro hmem
    obtain ⟨d, -, hd⟩ := List.mem_map.1 hmem
    have htype := isTypeKey_key d
    rw [hd] at htype
    cases htype
  refine congrArg Json.Value.object (Table.ofList_eq_self ?_)
  rw [hkeys]
  exact List.nodup_cons.2 ⟨hnew, nodup_keys_iff.2 ⟨h.parameters_nodup, h.triggers_nodup⟩⟩

theorem NodeSpec.WellFormed.described_toJson {node : NodeSpec} (h : node.WellFormed) :
    node.DescribedBy (nodeToJson node) := by
  have huntyped : PipelineSpec.Untyped ([] ++ node.directives.map directiveMember) :=
    List.forall_mem_map.2 fun d _ => isTypeKey_key d
  have hdirectives : List.Forall₂ Directive.DescribedBy
      ([] ++ node.directives.map directiveMember) node.directives := by
    refine List.forall₂_map_left_iff.2 (List.forall₂_same.2 fun d hd => ?_)
    have hname := h.named d hd
    cases d with
    | set name x =>
      have hfinite := h.finite (name, x) (List.mem_filterMap.2 ⟨_, hd, rfl⟩)
      exact .parameter hname (ParamValue.standsFor_toJson hfinite)
    | press name => exact .trigger _ hname
  rw [h.nodeToJson_eq]
  exact .record rfl huntyped h.visible hdirectives

theorem PipelineSpec.WellFormed.described_toJson {spec : PipelineSpec} (h : spec.WellFormed) :
    spec.DescribedBy spec.toJson :=
  .nodes (List.forall₂_map_left_iff.2 (List.forall₂_same.2 fun node hnode =>
    (h node hnode).described_toJson))

/-! ## What is written -/

theorem ParamValue.proper_toJson (x : ParamValue) : x.toJson.Proper := by
  cases x with
  | bool b => exact .bool b
  | int n =>
    have hlow := Int64.le_toInt n
    have hhigh := Int64.toInt_lt n
    exact .number (.int hlow (by omega))
  | float x =>
    by_cases h : x.isFinite = true
    · rw [toJson_of_finite h]
      exact .number (.float h)
    · rw [toJson_of_not_finite h]
      exact .null
  | text s => exact .string s

theorem PipelineSpec.proper_toJson (spec : PipelineSpec) : spec.toJson.Proper := by
  have hnode : ∀ node, (nodeToJson node).Proper := by
    intro node
    refine Json.Value.proper_ofMembers (List.forall_mem_cons.2 ⟨.string _, ?_⟩)
    refine List.forall_mem_map.2 fun d _ => ?_
    cases d with
    | set name x => exact x.proper_toJson
    | press name => exact .bool true
  refine .object (List.pairwise_singleton _ _) (List.forall_mem_singleton.2 (.array ?_))
  exact List.forall_mem_map.2 fun node _ => hnode node

theorem ParamValue.plain_toJson {x : ParamValue} (h : x.isFloat = false) (depth : Nat) :
    x.toJson.Plain depth := by
  cases x with
  | bool b => exact .bool depth b
  | int n =>
    have hlow := Int64.le_toInt n
    have hhigh := Int64.toInt_lt n
    exact .whole depth hlow (by omega)
  | float x => cases h
  | text s => exact .string depth s

/-- Without doubles, a pipeline is written as a value that its text tells apart. -/
theorem PipelineSpec.FloatFree.plain_toJson {spec : PipelineSpec} (h : spec.FloatFree)
    (depth : Nat) : spec.toJson.Plain (depth + 3) := by
  refine .object (List.pairwise_singleton _ _) (List.forall_mem_singleton.2 (.array ?_))
  refine List.forall_mem_map.2 fun node hnode => ?_
  refine .object (Table.nodup_keys_ofList _) fun m hm => ?_
  rcases List.mem_cons.1 (Table.mem_of_mem_ofList hm) with rfl | hmem
  · exact .string depth _
  · obtain ⟨d, hd, rfl⟩ := List.mem_map.1 hmem
    cases d with
    | set name x =>
      exact x.plain_toJson (h node hnode (name, x) (List.mem_filterMap.2 ⟨_, hd, rfl⟩)) depth
    | press name => exact .bool depth true

/-! ## Round trips -/

theorem PipelineSpec.ofJson_toJson_iff {spec : PipelineSpec} :
    ofJson spec.toJson = .ok spec ↔ spec.WellFormed :=
  ⟨fun h => wellFormed_of_described (ofJson_eq_ok_iff.1 h) spec.proper_toJson,
    fun h => ofJson_eq_ok_iff.2 h.described_toJson⟩

theorem PipelineSpec.wellFormed_of_ofJson {raw : Json.Value} {spec : PipelineSpec}
    (hproper : raw.Proper) (h : ofJson raw = .ok spec) : spec.WellFormed :=
  wellFormed_of_described (ofJson_eq_ok_iff.1 h) hproper

theorem PipelineSpec.wellFormed_of_parse {text : String} {spec : PipelineSpec}
    (h : parse text = .ok spec) : spec.WellFormed := by
  unfold parse at h
  split at h
  · next raw hraw => exact wellFormed_of_ofJson (Json.proper_of_parse hraw) h
  · cases h

theorem PipelineSpec.parse_compact {spec : PipelineSpec} (h : spec.WellFormed)
    (hfree : spec.FloatFree) : parse spec.toJson.compact = .ok spec := by
  unfold parse
  rw [Json.parse_compact (hfree.plain_toJson 124)]
  exact ofJson_toJson_iff.2 h

/-- **Round trip.** A pipeline is read back from what it is written as exactly if it is well formed.
Every pipeline that was read, from a proper value or from a text, is. Without doubles it is also
read back from its compact text. -/
theorem PipelineSpec.toJson_roundTrip (spec : PipelineSpec) :
    (ofJson spec.toJson = .ok spec ↔ spec.WellFormed) ∧
    (∀ raw, raw.Proper → ofJson raw = .ok spec → ofJson spec.toJson = .ok spec) ∧
    (∀ text, parse text = .ok spec → ofJson spec.toJson = .ok spec) ∧
    (spec.WellFormed → spec.FloatFree → parse spec.toJson.compact = .ok spec) :=
  ⟨ofJson_toJson_iff, fun _ hproper h => ofJson_toJson_iff.2 (wellFormed_of_ofJson hproper h),
    fun _ h => ofJson_toJson_iff.2 (wellFormed_of_parse h), parse_compact⟩

/-- A pipeline whose names and values have to be told apart and escaped. -/
def PipelineSpec.awkward : PipelineSpec :=
  ⟨[⟨" load\n",
      [.set "x" (.text "a\"\\\u2028"), .press "x", .set "n" (.int (-7)), .press "type_name",
        .set "on" (.bool false)]⟩,
    ⟨"check", []⟩]⟩

/-- The same pipeline under the older key, which stands behind a directive. -/
def PipelineSpec.awkwardRaw : Json.Value :=
  .object [(nodesKey, .array
    [.object [("parm_x", .string "a\"\\\u2028"), ("node_type_name", .string " load\n"),
        ("press_x", .null), ("parm_n", .int (-7)), ("press_type_name", .array []),
        ("parm_on", .bool false)],
      .object [("type_name", .string "check")]])]

theorem PipelineSpec.toJson_roundTrip_awkward :
    awkward.WellFormed ∧ awkward.FloatFree ∧ awkwardRaw.Proper ∧ ofJson awkwardRaw = .ok awkward ∧
      parse awkwardRaw.compact = .ok awkward ∧ ofJson awkward.toJson = .ok awkward ∧
      parse awkward.toJson.compact = .ok awkward := by
  have hwell : awkward.WellFormed := by decide
  have hfree : awkward.FloatFree := by
    unfold FloatFree
    decide
  have hplain : awkwardRaw.Plain Json.depthLimit := by
    refine .object (by decide) (List.forall_mem_singleton.2 (.array ?_))
    refine List.forall_mem_cons.2 ⟨.object (by decide) ?_, List.forall_mem_singleton.2
      (.object (by decide) (List.forall_mem_singleton.2 (.string _ _)))⟩
    simp only [List.forall_mem_cons]
    exact ⟨.string _ _, .string _ _, .null _, .whole _ (by decide) (by decide),
      .array (List.forall_mem_nil _), .bool _ _, List.forall_mem_nil _⟩
  have hread : ofJson awkwardRaw = .ok awkward := rfl
  have htext : parse awkwardRaw.compact = .ok awkward := by
    unfold parse
    rw [Json.parse_compact hplain]
    exact hread
  exact ⟨hwell, hfree, hplain.proper, hread, htext,
    (toJson_roundTrip awkward).2.1 _ hplain.proper hread,
    (toJson_roundTrip awkward).2.2.2 hwell hfree⟩

end AssetCheck
