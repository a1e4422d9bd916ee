import AssetCheck.Proofs.Json.Admits
import AssetCheck.Proofs.Json.Schema
import AssetCheck.Proofs.Report.RoundTrip
import AssetCheck.Report.Error
import AssetCheck.Report.Schema

/-!
# The published schema

The schema says what a report file holds, and the reader and the writer of reports say it as well
(`schema_agrees`). What is written is accepted by the schema; and a text without repeated keys that
the schema accepts is read, in any order of its keys, as a report that is written as the same value.
-/

namespace AssetCheck.Report

open Json (Field Reader Value)

/-! ## The parts of the schema -/

section Parts

variable {v : Value}

theorem accepts_stringSchema_iff : stringSchema.Accepts v ↔ ∃ s, v = .string s := by
  unfold stringSchema
  rw [Value.accepts_scalar_iff (by decide)]
  simp [Table.get?_cons, Value.typeName_eq_string_iff]

theorem accepts_enum_iff {names : List String} :
    (stringSchemaWith "enum" (strings names)).Accepts v ↔ ∃ s ∈ names, v = .string s := by
  unfold stringSchemaWith strings
  rw [Value.accepts_scalar_iff (by simp [Table.get?_cons])]
  constructor
  · rintro ⟨-, enum, -⟩
    obtain ⟨choice, hchoice, halike⟩ := enum _ rfl
    obtain ⟨s, hs, rfl⟩ := List.mem_map.1 hchoice
    exact ⟨s, hs, Value.alike_string_iff.1 halike⟩
  · rintro ⟨s, hs, rfl⟩
    refine ⟨?_, ?_, ?_⟩
    · simp [Table.get?_cons, Value.typeName]
    · simpa [Table.get?_cons] using hs
    · simp [Table.get?_cons]

theorem accepts_const_iff {s : String} :
    (stringSchemaWith "const" (.string s)).Accepts v ↔ v = .string s := by
  unfold stringSchemaWith
  rw [Value.accepts_scalar_iff (by simp [Table.get?_cons])]
  constructor
  · rintro ⟨-, -, const⟩
    exact Value.alike_string_iff.1 (const _ rfl)
  · rintro rfl
    simp [Table.get?_cons, Value.typeName]

/-- A format is a hint to the reader of a schema, and asks nothing. -/
theorem accepts_format_iff {name : String} :
    (stringSchemaWith "format" (.string name)).Accepts v ↔ ∃ s, v = .string s := by
  unfold stringSchemaWith
  rw [Value.accepts_scalar_iff (by simp [Table.get?_cons])]
  simp [Table.get?_cons, Value.typeName_eq_string_iff]

theorem accepts_boolean_iff :
    (Value.object [("type", .string "boolean")]).Accepts v ↔ ∃ b, v = .bool b := by
  rw [Value.accepts_scalar_iff (by decide)]
  simp [Table.get?_cons, Value.typeName_eq_boolean_iff]

theorem accepts_array_iff {items : Value} :
    (Value.object [("type", .string "array"), ("items", items)]).Accepts v ↔
      ∃ vs, v = .array vs ∧ ∀ w ∈ vs, items.Accepts w := by
  constructor
  · intro h
    cases h with
    | keywords type _ _ _ _ _ hitems =>
      obtain ⟨vs, rfl⟩ := Value.typeName_eq_array_iff.1 (type _ rfl)
      exact ⟨vs, rfl, hitems items rfl vs rfl⟩
  · rintro ⟨vs, rfl, hitems⟩
    refine .keywords ?_ ?_ ?_ ?_ ?_ ?_ ?_
    · simp [Table.get?_cons, Value.typeName]
    · simp [Table.get?_cons]
    · simp [Table.get?_cons]
    · simp [Table.get?_cons]
    · simp [Table.get?_cons]
    · simp [Table.get?_cons]
    · simpa [Table.get?_cons] using hitems

/-- The keywords that ask something of a value. -/
def keywords : List String :=
  ["type", "enum", "const", "required", "properties", "additionalProperties", "items"]

/-- The schema of an object, behind members that are no keywords, accepts the objects that have all
its properties, with values that these accept, and nothing else. -/
theorem accepts_closedObject_iff {lead properties : List (String × Value)}
    (hlead : ∀ key ∈ keywords, key ∉ Table.keys lead) (hnodup : (properties.map Prod.fst).Nodup) :
    (Value.object (lead ++ closedObject properties)).Accepts v ↔
      ∃ ms : Table String Value, v = .object ms ∧ (∀ key ∈ ms.keys, key ∈ properties.map Prod.fst) ∧
        ∀ p ∈ properties, ∃ w, ms.get? p.1 = some w ∧ p.2.Accepts w := by
  have hget : ∀ key ∈ keywords, Table.get? (lead ++ closedObject properties) key =
      Table.get? (closedObject properties) key := fun key hkey =>
    Table.get?_append_of_not_mem (hlead key hkey) _
  have htype : Table.get? (lead ++ closedObject properties) "type" = some (.string "object") :=
    hget _ (by decide)
  have henum : Table.get? (lead ++ closedObject properties) "enum" = none := hget _ (by decide)
  have hconst : Table.get? (lead ++ closedObject properties) "const" = none := hget _ (by decide)
  have hrequired : Table.get? (lead ++ closedObject properties) "required" =
      some (strings (properties.map (·.1))) := hget _ (by decide)
  have hproperties : Table.get? (lead ++ closedObject properties) "properties" =
      some (.object properties) := hget _ (by decide)
  have hadditional : Table.get? (lead ++ closedObject properties) "additionalProperties" =
      some (.bool false) := hget _ (by decide)
  constructor
  · intro h
    cases h with
    | keywords type _ _ required values additional _ =>
      obtain ⟨ms, rfl⟩ := Value.typeName_eq_object_iff.1 (type _ htype)
      refine ⟨ms, rfl, fun key hkey => ?_, fun p hp => ?_⟩
      · refine Classical.byContradiction fun hother => ?_
        obtain ⟨w, hw⟩ := Table.mem_keys_iff.1 hkey
        refine Value.not_accepts_false (additional _ hadditional ms rfl key w hw ?_)
        intro schemas hschemas
        rw [hproperties] at hschemas
        cases hschemas
        exact hother
      · have hmem := required _ hrequired ms rfl p.1
          (List.mem_map_of_mem (List.mem_map_of_mem hp))
        obtain ⟨w, hw⟩ := Table.mem_keys_iff.1 hmem
        exact ⟨w, hw, values _ hproperties ms rfl p.1 p.2 w (Table.get?_of_mem hnodup hp) hw⟩
  · rintro ⟨ms, rfl, honly, hmembers⟩
    refine .keywords ?_ ?_ ?_ ?_ ?_ ?_ ?_
    · simp [htype, Value.typeName]
    · simp [henum]
    · simp [hconst]
    · intro names hnames ms' hms key hkey
      cases hms
      rw [hrequired] at hnames
      cases hnames
      obtain ⟨name, hname, heq⟩ := List.mem_map.1 hkey
      cases heq
      obtain ⟨p, hp, rfl⟩ := List.mem_map.1 hname
      obtain ⟨w, hw, -⟩ := hmembers p hp
      exact Table.mem_keys_iff.2 ⟨w, hw⟩
    · intro schemas hschemas ms' hms key schema w hschema hw
      cases hms
      rw [hproperties] at hschemas
      cases hschemas
      obtain ⟨w', hw', haccepts⟩ := hmembers _ (Table.mem_of_get? hschema)
      rw [hw] at hw'
      cases hw'
      exact haccepts
    · intro schema _ ms' hms key w hw hother
      cases hms
      exact absurd (honly key (Table.mem_keys_iff.2 ⟨w, hw⟩)) (hother _ hproperties)
    · intro _ _ vs hvs
      cases hvs

end Parts

/-! ## What is written -/

theorem accepts_string (s : String) : stringSchema.Accepts (.string s) :=
  accepts_stringSchema_iff.2 ⟨s, rfl⟩

theorem accepts_diagnostic (d : Diagnostic) : diagnosticSchema.Accepts d.toJson := by
  refine (@accepts_closedObject_iff _ [] _ (by decide) (by decide)).2 ⟨_, rfl, by simp, ?_⟩
  simp only [List.forall_mem_cons]
  exact ⟨⟨_, rfl, accepts_string d.message⟩, ⟨_, rfl, accepts_string d.nodeName⟩,
    ⟨_, rfl, accepts_string d.nodeType⟩,
    ⟨_, rfl, accepts_enum_iff.2 ⟨_, List.mem_map_of_mem d.status.mem_all, rfl⟩⟩,
    List.forall_mem_nil _⟩

theorem accepts_toJson {r : Report} (h : r.version = currentVersion) : schema.Accepts r.toJson := by
  refine (accepts_closedObject_iff (by decide) (by decide)).2 ⟨_, rfl, by simp, ?_⟩
  simp only [List.forall_mem_cons]
  exact ⟨⟨_, rfl, accepts_string r.assetPath⟩, ⟨_, rfl, accepts_boolean_iff.2 ⟨_, rfl⟩⟩,
    ⟨_, rfl, accepts_array_iff.2 ⟨_, rfl, List.forall_mem_map.2 fun d _ => accepts_diagnostic d⟩⟩,
    ⟨_, rfl, accepts_string r.host⟩, ⟨_, rfl, accepts_format_iff.2 ⟨_, rfl⟩⟩,
    ⟨_, rfl, accepts_string r.user⟩, ⟨_, rfl, accepts_const_iff.2 (h ▸ rfl)⟩,
    List.forall_mem_nil _⟩

theorem plain_toJson (r : Report) (depth : Nat) : r.toJson.Plain (depth + 3) := by
  have hdiagnostic : ∀ d : Diagnostic, d.toJson.Plain (depth + 1) := fun d =>
    .object (by simp) (by simp [Value.Plain.string])
  refine .object (by simp) ?_
  simp only [List.forall_mem_cons]
  exact ⟨.string _ _, .bool _ _, .array (List.forall_mem_map.2 fun d _ => hdiagnostic d),
    .string _ _, .string _ _, .string _ _, .string _ _, List.forall_mem_nil _⟩

theorem parse_fileText (r : Report) : Json.parse r.fileText = .ok r.toJson :=
  readAll_fileText ((r.plain_toJson 124).reads .indented 0)

theorem keysDistinct_fileText (r : Report) : Json.KeysDistinct r.fileText :=
  .of_plain (r.plain_toJson 124) (readAll_fileText ((r.plain_toJson 124).lists .indented 0))

/-! ## What is read -/

theorem text_admits_of_accepts (v : Value) (h : stringSchema.Accepts v) (_ : v.KeysDistinct) :
    Reader.Admits Json.text v := by
  obtain ⟨s, rfl⟩ := accepts_stringSchema_iff.1 h
  exact Json.text_admits s

/-- A record with the fields of an object's schema admits what the schema accepts, if its fields
admit what theirs accept. -/
theorem record_admits_of_accepts (name : String) (strict : Bool) {fields : List Field}
    {lead properties : List (String × Value)} {v : Value}
    (hlead : ∀ key ∈ keywords, key ∉ Table.keys lead) (hnodup : (properties.map Prod.fst).Nodup)
    (hfields : ∀ p ∈ properties, ∃ field, fields.find? (·.name = p.1) = some field ∧
      ∀ w, p.2.Accepts w → w.KeysDistinct → field.reader.Admits w)
    (hnames : ∀ field ∈ fields, field.name ∈ properties.map Prod.fst)
    (h : (Value.object (lead ++ closedObject properties)).Accepts v) (hv : v.KeysDistinct) :
    (Json.record name strict fields).Admits v := by
  obtain ⟨ms, rfl, honly, hmembers⟩ := (accepts_closedObject_iff hlead hnodup).1 h
  cases hv with
  | object hkeys hall =>
    refine Json.record_admits name strict hkeys (fun m hm => ?_) fun field hfield _ => ?_
    · obtain ⟨p, hp, hname⟩ := List.mem_map.1 (honly m.1 (List.mem_map_of_mem hm))
      obtain ⟨w, hw, haccepts⟩ := hmembers p hp
      obtain ⟨field, hfind, hadmits⟩ := hfields p hp
      rw [hname] at hw hfind
      rw [Table.get?_of_mem hkeys hm] at hw
      cases hw
      exact ⟨field, hfind, hadmits m.2 haccepts (hall m hm)⟩
    · obtain ⟨p, hp, hname⟩ := List.mem_map.1 (hnames field hfield)
      obtain ⟨w, hw, -⟩ := hmembers p hp
      exact hname ▸ Table.mem_keys_iff.2 ⟨w, hw⟩

theorem diagnostic_admits (v : Value) (h : diagnosticSchema.Accepts v) (hv : v.KeysDistinct) :
    Diagnostic.reader.Admits v := by
  refine @record_admits_of_accepts _ true _ [] _ _ (by decide) (by decide) ?_ (by decide) h hv
  simp only [List.forall_mem_cons]
  refine ⟨⟨_, rfl, text_admits_of_accepts⟩, ⟨_, rfl, text_admits_of_accepts⟩,
    ⟨_, rfl, text_admits_of_accepts⟩, ⟨_, rfl, fun w hw _ => ?_⟩, List.forall_mem_nil _⟩
  obtain ⟨s, hs, rfl⟩ := accepts_enum_iff.1 hw
  exact Json.oneOf_admits hs

theorem reader_admits {v : Value} (h : schema.Accepts v) (hv : v.KeysDistinct) :
    Report.reader.Admits v := by
  refine record_admits_of_accepts "Report" true (by decide) (by decide) ?_ (by decide) h hv
  simp only [List.forall_mem_cons]
  refine ⟨⟨_, rfl, text_admits_of_accepts⟩, ⟨_, rfl, fun w hw _ => ?_⟩,
    ⟨_, rfl, fun w hw hdistinct => ?_⟩, ⟨_, rfl, text_admits_of_accepts⟩,
    ⟨_, rfl, fun w hw _ => ?_⟩, ⟨_, rfl, text_admits_of_accepts⟩, ⟨_, rfl, fun w hw _ => ?_⟩,
    List.forall_mem_nil _⟩
  · obtain ⟨b, rfl⟩ := accepts_boolean_iff.1 hw
    exact Json.flag_admits b
  · obtain ⟨vs, rfl, hvs⟩ := accepts_array_iff.1 hw
    cases hdistinct with
    | array hall => exact Json.listOf_admits fun d hd => diagnostic_admits d (hvs d hd) (hall d hd)
  · obtain ⟨s, rfl⟩ := accepts_format_iff.1 hw
    exact Json.text_admits s
  · obtain rfl := accepts_const_iff.1 hw
    exact Json.text_admits currentVersion

theorem stringAt_eq {ms : Table String Value} {key s : String} (h : ms.get? key = some (.string s))
    (default : String) : (Value.object ms).stringAt key default = s := by
  unfold Value.stringAt
  rw [show (Value.object ms).member? key = some (.string s) from h]
  rfl

theorem alike_diagnostic {v : Value} (h : diagnosticSchema.Accepts v) (hv : v.KeysDistinct) :
    (Diagnostic.ofJson v).toJson.Alike v := by
  obtain ⟨ms, rfl, honly, hmembers⟩ :=
    (@accepts_closedObject_iff _ [] _ (by decide) (by decide)).1 h
  simp only [List.forall_mem_cons] at hmembers
  obtain ⟨⟨_, hmessage, h₁⟩, ⟨_, hnodeName, h₂⟩, ⟨_, hnodeType, h₃⟩, ⟨_, hstatus, h₄⟩, -⟩ :=
    hmembers
  obtain ⟨message, rfl⟩ := accepts_stringSchema_iff.1 h₁
  obtain ⟨nodeName, rfl⟩ := accepts_stringSchema_iff.1 h₂
  obtain ⟨nodeType, rfl⟩ := accepts_stringSchema_iff.1 h₃
  obtain ⟨name, hname, rfl⟩ := accepts_enum_iff.1 h₄
  obtain ⟨status, -, rfl⟩ := List.mem_map.1 hname
  have hread : Diagnostic.ofJson (.object ms) = ⟨message, nodeName, nodeType, status⟩ := by
    unfold Diagnostic.ofJson
    rw [stringAt_eq hmessage, stringAt_eq hnodeName, stringAt_eq hnodeType, stringAt_eq hstatus,
      Status.ofName?_name]
    rfl
  rw [hread]
  cases hv with
  | object hkeys _ =>
    refine Value.alike_object (by simp) hkeys honly ?_
    simp only [List.forall_mem_cons]
    exact ⟨⟨_, hmessage, .string _⟩, ⟨_, hnodeName, .string _⟩, ⟨_, hnodeType, .string _⟩,
      ⟨_, hstatus, .string _⟩, List.forall_mem_nil _⟩

/-- An accepted value stands for a report of the current version, which is written as that value up
to the order of keys. -/
theorem ofJson_of_accepts {v : Value} (h : schema.Accepts v) (hv : v.KeysDistinct) :
    (ofJson v).version = currentVersion ∧ (ofJson v).toJson.Alike v := by
  obtain ⟨ms, rfl, honly, hmembers⟩ := (accepts_closedObject_iff (by decide) (by decide)).1 h
  simp only [List.forall_mem_cons] at hmembers
  obtain ⟨⟨_, hpath, h₁⟩, ⟨_, hcook, h₂⟩, ⟨_, hdiagnostics, h₃⟩, ⟨_, hhost, h₄⟩, ⟨_, htime, h₅⟩,
    ⟨_, huser, h₆⟩, ⟨_, hversion, h₇⟩, -⟩ := hmembers
  obtain ⟨path, rfl⟩ := accepts_stringSchema_iff.1 h₁
  obtain ⟨cook, rfl⟩ := accepts_boolean_iff.1 h₂
  obtain ⟨ds, rfl, hds⟩ := accepts_array_iff.1 h₃
  obtain ⟨host, rfl⟩ := accepts_stringSchema_iff.1 h₄
  obtain ⟨time, rfl⟩ := accepts_format_iff.1 h₅
  obtain ⟨user, rfl⟩ := accepts_stringSchema_iff.1 h₆
  obtain rfl := accepts_const_iff.1 h₇
  have hread : ofJson (.object ms) =
      ⟨path, cook, ds.map Diagnostic.ofJson, host, time, user, currentVersion⟩ := by
    unfold ofJson
    rw [stringAt_eq hpath, stringAt_eq hhost, stringAt_eq htime, stringAt_eq huser,
      stringAt_eq hversion]
    unfold Value.boolAt Value.elementsAt
    rw [show (Value.object ms).member? "cook_success" = _ from hcook,
      show (Value.object ms).member? "diagnostics" = _ from hdiagnostics]
    rfl
  rw [hread]
  cases hv with
  | object hkeys hall =>
    cases hall _ (Table.mem_of_get? hdiagnostics) with
    | array hdistinct =>
    have halike :
        List.Forall₂ Value.Alike ((ds.map Diagnostic.ofJson).map Diagnostic.toJson) ds := by
      rw [List.map_map, List.forall₂_map_left_iff, List.forall₂_same]
      exact fun d hd => alike_diagnostic (hds d hd) (hdistinct d hd)
    refine ⟨rfl, Value.alike_object (by simp) hkeys honly ?_⟩
    simp only [List.forall_mem_cons]
    exact ⟨⟨_, hpath, .string _⟩, ⟨_, hcook, .bool _⟩, ⟨_, hdiagnostics, .array halike⟩,
      ⟨_, hhost, .string _⟩, ⟨_, htime, .string _⟩, ⟨_, huser, .string _⟩, ⟨_, hversion, .string _⟩,
      List.forall_mem_nil _⟩

/-- **Agreement.** The value that a report of the current version is written as is accepted by the
schema; it is the value of the text of its file, in which no key is repeated, and of its compact
text. And a text without repeated keys whose value the schema accepts is read as a report of the
current version, which is written as the same value up to the order of keys. -/
theorem schema_agrees :
    (∀ r : Report, r.version = currentVersion → schema.Accepts r.toJson ∧
      Json.parse r.fileText = .ok r.toJson ∧ Json.KeysDistinct r.fileText ∧
      Json.parse r.toJson.compact = .ok r.toJson) ∧
    ∀ text v, Json.parse text = .ok v → Json.KeysDistinct text → schema.Accepts v →
      ∃ r, Report.read text = .ok r ∧ r.checkVersion = .ok () ∧ r.toJson.Alike v := by
  refine ⟨fun r hversion => ⟨accepts_toJson hversion, r.parse_fileText, r.keysDistinct_fileText,
    Json.parse_compact (r.plain_toJson 124)⟩, fun text v hparse hdistinct haccepts => ?_⟩
  obtain ⟨w, hw, hsame⟩ := Json.listing_of_parse hparse
  have hkeys := hdistinct w hw
  obtain rfl := hsame hkeys
  obtain ⟨hversion, halike⟩ := ofJson_of_accepts haccepts hkeys
  refine ⟨ofJson w, ?_, if_pos hversion, halike⟩
  unfold Report.read
  rw [(reader_admits haccepts hkeys).read hw]
  rfl

/-- The value of a report whose keys are in no order. -/
def shuffled : Value :=
  .object
    [("version", .string "2.0"),
     ("diagnostics", .array [.object
       [("status", .string "warn"), ("node_type", .string "check_uv"),
        ("message", .string "a\n\"b\""), ("node_name", .string "check_uv1")]]),
     ("user", .string ""), ("timestamp", .string "now"), ("cook_success", .bool true),
     ("host", .string "ws01"), ("asset_path", .string "a/b.fbx")]

theorem schema_agrees_shuffled :
    Json.parse shuffled.compact = .ok shuffled ∧ Json.KeysDistinct shuffled.compact ∧
    schema.Accepts shuffled ∧
    ∃ r, Report.read shuffled.compact = .ok r ∧ r.checkVersion = .ok () ∧
      r.toJson.Alike shuffled ∧ schema.Accepts r.toJson := by
  have hplain : shuffled.Plain Json.depthLimit := by
    refine .object (by decide) ?_
    simp only [List.forall_mem_cons]
    refine ⟨.string _ _, .array (List.forall_mem_singleton.2 (.object (by decide) ?_)), .string _ _,
      .string _ _, .bool _ _, .string _ _, .string _ _, List.forall_mem_nil _⟩
    simp only [List.forall_mem_cons]
    exact ⟨.string _ _, .string _ _, .string _ _, .string _ _, List.forall_mem_nil _⟩
  have hdiagnostic : ∀ d ∈ [Value.object
      [("status", .string "warn"), ("node_type", .string "check_uv"),
        ("message", .string "a\n\"b\""), ("node_name", .string "check_uv1")]],
      diagnosticSchema.Accepts d := by
    refine List.forall_mem_singleton.2 ((@accepts_closedObject_iff _ [] _ (by decide) (by decide)).2
      ⟨_, rfl, by decide, ?_⟩)
    simp only [List.forall_mem_cons]
    exact ⟨⟨_, rfl, accepts_string _⟩, ⟨_, rfl, accepts_string _⟩, ⟨_, rfl, accepts_string _⟩,
      ⟨_, rfl, accepts_enum_iff.2 ⟨"warn", by decide, rfl⟩⟩, List.forall_mem_nil _⟩
  have haccepts : schema.Accepts shuffled := by
    refine (accepts_closedObject_iff (by decide) (by decide)).2 ⟨_, rfl, by decide, ?_⟩
    simp only [List.forall_mem_cons]
    exact ⟨⟨_, rfl, accepts_string _⟩, ⟨_, rfl, accepts_boolean_iff.2 ⟨_, rfl⟩⟩,
      ⟨_, rfl, accepts_array_iff.2 ⟨_, rfl, hdiagnostic⟩⟩, ⟨_, rfl, accepts_string _⟩,
      ⟨_, rfl, accepts_format_iff.2 ⟨_, rfl⟩⟩, ⟨_, rfl, accepts_string _⟩,
      ⟨_, rfl, accepts_const_iff.2 rfl⟩, List.forall_mem_nil _⟩
  have hparse := Json.parse_compact hplain
  have hdistinct := Json.keysDistinct_compact hplain
  obtain ⟨r, hread, hversion, halike⟩ := schema_agrees.2 _ _ hparse hdistinct haccepts
  have hcurrent : r.version = currentVersion := by
    unfold checkVersion at hversion
    split at hversion
    · assumption
    · cases hversion
  exact ⟨hparse, hdistinct, haccepts, r, hread, hversion, halike, (schema_agrees.1 r hcurrent).1⟩

end AssetCheck.Report
