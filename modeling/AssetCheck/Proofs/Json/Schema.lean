import Mathlib.Data.List.Forall2
import AssetCheck.Json.Value
import AssetCheck.Proofs.Table

/-!
# Schemas

A schema is a JSON value whose members, its keywords, each ask something of a value
(`Value.Accepts`). Keywords for lists or objects ask nothing of other values, and a member that is
no keyword asks nothing at all. Values count as equal if they differ in the order of keys only
(`Value.Alike`).
-/

namespace AssetCheck.Json

/-! ## Values up to the order of keys -/

/-- The values differ at most in the order in which objects list their keys. -/
inductive Value.Alike : Value → Value → Prop
  | null : Alike .null .null
  | bool (b : Bool) : Alike (.bool b) (.bool b)
  | number (n : Number) : Alike (.number n) (.number n)
  | string (s : String) : Alike (.string s) (.string s)
  | array {vs ws : List Value} : List.Forall₂ Alike vs ws → Alike (.array vs) (.array ws)
  | object {ms ns : Table String Value} : ms.keys.Nodup → ns.keys.Nodup →
      (∀ key, key ∈ ms.keys ↔ key ∈ ns.keys) →
      (∀ key v w, ms.get? key = some v → ns.get? key = some w → Alike v w) →
      Alike (.object ms) (.object ns)

@[simp] theorem Value.alike_string_iff {v : Value} {s : String} :
    v.Alike (.string s) ↔ v = .string s := by
  constructor
  · intro h
    cases h
    rfl
  · rintro rfl
    exact .string s

theorem Value.alike_object {ms ns : Table String Value} (hms : ms.keys.Nodup) (hns : ns.keys.Nodup)
    (hkeys : ∀ key ∈ ns.keys, key ∈ ms.keys)
    (h : ∀ m ∈ ms, ∃ w, ns.get? m.1 = some w ∧ m.2.Alike w) :
    Value.Alike (.object ms) (.object ns) := by
  refine .object hms hns (fun key => ⟨fun hkey => ?_, hkeys key⟩) fun key v w hv hw => ?_
  · obtain ⟨m, hm, rfl⟩ := List.mem_map.1 hkey
    obtain ⟨w, hw, -⟩ := h m hm
    exact Table.mem_keys_iff.2 ⟨w, hw⟩
  · obtain ⟨w', hw', halike⟩ := h _ (Table.mem_of_get? hv)
    rw [hw] at hw'
    cases hw'
    exact halike

/-! ## Keywords -/

/-- The name of a value's type. Whole numbers are not told apart. -/
def Value.typeName : Value → String
  | .null => "null"
  | .bool _ => "boolean"
  | .number _ => "number"
  | .string _ => "string"
  | .array _ => "array"
  | .object _ => "object"

inductive Value.Accepts : Value → Value → Prop
  | anything (v : Value) : Accepts (.bool true) v
  | keywords {keywords : Table String Value} {v : Value}
      (type : ∀ name, keywords.get? "type" = some (.string name) → v.typeName = name)
      (enum : ∀ choices, keywords.get? "enum" = some (.array choices) →
        ∃ choice ∈ choices, v.Alike choice)
      (const : ∀ choice, keywords.get? "const" = some choice → v.Alike choice)
      (required : ∀ names, keywords.get? "required" = some (.array names) →
        ∀ ms, v = .object ms → ∀ key, .string key ∈ names → key ∈ Table.keys ms)
      (properties : ∀ schemas, keywords.get? "properties" = some (.object schemas) →
        ∀ ms, v = .object ms → ∀ key schema w, Table.get? schemas key = some schema →
          Table.get? ms key = some w → Accepts schema w)
      (additional : ∀ schema, keywords.get? "additionalProperties" = some schema →
        ∀ ms, v = .object ms → ∀ key w, Table.get? ms key = some w →
          (∀ schemas, keywords.get? "properties" = some (.object schemas) →
            key ∉ Table.keys schemas) → Accepts schema w)
      (items : ∀ schema, keywords.get? "items" = some schema →
        ∀ vs, v = .array vs → ∀ w ∈ vs, Accepts schema w) :
      Accepts (.object keywords) v

namespace Value

variable {v : Value}

theorem typeName_eq_string_iff : v.typeName = "string" ↔ ∃ s, v = .string s := by
  cases v <;> simp [typeName]

theorem typeName_eq_boolean_iff : v.typeName = "boolean" ↔ ∃ b, v = .bool b := by
  cases v <;> simp [typeName]

theorem typeName_eq_array_iff : v.typeName = "array" ↔ ∃ vs, v = .array vs := by
  cases v <;> simp [typeName]

theorem typeName_eq_object_iff : v.typeName = "object" ↔ ∃ ms, v = .object ms := by
  cases v <;> simp [typeName]

theorem not_accepts_false : ¬ Accepts (.bool false) v := by
  intro h
  cases h

/-- Without keywords for lists or objects, a schema asks for a type and for one of some values. -/
theorem accepts_scalar_iff {keywords : Table String Value}
    (hnone : ∀ key ∈ ["required", "properties", "additionalProperties", "items"],
      keywords.get? key = none) :
    Accepts (.object keywords) v ↔
      (∀ name, keywords.get? "type" = some (.string name) → v.typeName = name) ∧
      (∀ choices, keywords.get? "enum" = some (.array choices) →
        ∃ choice ∈ choices, v.Alike choice) ∧
      ∀ choice, keywords.get? "const" = some choice → v.Alike choice := by
  simp only [List.forall_mem_cons] at hnone
  obtain ⟨hrequired, hproperties, hadditional, hitems, -⟩ := hnone
  constructor
  · intro h
    cases h with
    | keywords type enum const => exact ⟨type, enum, const⟩
  · rintro ⟨type, enum, const⟩
    refine .keywords type enum const ?_ ?_ ?_ ?_
    · simp [hrequired]
    · simp [hproperties]
    · simp [hadditional]
    · simp [hitems]

end Value

end AssetCheck.Json
