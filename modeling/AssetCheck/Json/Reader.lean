import AssetCheck.Json.Parser
import AssetCheck.Json.Skip

/-!
Readers of values of a known shape. A reader refuses a text at the first place where it leaves the shape
or is no JSON; what it returns is a value of the shape, in which each record is an object with the
members that the text gives.

A record may be written as an object, or as a list of its fields in their order.
-/

namespace AssetCheck.Json

/-- Reads a value in which lists and objects nest to a given depth. -/
abbrev Reader := Nat → Scan Value

/-- Refuses the next value for its type. A scalar is read before it is refused. -/
def refuse {α : Type} (expected : String) (cs : List Char) : Except Fault α :=
  match cs with
  | '[' :: _ => .error (.before (.wrongType .sequence expected) cs)
  | '{' :: _ => .error (.before (.wrongType .map expected) cs)
  | cs => do
    let (v, rest) ← scanValue 0 cs
    let found : Found :=
      match v with
      | .bool b => .bool b
      | .number n => .number n
      | .string s => .string s
      | _ => .null
    .error (.before (.wrongType found expected) rest)

def text : Reader := fun _ cs =>
  match skipSpace cs with
  | [] => .error (.before .endOfValue [])
  | '"' :: rest => do
    let (s, rest) ← scanString rest
    .ok (.string s, rest)
  | rest => refuse "a string" rest

def flag : Reader := fun _ cs =>
  match skipSpace cs with
  | [] => .error (.before .endOfValue [])
  | 't' :: rest => scanValue 0 ('t' :: rest)
  | 'f' :: rest => scanValue 0 ('f' :: rest)
  | rest => refuse "a boolean" rest

def natural : Reader := fun _ cs =>
  match skipSpace cs with
  | [] => .error (.before .endOfValue [])
  | c :: rest =>
    if c = '-' ∨ c.isDigit then do
      let (v, rest) ← scanValue 0 (c :: rest)
      match v with
      | .number (.float x) => .error (.before (.wrongType (.number (.float x)) "u64") rest)
      | .number (.int (.negSucc n)) =>
        .error (.before (.wrongValue (.number (.int (.negSucc n))) "u64") rest)
      | v => .ok (v, rest)
    else refuse "u64" (c :: rest)

def anything : Reader := scanValue

def nullOr (reader : Reader) : Reader := fun depth cs =>
  match skipSpace cs with
  | 'n' :: rest => scanValue 0 ('n' :: rest)
  | rest => reader depth rest

def listOf (reader : Reader) : Reader := fun depth cs =>
  match skipSpace cs with
  | [] => .error (.before .endOfValue [])
  | '[' :: rest =>
    match depth with
    | 0 => .error (.atNext .nestedTooDeep ('[' :: rest))
    | depth + 1 => do
      let (vs, rest) ← scanList (reader depth) rest
      .ok (.array vs, rest)
  | rest => refuse "a sequence" rest

/-- One of some words: a string, or an object whose only key is the word and whose value is null. -/
def oneOf (words : List String) : Reader := fun depth cs =>
  let word (cs : List Char) : Except Fault (String × List Char) := do
    let (s, rest) ← scanString cs
    if s ∈ words then .ok (s, rest) else .error (.before (.unknownVariant s words) rest)
  match skipSpace cs with
  | [] => .error (.before .endOfValue [])
  | '"' :: rest => do
    let (s, rest) ← word rest
    .ok (.string s, rest)
  | '{' :: rest =>
    match depth with
    | 0 => .error (.atNext .nestedTooDeep ('{' :: rest))
    | _ + 1 => do
      let (s, rest) ←
        match skipSpace rest with
        | [] => Except.error (.before .endOfValue [])
        | '"' :: rest => word rest
        | rest => refuse "variant identifier" rest
      let rest ← scanColon rest
      let rest ←
        match skipSpace rest with
        | [] => Except.error (.before .endOfValue [])
        | 'n' :: rest => scanWord ['u', 'l', 'l'] rest
        | rest => refuse "unit" rest
      match skipSpace rest with
      | [] => .error (.before .endOfObject [])
      | '}' :: rest => .ok (.string s, rest)
      | rest => .error (.before .noValue rest)
  | rest => .error (.atNext .noValue rest)

/-! ## Records -/

structure Field where
  name : String
  /-- A text may leave the field out. -/
  optional : Bool
  reader : Reader

/-- A field that a text must give. -/
abbrev Field.required (name : String) (reader : Reader) : Field := ⟨name, false, reader⟩

/-- A field that a text may leave out. -/
abbrev Field.optionally (name : String) (reader : Reader) : Field := ⟨name, true, reader⟩

/-- The text after the end of an object, if that is what comes next. -/
def passEnd (cs : List Char) : List Char :=
  match skipSpace cs with
  | '}' :: rest => rest
  | rest => rest

/-- The end of a list in which all fields have been read. -/
def closeList (cs : List Char) : Except Fault (List Char) :=
  match skipSpace cs with
  | [] => .error (.before .endOfList [])
  | ']' :: rest => .ok rest
  | ',' :: rest =>
    match skipSpace rest with
    | ']' :: rest => .error (.atNext .trailingComma (']' :: rest))
    | rest => .error (.atNext .trailingCharacters rest)
  | rest => .error (.atNext .trailingCharacters rest)

/-- Fields in their order from a list after its opening bracket; a list may end before fields that can
be left out. -/
def scanPositional (record : String) (total depth : Nat) :
    List Field → List (String × Value) → Scan (List (String × Value))
  | [], read, cs => .ok (read.reverse, cs)
  | field :: fields, read, cs =>
    let next (cs : List Char) : Except Fault (List (String × Value) × List Char) := do
      let (v, cs) ← field.reader depth cs
      scanPositional record total depth fields ((field.name, v) :: read) cs
    match skipSpace cs with
    | [] => .error (.before .endOfList [])
    | ']' :: rest =>
      if field.optional then scanPositional record total depth fields read (']' :: rest)
      else .error (.before (.tooFew (total - (fields.length + 1)) record total) rest)
    | c :: rest =>
      if read.isEmpty then next (c :: rest)
      else if c = ',' then
        match skipSpace rest with
        | [] => .error (.before .endOfValue [])
        | ']' :: rest => .error (.atNext .trailingComma (']' :: rest))
        | rest => next rest
      else .error (.atNext .noListSeparator (c :: rest))

/-- A member of a record: its value, if the key is a field that has not been given yet. -/
def scanField (strict : Bool) (fields : List Field) (depth : Nat) (key : String)
    (known : List (String × Value)) : Scan (List (String × Value)) := fun cs =>
  match fields.find? (·.name = key) with
  | none =>
    if strict then .error (.before (.unknownField key (fields.map (·.name))) (passEnd cs))
    else do
      let cs ← scanColon cs
      let cs ← skipValue cs
      .ok (known, cs)
  | some field =>
    if known.any (·.1 = key) then .error (.before (.duplicateField key) (passEnd cs))
    else do
      let cs ← scanColon cs
      let (v, cs) ← field.reader depth cs
      .ok ((key, v) :: known, cs)

/-- A record. A strict one refuses members that it has no field for, others skip them. -/
def record (name : String) (strict : Bool) (fields : List Field) : Reader := fun depth cs =>
  match skipSpace cs with
  | [] => .error (.before .endOfValue [])
  | '[' :: rest =>
    match depth with
    | 0 => .error (.atNext .nestedTooDeep ('[' :: rest))
    | depth + 1 => do
      let (ms, rest) ← scanPositional name fields.length depth fields [] rest
      let rest ← closeList rest
      .ok (.object ms, rest)
  | '{' :: rest =>
    match depth with
    | 0 => .error (.atNext .nestedTooDeep ('{' :: rest))
    | depth + 1 => do
      let (ms, rest) ← scanObject (scanField strict fields depth) [] rest
      match fields.find? fun field => ¬ field.optional ∧ ms.all (·.1 ≠ field.name) with
      | some field => .error (.before (.missingField field.name) rest)
      | none => .ok (.object ms.reverse, rest)
  | rest => refuse ("struct " ++ name) rest

/-- Reads a whole text of a known shape. -/
def Reader.read (reader : Reader) (text : String) : Except Error Value :=
  readAll (reader depthLimit) text

end AssetCheck.Json
