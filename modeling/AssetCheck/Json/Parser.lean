import AssetCheck.Json.Scan

/-!
Values from JSON text. Lists and objects nest to a depth of 127; what opens one more is refused.
-/

namespace AssetCheck.Json

/-- How many lists and objects may be open at once. -/
def depthLimit : Nat := 127

/-- A value, in which `inner` reads the values of lists and objects, if these may open. -/
def scanValueWith (inner : Option (Scan Value)) : Scan Value := fun cs =>
  match skipSpace cs with
  | [] => .error (.before .endOfValue [])
  | 'n' :: rest => do
    let rest ← scanWord ['u', 'l', 'l'] rest
    .ok (.null, rest)
  | 't' :: rest => do
    let rest ← scanWord ['r', 'u', 'e'] rest
    .ok (.bool true, rest)
  | 'f' :: rest => do
    let rest ← scanWord ['a', 'l', 's', 'e'] rest
    .ok (.bool false, rest)
  | '"' :: rest => do
    let (s, rest) ← scanString rest
    .ok (.string s, rest)
  | '-' :: rest => do
    let (n, rest) ← scanUnsigned true rest
    .ok (.number n, rest)
  | '[' :: rest =>
    match inner with
    | none => .error (.atNext .nestedTooDeep ('[' :: rest))
    | some inner => do
      let (vs, rest) ← scanList inner rest
      .ok (.array vs, rest)
  | '{' :: rest =>
    match inner with
    | none => .error (.atNext .nestedTooDeep ('{' :: rest))
    | some inner => do
      let (ms, rest) ← scanObject
        (fun key known cs => do
          let cs ← scanColon cs
          let (v, cs) ← inner cs
          .ok ((key, v) :: known, cs)) [] rest
      .ok (Value.ofMembers ms.reverse, rest)
  | c :: rest =>
    if c.isDigit then do
      let (n, rest) ← scanUnsigned false (c :: rest)
      .ok (.number n, rest)
    else .error (.atNext .noValue (c :: rest))

/-- A value in which lists and objects nest to the given depth. -/
def scanValue : Nat → Scan Value
  | 0 => scanValueWith none
  | depth + 1 => scanValueWith (some (scanValue depth))

/-- Nothing but blanks may follow. -/
def scanEnd (cs : List Char) : Except Fault Unit :=
  match skipSpace cs with
  | [] => .ok ()
  | rest => .error (.atNext .trailingCharacters rest)

def readAll {α : Type} (scan : Scan α) (text : String) : Except Error α :=
  let cs := text.toList
  let result := do
    let (x, rest) ← scan cs
    scanEnd rest
    return x
  result.mapError (Fault.report cs)

def parse (text : String) : Except Error Value := readAll (scanValue depthLimit) text

end AssetCheck.Json
