import AssetCheck.Decimal.Layout
import AssetCheck.Json.Value

/-!
JSON text of values, compact or indented by two spaces. A string escapes quotes, backslashes and control
characters; every other character stands for itself.
-/

namespace AssetCheck.Json

def hexDigit (n : Nat) : Char := Nat.digitChar n

/-- One character inside a string. -/
def escapeChar (c : Char) : List Char :=
  match c with
  | '"' => ['\\', '"']
  | '\\' => ['\\', '\\']
  | '\x08' => ['\\', 'b']
  | '\x0c' => ['\\', 'f']
  | '\n' => ['\\', 'n']
  | '\r' => ['\\', 'r']
  | '\t' => ['\\', 't']
  | c =>
    if c.toNat < 0x20 then ['\\', 'u', '0', '0', hexDigit (c.toNat / 16), hexDigit (c.toNat % 16)]
    else [c]

def writeString (s : String) : String := String.ofList ('"' :: s.toList.flatMap escapeChar ++ ['"'])

def Number.write : Number → String
  | .int n => toString n
  | .float x => Decimal.Layout.json.write x

mutual

/-- The text of a value on one line, without spaces. -/
def Value.compact : Value → String
  | .null => "null"
  | .bool true => "true"
  | .bool false => "false"
  | .number n => n.write
  | .string s => writeString s
  | .array vs => "[" ++ String.intercalate "," (compactElements vs) ++ "]"
  | .object ms => "\x7b" ++ String.intercalate "," (compactMembers ms) ++ "\x7d"

/-- The elements of an array, each on one line. -/
def compactElements : List Value → List String
  | [] => []
  | v :: vs => v.compact :: compactElements vs

/-- The members of an object, each on one line. -/
def compactMembers : List (String × Value) → List String
  | [] => []
  | (k, v) :: ms => (writeString k ++ ":" ++ v.compact) :: compactMembers ms

end

/-- A line feed and the indentation of a depth. -/
def newLine (depth : Nat) : String := String.ofList ('\n' :: List.replicate (2 * depth) ' ')

mutual

/-- The text of a value with an element or member a line, inside `depth` others. -/
def Value.prettyAt (depth : Nat) : Value → String
  | .null => "null"
  | .bool true => "true"
  | .bool false => "false"
  | .number n => n.write
  | .string s => writeString s
  | .array [] => "[]"
  | .array (v :: vs) =>
    "[" ++ String.intercalate "," (prettyElements (depth + 1) (v :: vs)) ++ newLine depth ++ "]"
  | .object [] => "\x7b\x7d"
  | .object (m :: ms) =>
    "\x7b" ++ String.intercalate "," (prettyMembers (depth + 1) (m :: ms)) ++ newLine depth ++ "\x7d"

/-- The elements of an array, each on its own line. -/
def prettyElements (depth : Nat) : List Value → List String
  | [] => []
  | v :: vs => (newLine depth ++ v.prettyAt depth) :: prettyElements depth vs

/-- The members of an object, each on its own line. -/
def prettyMembers (depth : Nat) : List (String × Value) → List String
  | [] => []
  | (k, v) :: ms =>
    (newLine depth ++ writeString k ++ ": " ++ v.prettyAt depth) :: prettyMembers depth ms

end

/-- The text of a value with an element or member a line. -/
def Value.pretty (v : Value) : String := v.prettyAt 0

example : writeString "" = "\"\"" := by decide

end AssetCheck.Json
