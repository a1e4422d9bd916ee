import AssetCheck.Table

/-!
JSON values. A number is whole or a double; an object lists its members in the order of the text.
-/

namespace AssetCheck.Json

/-- A number of a JSON text. -/
inductive Number
  | int (n : Int)
  | float (x : Float)

inductive Value
  | null
  | bool (b : Bool)
  | number (n : Number)
  | string (s : String)
  | array (elements : List Value)
  | object (members : List (String × Value))
  deriving Inhabited

/-- The members of an object as a text lists them: a repeated key keeps its first place and takes its
last value. -/
def Value.ofMembers (members : List (String × Value)) : Value := .object (Table.ofList members)

abbrev Value.int (n : Int) : Value := .number (.int n)

/-- A whole number that is not negative. -/
abbrev Value.nat (n : Nat) : Value := .number (.int n)

def Value.asString? : Value → Option String
  | .string s => some s
  | _ => none

def Value.asBool? : Value → Option Bool
  | .bool b => some b
  | _ => none

/-- A whole number that is not negative. -/
def Value.asNat? : Value → Option Nat
  | .number (.int (.ofNat n)) => some n
  | _ => none

def Value.asArray? : Value → Option (List Value)
  | .array vs => some vs
  | _ => none

def Value.asObject? : Value → Option (Table String Value)
  | .object ms => some ms
  | _ => none

def Value.asStrings? (v : Value) : Option (List String) := v.asArray?.bind (·.mapM asString?)

/-- An array of whole numbers that are not negative. -/
def Value.asNats? (v : Value) : Option (List Nat) := v.asArray?.bind (·.mapM asNat?)

/-! ## Members of a value of known shape -/

/-- The member of an object with a key. -/
def Value.member? (v : Value) (key : String) : Option Value := v.asObject?.bind (·.get? key)

def Value.stringAt (v : Value) (key : String) (default : String) : String :=
  ((v.member? key).bind asString?).getD default

def Value.boolAt (v : Value) (key : String) (default : Bool) : Bool :=
  ((v.member? key).bind asBool?).getD default

def Value.stringsAt (v : Value) (key : String) (default : List String) : List String :=
  ((v.member? key).bind asStrings?).getD default

/-- The elements of the array under a key. -/
def Value.elementsAt (v : Value) (key : String) : List Value :=
  ((v.member? key).bind asArray?).getD []

end AssetCheck.Json
