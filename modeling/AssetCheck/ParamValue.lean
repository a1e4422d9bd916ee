import AssetCheck.Json.Parser

/-!
Parameter values. A parameter of a node holds a truth value, a whole number of 64 bits, a double or a
text; JSON scalars other than null stand for them.
-/

namespace AssetCheck

inductive ParamValue
  | bool (b : Bool)
  | int (n : Int64)
  | float (x : Float)
  | text (s : String)
  deriving BEq

/-- A whole number that fits 64 bits with a sign. -/
def int64? (n : Int) : Option Int64 :=
  if Int64.minValue.toInt ≤ n ∧ n ≤ Int64.maxValue.toInt then some (Int64.ofInt n) else none

/-- The double nearest to a whole number. -/
def nearestFloat (n : Int) : Float :=
  if n < 0 then -Decimal.nearest n.natAbs 0 else Decimal.nearest n.natAbs 0

namespace ParamValue

def asText? : ParamValue → Option String
  | .text s => some s
  | _ => none

/-- The value as messages show it. -/
def display : ParamValue → String
  | .bool b => toString b
  | .int n => toString n.toInt
  | .float x => Decimal.Layout.plain.write x
  | .text s => s

/-- The value where a text is needed, such as a path. -/
def asPath (v : ParamValue) : String := v.asText?.getD v.display

/-- The value in JSON, where a double that is not finite is null. -/
def toJson : ParamValue → Json.Value
  | .bool b => .bool b
  | .int n => .int n.toInt
  | .float x => if x.isFinite then .number (.float x) else .null
  | .text s => .string s

/-- The value of a JSON scalar. A whole number beyond 64 bits with a sign becomes a double. -/
def ofJson? : Json.Value → Option ParamValue
  | .bool b => some (.bool b)
  | .number (.int n) => some ((int64? n).elim (.float (nearestFloat n)) .int)
  | .number (.float x) => some (.float x)
  | .string s => some (.text s)
  | _ => none

/-! ## One kind after the other -/

/-- A whole number of 64 bits. -/
def int64Of? : Json.Value → Option Int64
  | .number (.int n) => int64? n
  | _ => none

def floatOf? : Json.Value → Option Float
  | .number (.int n) => some (nearestFloat n)
  | .number (.float x) => some x
  | _ => none

/-- The first kind of value that fits, in the order truth value, whole number, double, text. -/
def firstFit? (v : Json.Value) : Option ParamValue :=
  v.asBool?.map .bool <|> (int64Of? v).map .int <|> (floatOf? v).map .float <|>
    v.asString?.map .text

def read (text : String) : Except Json.Error ParamValue :=
  let cs := text.toList
  match Json.scanValue Json.depthLimit cs with
  | .error fault => .error (fault.report cs)
  | .ok (v, rest) =>
    match firstFit? v with
    | none => .error ⟨.noVariantFits "ParamValue", none⟩
    | some value =>
      match Json.scanEnd rest with
      | .error fault => .error (fault.report cs)
      | .ok () => .ok value

end ParamValue

end AssetCheck
