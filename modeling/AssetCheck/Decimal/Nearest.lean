/-!
Decimals read as doubles. A decimal stands for the double nearest to it, infinity if it is too large.
-/

namespace AssetCheck.Decimal

/-- The value of decimal digits, the first one the most significant. -/
def ofDigits (ds : List Char) : Nat := ds.foldl (fun n c => 10 * n + (c.toNat - 48)) 0

def digitCount (n : Nat) : Nat := (Nat.toDigits 10 n).length

/-- Beyond any double. -/
def infinity : Float := 1 / 0

/-- The double nearest to `digits * 10 ^ exponent`. Decimals of more than 310 places before the point
are beyond every double, and those that start 330 places after it are nearest to zero. -/
def nearest (digits : Nat) (exponent : Int) : Float :=
  let places := digitCount digits + exponent
  if digits = 0 ∨ places < -330 then 0
  else if places > 310 then infinity
  else Float.ofScientific digits (exponent < 0) exponent.natAbs

/-- A sign and the characters after it. -/
def splitSign : List Char → Bool × List Char
  | '-' :: rest => (true, rest)
  | '+' :: rest => (false, rest)
  | cs => (false, cs)

/-- A signed exponent, at least one digit, and nothing after it. -/
def readExponent? : List Char → Option Int
  | [] => some 0
  | c :: rest =>
    let (negative, ds) := splitSign rest
    if (c = 'e' ∨ c = 'E') ∧ ds ≠ [] ∧ ds.all Char.isDigit then
      some (if negative then -(ofDigits ds : Int) else ofDigits ds)
    else none

/-- Digits with or without a point and an exponent, without a sign. -/
def readUnsigned? (cs : List Char) : Option Float :=
  match (String.ofList cs).toLower with
  | "inf" | "infinity" => some infinity
  | "nan" => some (0 / 0)
  | _ =>
    let whole := cs.takeWhile Char.isDigit
    let rest := cs.dropWhile Char.isDigit
    let (fraction, rest) : List Char × List Char :=
      match rest with
      | '.' :: rest => (rest.takeWhile Char.isDigit, rest.dropWhile Char.isDigit)
      | rest => ([], rest)
    if whole.isEmpty ∧ fraction.isEmpty then none
    else (readExponent? rest).map fun e => nearest (ofDigits (whole ++ fraction)) (e - fraction.length)

/-- Reads a number, infinity or the value that is no number. -/
def read? (s : String) : Option Float :=
  let (negative, cs) := splitSign s.toList
  (readUnsigned? cs).map fun x => if negative then -x else x

end AssetCheck.Decimal
