import AssetCheck.Decimal.Shortest

/-!
Written numbers. A layout says how the digits of a double become text: up to which size the digits are
written out around a point, whether a whole number shows its point, and which way a tie goes.
-/

namespace AssetCheck.Decimal

/-- The choices of one written form. -/
structure Layout where
  /-- Leading exponents, from the first up to but not including the second, that are written out; other
  numbers get an exponent. Without bounds all numbers are written out. -/
  writtenOut : Option (Int × Int)
  /-- A whole number that is written out ends in `.0`. -/
  showsPoint : Bool
  tie : Tie

/-- The form of a number inside a sentence: written out, and a whole number without a point. -/
def Layout.plain : Layout := ⟨none, false, .up⟩

/-- The form of a floating number in JSON: written out from 1e-5 up to 1e16, with a point. -/
def Layout.json : Layout := ⟨some (-5, 16), true, .toEven⟩

def zeros (n : Nat) : String := String.ofList (List.replicate n '0')

/-- Digits around a point that stands after the first `point` of them. -/
def writeOut (showsPoint : Bool) (ds : List Char) (point : Int) : String :=
  if point ≤ 0 then
    "0." ++ zeros (-point).toNat ++ String.ofList ds
  else if ds.length ≤ point.toNat then
    String.ofList ds ++ zeros (point.toNat - ds.length) ++ (if showsPoint then ".0" else "")
  else
    String.ofList (ds.take point.toNat) ++ "." ++ String.ofList (ds.drop point.toNat)

/-- One digit before the point, then the others and a signed exponent. -/
def writeExponent (ds : List Char) (lead : Int) : String :=
  let rest := ds.drop 1
  String.ofList (ds.take 1) ++ (if rest.isEmpty then "" else "." ++ String.ofList rest) ++ "e" ++
    (if lead < 0 then "-" else "+") ++ toString lead.natAbs

/-- A double other than the infinities and the one that is no number, without its sign. -/
def Layout.writeFinite (layout : Layout) (b : Binary) : String :=
  let d := shortest layout.tie b
  let ds := Nat.toDigits 10 d.digits
  let point := ds.length + d.exponent
  match layout.writtenOut with
  | none => writeOut layout.showsPoint ds point
  | some (low, high) =>
    if d.digits = 0 ∨ (low ≤ point - 1 ∧ point - 1 < high) then writeOut layout.showsPoint ds point
    else writeExponent ds (point - 1)

def Layout.write (layout : Layout) (x : Float) : String :=
  if x.isNaN then "NaN"
  else
    let b := Binary.ofFloat x
    (if b.negative then "-" else "") ++ (if x.isInf then "inf" else layout.writeFinite b)

end AssetCheck.Decimal
