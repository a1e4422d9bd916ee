import AssetCheck.Decimal.Binary

/-!
Shortest decimals. A double is written with the fewest digits that still read back as it, and of these
decimals with the nearest one. All comparisons are between whole numbers: a decimal `d * 10 ^ k` and
quarters of the double's unit are brought to a common denominator.
-/

namespace AssetCheck.Decimal

/-- Which of two equally near decimals is written. -/
inductive Tie
  /-- The one with an even last digit. -/
  | toEven
  /-- The larger one. -/
  | up
  deriving DecidableEq, Repr

/-- The decimal `digits * 10 ^ exponent`. -/
structure Digits where
  digits : Nat
  exponent : Int
  deriving DecidableEq, Repr

/-- Decimals and quarters of a double's unit over one denominator: `d * 10 ^ k` is `d * decimal` and `x`
quarters are `x * quarter`. -/
structure Grid where
  decimal : Nat
  quarter : Nat

/-- The common denominator of the decimals with exponent `k` and the quarters of `b`. -/
def Grid.of (b : Binary) (k : Int) : Grid :=
  let e := b.exponent - 2
  { decimal := Nat.pow 10 k.toNat * Nat.pow 2 (-e).toNat
    quarter := Nat.pow 2 e.toNat * Nat.pow 10 (-k).toNat }

/-- The point lies among the reals that round to `b`; the ends belong to an even significand. -/
def Grid.roundsTo (g : Grid) (b : Binary) (point : Nat) : Bool :=
  let low := (4 * b.significand - b.quartersBelow) * g.quarter
  let high := (4 * b.significand + 2) * g.quarter
  if b.significand % 2 = 0 then low ≤ point && point ≤ high else low < point && point < high

/-- Of the whole numbers `d` and `d + 1`, the one nearer to `d + remainder / unit`. -/
def Tie.choose (tie : Tie) (d remainder unit : Nat) : Nat :=
  if 2 * remainder < unit then d
  else if 2 * remainder > unit then d + 1
  else
    match tie with
    | .toEven => d + d % 2
    | .up => d + 1

/-- The nearest decimal with exponent `k` that reads back as `b`: one of the two beside it. -/
def nearestOn? (tie : Tie) (b : Binary) (k : Int) : Option Digits :=
  let g := Grid.of b k
  let exact := 4 * b.significand * g.quarter
  let d := exact / g.decimal
  match g.roundsTo b (d * g.decimal), g.roundsTo b ((d + 1) * g.decimal) with
  | true, true => some ⟨tie.choose d (exact % g.decimal) g.decimal, k⟩
  | true, false => some ⟨d, k⟩
  | false, true => some ⟨d + 1, k⟩
  | false, false => none

/-- The exponent of the leading decimal digit of a number other than zero. -/
def leadingExponent (b : Binary) : Int :=
  let guess := ((b.significand.log2 : Int) + b.exponent) * 30103 / 100000
  let g := Grid.of b (guess + 1)
  if g.decimal ≤ 4 * b.significand * g.quarter then guess + 1 else guess

/-- The shortest decimal that reads back as `b`. The search begins above the leading digit, for a number
just below a power of ten, and seventeen digits always read back. -/
def shortest (tie : Tie) (b : Binary) : Digits :=
  if b.significand = 0 then ⟨0, 0⟩
  else
    let lead := leadingExponent b
    ((List.range 18).findSome? fun (n : Nat) => nearestOn? tie b (lead + 1 - n)).getD ⟨0, 0⟩

end AssetCheck.Decimal
