/-!
Doubles taken apart. A finite double is a sign, a whole significand and a power of two; the reals that
round to it form an interval around it, whose ends are half way to its two neighbours.
-/

namespace AssetCheck.Decimal

/-- The number `significand * 2 ^ exponent`, with a sign. -/
structure Binary where
  negative : Bool
  significand : Nat
  exponent : Int
  deriving DecidableEq, Repr

/-- The least significand of a double that is not subnormal, which is the bit that its stored fraction
leaves out. -/
def leadingBit : Nat := 0x10000000000000

/-- The parts of a finite double. -/
def Binary.ofFloat (x : Float) : Binary :=
  let bits := x.toBits.toNat
  let fraction := bits % leadingBit
  let biased := bits / leadingBit % 0x800
  { negative := bits / 0x8000000000000000 == 1
    significand := if biased = 0 then fraction else leadingBit + fraction
    exponent := (max biased 1 : Nat) - 1075 }

/-- A quarter of the distance from the number down to its neighbour, in quarters of its own unit: the
neighbour below a power of two is nearer, unless both are subnormal. -/
def Binary.quartersBelow (b : Binary) : Nat :=
  if b.significand = leadingBit ∧ b.exponent > -1074 then 1 else 2

example : Binary.ofFloat 1 = ⟨false, leadingBit, -52⟩ := by decide

example : Binary.ofFloat (-0.0) = ⟨true, 0, -1074⟩ := by decide

end AssetCheck.Decimal
