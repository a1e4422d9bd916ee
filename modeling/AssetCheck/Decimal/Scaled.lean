import AssetCheck.Decimal.Nearest

/-!
Decimals scaled to doubles. The digits that fit 64 bits are rounded to a double, and this one is multiplied
or divided by a power of ten, which rounds again: a long decimal need not come to the double nearest to it.
-/

namespace AssetCheck.Decimal

/-- The number that the digits at the front make behind those of `n` while it fits 64 bits, and how many
digits are left. -/
def leading : Nat → List Char → Nat × Nat
  | n, [] => (n, 0)
  | n, c :: rest =>
    let next := 10 * n + (c.toNat - 48)
    if next < UInt64.size then leading next rest else (n, rest.length + 1)

/-- The exponent of the largest power of ten below infinity. -/
def lastPower : Nat := 308

def power (exponent : Nat) : Float := nearest 1 exponent

/-- Divides by the largest power of ten, as many times as given or until nothing is left, and then by
another power. -/
def divide : Nat → Nat → Float → Float
  | 0, last, x => x / power last
  | times + 1, last, x => if x == 0 then x else divide times last (x / power lastPower)

/-- The double that `significand * 10 ^ exponent` is scaled to, infinity if it is too large. -/
def scaled (significand : Nat) : Int → Float
  | .ofNat exponent =>
    let x := nearest significand 0
    if exponent ≤ lastPower then x * power exponent else if x == 0 then x else infinity
  | .negSucc exponent =>
    divide (exponent / lastPower) (exponent % lastPower + 1) (nearest significand 0)

end AssetCheck.Decimal
