import Mathlib.Algebra.Order.Ring.Int
import AssetCheck.Decimal.Scaled
import AssetCheck.ParamValue

/-!
# Finite doubles

Rounding gives a number, never the value that is none; it is finite unless its exponent is too large
for a double (`Holds`), and a normal one if what is rounded is large enough (`Normal`). So the powers
of ten up to the largest are doubles other than zero and infinity, a decimal that is scaled by them
is a finite double or infinity, and a whole number of 64 bits is nearest to a finite one.
-/

namespace AssetCheck.Decimal

open Float.Model (Format UnpackedFloat totalExponent)
open Float.Model.UnpackedFloat

/-! ## Packing -/

/-- A number that a double can hold. -/
inductive Holds : UnpackedFloat → Prop
  | zero (s : Sign) : Holds (.zero s)
  | finite {s : Sign} {m : Nat} {e : Int} {hm : 0 < m} : e ≤ 971 → Holds (.finite s m e hm)

theorem Holds.isFinite {x : UnpackedFloat} (h : Holds x) : x.isFinite = true := by
  cases h <;> rfl

/-- What is unpacked is what a double holds, unless its exponent is all ones. -/
theorem holds_unpack_of_ne {b : BitVec Format.binary64.numBits} (h : unpackExponent b ≠ -1#11) :
    Holds (unpack .binary64 b) := by
  unfold unpack
  dsimp only
  rw [if_neg h]
  by_cases hzero : unpackExponent b = 0#11
  · rw [if_pos hzero]
    by_cases hmantissa : unpackMantissa b = 0#52
    · rw [dif_pos hmantissa]
      exact .zero _
    · rw [dif_neg hmantissa]
      refine .finite ?_
      rw [hzero]
      decide
  · rw [if_neg hzero]
    refine .finite ?_
    show ((unpackExponent b).toNat : Int) - (1023 + 52) ≤ 971
    have hlt := (unpackExponent b).isLt
    have hne : (unpackExponent b).toNat ≠ 2047 := fun heq => h (BitVec.eq_of_toNat_eq heq)
    have hwidth : 2 ^ Format.binary64.exponentBits = 2048 := rfl
    omega

theorem Holds.isFinite_pack {x : UnpackedFloat} (h : Holds x) :
    (Float.Model.pack x).isFinite = true := by
  refine (holds_unpack_of_ne ?_).isFinite
  cases h with
  | zero s =>
    show unpackExponent (packComponents .binary64 s 0 0) ≠ _
    rw [unpackExponent_packComponents]
    decide
  | @finite s m e hm he =>
    have hbias : (e + 1023 + 52).toNat + 1 < 2048 := by omega
    have hexponent : BitVec.ofNat 11 (e + 1023 + 52).toNat ≠ -1#11 := by
      intro heq
      have hnat := congrArg BitVec.toNat heq
      rw [BitVec.toNat_ofNat, Nat.mod_eq_of_lt (by omega)] at hnat
      have hmax : (-1#11).toNat = 2047 := by decide
      omega
    have hpack : pack .binary64 (.finite s m e hm) =
        if m.log2 + 1 = 53 then
          packComponents .binary64 s (BitVec.ofNat 11 (e + 1023 + 52).toNat) (BitVec.ofNat 52 m)
        else packComponents .binary64 s 0 (BitVec.ofNat 52 m) :=
      if_neg (Nat.not_le.2 hbias)
    show unpackExponent (pack .binary64 (.finite s m e hm)) ≠ _
    rw [hpack]
    split
    · rw [unpackExponent_packComponents]
      exact hexponent
    · rw [unpackExponent_packComponents]
      decide

theorem holds_unpack {b : BitVec Format.binary64.numBits}
    (h : (unpack .binary64 b).isFinite = true) : Holds (unpack .binary64 b) := by
  refine holds_unpack_of_ne fun hones => ?_
  unfold unpack at h
  dsimp only at h
  rw [if_pos hones] at h
  split at h <;> cases h

theorem Holds.neg {x : UnpackedFloat} (h : Holds x) : Holds x.neg := by
  cases h with
  | zero s => exact .zero _
  | finite he => exact .finite he

theorem isFinite_neg {x : Float} (h : x.isFinite = true) : (-x).isFinite = true :=
  (holds_unpack h).neg.isFinite_pack

theorem isFinite_eq_false_iff {x : Float} :
    x.isFinite = false ↔ x.isNaN = true ∨ x.isInf = true := by
  unfold Float.isFinite Float.isNaN Float.isInf Float.Model.isFinite Float.Model.isNaN
    Float.Model.isInf
  cases x.toModel.unpack with
  | notANumber => exact ⟨fun _ => .inl rfl, fun _ => rfl⟩
  | infinity s => exact ⟨fun _ => .inr rfl, fun _ => rfl⟩
  | zero _ | finite _ _ _ _ => exact ⟨fun h => Bool.noConfusion h, fun h => h.elim nofun nofun⟩

theorem isFinite_or_isInf_pack {x : UnpackedFloat} (h : x ≠ .notANumber) :
    (Float.Model.pack x).isFinite = true ∨ (Float.Model.pack x).isInf = true := by
  cases x with
  | notANumber => exact absurd rfl h
  | infinity s =>
    refine .inr ?_
    cases s <;> decide
  | zero s => exact .inl (Holds.zero s).isFinite_pack
  | finite s m e hm =>
    by_cases he : e ≤ 971
    · exact .inl (Holds.finite he).isFinite_pack
    · have hpack : pack .binary64 (.finite s m e hm) = packedInfinity .binary64 s :=
        if_pos (show 2048 ≤ (e + 1023 + 52).toNat + 1 by omega)
      refine .inr ?_
      show (unpack .binary64 (pack .binary64 (.finite s m e hm))).isInf = true
      rw [hpack]
      cases s <;> decide

theorem unpack_pack_ne_notANumber {x : UnpackedFloat} (h : x ≠ .notANumber) :
    (Float.Model.pack x).unpack ≠ .notANumber := by
  intro heq
  rcases isFinite_or_isInf_pack h with hfinite | hinf
  · unfold Float.Model.isFinite at hfinite
    rw [heq] at hfinite
    cases hfinite
  · unfold Float.Model.isInf at hinf
    rw [heq] at hinf
    cases hinf

/-! ## Rounding -/

/-- A rounded number is zero, or it has the exponent of its second shift. -/
theorem roundWithAccuracy_cases (s : Sign) (m : Nat) (e : Int) (accuracy : Accuracy) :
    roundWithAccuracy .binary64 s m e accuracy = .zero s ∨
      ∃ rounded hrounded, roundWithAccuracy .binary64 s m e accuracy = .finite s rounded
        (shiftToTargetExponent .binary64
          (shiftToTargetExponent .binary64 m e accuracy).1.roundedMantissa
          (shiftToTargetExponent .binary64 m e accuracy).2 .exact).2 hrounded := by
  unfold roundWithAccuracy
  dsimp only
  generalize shiftToTargetExponent .binary64 m e accuracy = first
  generalize shiftToTargetExponent .binary64 first.1.roundedMantissa first.2 .exact = second
  by_cases hzero : second.1.mantissa = 0
  · exact .inl (dif_pos hzero)
  · exact .inr ⟨_, _, dif_neg hzero⟩

theorem roundWithAccuracy_ne_notANumber (s : Sign) (m : Nat) (e : Int) (accuracy : Accuracy) :
    roundWithAccuracy .binary64 s m e accuracy ≠ .notANumber := by
  intro h
  rcases roundWithAccuracy_cases s m e accuracy with hzero | ⟨_, _, hfinite⟩
  · cases hzero.symm.trans h
  · cases hfinite.symm.trans h

theorem mantissa_shiftRight (m : ExtendedMantissa) (n : Nat) :
    (m >>> n).mantissa = m.mantissa / 2 ^ n := by
  show (Nat.repeat ExtendedMantissa.shiftRightOne n m).mantissa = _
  induction n with
  | zero => exact (Nat.div_one _).symm
  | succ n ih =>
    show (Nat.repeat ExtendedMantissa.shiftRightOne n m).mantissa / 2 = _
    rw [ih, Nat.div_div_eq_div_mul, Nat.pow_succ]

theorem roundToNearestEven_le (m : Nat) (accuracy : Accuracy) :
    accuracy.roundToNearestEven m ≤ m + 1 := by
  rcases accuracy with _ | order
  · exact Nat.le_add_right m 1
  · cases order with
    | lt => exact Nat.le_add_right m 1
    | eq => exact Nat.add_le_add_left (Nat.le_of_lt_succ (Nat.mod_lt m (by decide))) m
    | gt => exact Nat.le_refl _

theorem le_roundToNearestEven (m : Nat) (accuracy : Accuracy) :
    m ≤ accuracy.roundToNearestEven m := by
  rcases accuracy with _ | order
  · exact Nat.le_refl m
  · cases order with
    | lt => exact Nat.le_refl m
    | eq => exact Nat.le_add_right m _
    | gt => exact Nat.le_add_right m 1

/-- A mantissa is shifted to an exponent no larger than what its size needs. -/
theorem shiftToTargetExponent_le {m bits : Nat} (h : m < 2 ^ bits) (e : Int) (accuracy : Accuracy) :
    (shiftToTargetExponent .binary64 m e accuracy).2 ≤ max e (max (bits + 1 + e - 53) (-1074)) := by
  have hlog : m.log2 ≤ bits := by
    rcases Nat.eq_zero_or_pos m with rfl | hpos
    · exact Nat.zero_le _
    · exact Nat.le_of_lt ((Nat.log2_lt (Nat.ne_of_gt hpos)).2 h)
  have htarget : Format.binary64.targetExponent (totalExponent m e) =
      max ((m.log2 : Int) + 1 + e - 53) (-1074) := rfl
  show e + ((Format.binary64.targetExponent (totalExponent m e) - e).toNat : Int) ≤ _
  rw [htarget]
  omega

/-- A number far below the largest double is held after it was rounded. -/
theorem holds_roundWithAccuracy (s : Sign) {m bits : Nat} (h : m + 1 < 2 ^ bits) {e : Int}
    (hlow : -1074 ≤ e) (hhigh : 2 * bits + e < 900) (he : e ≤ 0) :
    Holds (roundWithAccuracy .binary64 s m e .exact) := by
  have hfirst := shiftToTargetExponent_le (Nat.lt_of_succ_lt h) e .exact
  have hmantissa : (shiftToTargetExponent .binary64 m e .exact).1.mantissa ≤ m :=
    Nat.le_trans (Nat.le_of_eq (mantissa_shiftRight _ _)) (Nat.div_le_self _ _)
  have hcases := roundWithAccuracy_cases s m e .exact
  generalize shiftToTargetExponent .binary64 m e .exact = first at hfirst hmantissa hcases
  have hrounded : first.1.roundedMantissa < 2 ^ bits := by
    have hle := roundToNearestEven_le first.1.mantissa first.1.accuracy
    exact Nat.lt_of_le_of_lt (Nat.le_trans hle (Nat.add_le_add_right hmantissa 1)) h
  have hsecond := shiftToTargetExponent_le hrounded first.2 .exact
  rcases hcases with hzero | ⟨_, _, hfinite⟩
  · rw [hzero]
    exact .zero s
  · rw [hfinite]
    exact .finite (by omega)

/-! ## Normal numbers -/

/-- All bits of the mantissa are there. -/
structure Normal (m : Nat) (e : Int) : Prop where
  low : 2 ^ 52 ≤ m
  high : m < 2 ^ 53
  exponent : -1074 ≤ e

/-- What has bits enough is shifted to a normal number. -/
theorem normal_shiftToTargetExponent {m : Nat} (hm : 2 ^ 52 ≤ m) {e : Int}
    (he : -1074 ≤ e + (m.log2 - 52)) :
    (shiftToTargetExponent .binary64 m e .exact).2 = e + (m.log2 - 52) ∧
      Normal (shiftToTargetExponent .binary64 m e .exact).1.mantissa
        (shiftToTargetExponent .binary64 m e .exact).2 := by
  have hpos : m ≠ 0 := by omega
  have hlog : 52 ≤ m.log2 := (Nat.le_log2 hpos).2 hm
  have hlow := Nat.log2_self_le hpos
  have hhigh := Nat.lt_log2_self (n := m)
  have htarget : Format.binary64.targetExponent (totalExponent m e) =
      max ((m.log2 : Int) + 1 + e - 53) (-1074) := rfl
  have hamount : (Format.binary64.targetExponent (totalExponent m e) - e).toNat = m.log2 - 52 := by
    rw [htarget]
    omega
  have hexponent : (shiftToTargetExponent .binary64 m e .exact).2 = e + (m.log2 - 52) := by
    show e + ((Format.binary64.targetExponent (totalExponent m e) - e).toNat : Int) = _
    rw [hamount]
    omega
  have hmantissa : (shiftToTargetExponent .binary64 m e .exact).1.mantissa =
      m / 2 ^ (m.log2 - 52) := by
    refine (mantissa_shiftRight _ _).trans ?_
    rw [hamount]
    rfl
  have hsplit : 2 ^ m.log2 = 2 ^ 52 * 2 ^ (m.log2 - 52) := by
    rw [← Nat.pow_add, Nat.add_sub_cancel' hlog]
  refine ⟨hexponent, ?_, ?_, hexponent ▸ he⟩
  · rw [hmantissa, Nat.le_div_iff_mul_le (Nat.two_pow_pos _), ← hsplit]
    exact hlow
  · rw [hmantissa, Nat.div_lt_iff_lt_mul (Nat.two_pow_pos _)]
    rw [Nat.pow_succ, hsplit] at hhigh
    rw [Nat.pow_succ]
    omega

/-- A large number is rounded to a normal one, whose exponent is at most one more than its size
needs. -/
theorem exists_normal_roundWithAccuracy (s : Sign) {m : Nat} (hm : 2 ^ 52 ≤ m) {e : Int}
    (he : -1074 ≤ e + (m.log2 - 52)) :
    ∃ n k hn, roundWithAccuracy .binary64 s m e .exact = .finite s n k hn ∧ Normal n k ∧
      k ≤ e + (m.log2 - 51) := by
  obtain ⟨hexponent, hnormal⟩ := normal_shiftToTargetExponent hm he
  have hcases := roundWithAccuracy_cases s m e .exact
  unfold roundWithAccuracy
  dsimp only
  generalize shiftToTargetExponent .binary64 m e .exact = first at *
  have hle : first.1.mantissa ≤ first.1.roundedMantissa := le_roundToNearestEven _ _
  have hge : first.1.roundedMantissa ≤ first.1.mantissa + 1 := roundToNearestEven_le _ _
  have hlow := hnormal.low
  have hhigh := hnormal.high
  have hrounded : 2 ^ 52 ≤ first.1.roundedMantissa := by omega
  -- Rounding up may give one bit more, which the second shift takes away.
  have hlog : first.1.roundedMantissa.log2 ≤ 53 := by
    rw [← Nat.lt_succ_iff, Nat.log2_lt (by omega)]
    omega
  have hlog' : 52 ≤ first.1.roundedMantissa.log2 := (Nat.le_log2 (by omega)).2 hrounded
  have hfirst := hnormal.exponent
  obtain ⟨hexponent', hnormal'⟩ :=
    normal_shiftToTargetExponent hrounded (e := first.2) (by omega)
  generalize shiftToTargetExponent .binary64 first.1.roundedMantissa first.2 .exact = second at *
  have hzero : second.1.mantissa ≠ 0 := by
    have := hnormal'.low
    omega
  exact ⟨_, _, _, dif_neg hzero, hnormal', by omega⟩

/-- A double holds a normal number below its largest. -/
theorem Normal.exists_unpack_pack {m : Nat} {e : Int} (h : Normal m e) (he : e ≤ 971) (s : Sign)
    (hm : 0 < m) : ∃ t n k hn, (Float.Model.pack (.finite s m e hm)).unpack = .finite t n k hn := by
  have hlow := h.exponent
  have hlog : m.log2 + 1 = 53 := by
    have hle := (Nat.le_log2 (Nat.ne_of_gt hm)).2 h.low
    have hlt := (Nat.log2_lt (Nat.ne_of_gt hm)).2 h.high
    omega
  have hbias : ¬ 2 ^ Format.binary64.exponentBits ≤ (e + 1023 + 52).toNat + 1 := by
    rw [show 2 ^ Format.binary64.exponentBits = 2048 from rfl]
    omega
  have hpack : pack .binary64 (.finite s m e hm) =
      packComponents .binary64 s (BitVec.ofNat 11 (e + 1023 + 52).toNat) (BitVec.ofNat 52 m) :=
    (if_neg hbias).trans (if_pos hlog)
  have hexponent : ∀ b : BitVec 11, b.toNat ≠ (e + 1023 + 52).toNat →
      BitVec.ofNat 11 (e + 1023 + 52).toNat ≠ b := by
    rintro _ hne rfl
    rw [BitVec.toNat_ofNat, Nat.mod_eq_of_lt (by omega)] at hne
    exact hne rfl
  have hbits : ∀ mantissa : BitVec 52, 0 < (1#1 ++ mantissa).toNat := by
    intro mantissa
    rw [BitVec.toNat_append]
    exact Nat.lt_of_lt_of_le (by decide) Nat.left_le_or
  show ∃ t n k hn, unpack .binary64 (pack .binary64 (.finite s m e hm)) = .finite t n k hn
  rw [hpack]
  unfold unpack
  dsimp only
  rw [unpackExponent_packComponents, if_neg (hexponent _ ?_), if_neg (hexponent _ ?_)]
  · exact ⟨_, _, _, hbits _, rfl⟩
  · rw [show (0#11).toNat = 0 from rfl]
    omega
  · rw [show (-1#11).toNat = 2047 from rfl]
    omega

/-! ## Decimals -/

theorem normalize_ne_notANumber (n e : Int) (s : Sign) :
    UnpackedFloat.normalize .binary64 n e s ≠ .notANumber := by
  unfold UnpackedFloat.normalize
  split
  · exact roundWithAccuracy_ne_notANumber _ _ _ _
  · intro h; cases h
  · exact roundWithAccuracy_ne_notANumber _ _ _ _

theorem powers_finite : ∀ i : Fin Float.exactlyRepresentablePowersOfTen.size,
    (match Float.exactlyRepresentablePowersOfTen[i].toModel.unpack with
      | .finite .. => true
      | _ => false) = true := by decide

theorem exists_power {e : Nat} (h : e < Float.exactlyRepresentablePowersOfTen.size) :
    ∃ s m k hm, Float.exactlyRepresentablePowersOfTen[e].toModel.unpack = .finite s m k hm := by
  have hpower := powers_finite ⟨e, h⟩
  rw [Fin.getElem_fin] at hpower
  cases heq : Float.exactlyRepresentablePowersOfTen[e].toModel.unpack with
  | finite s m k hm => exact ⟨s, m, k, hm, rfl⟩
  | _ => rw [heq] at hpower; cases hpower

theorem mul_ne_notANumber {x : UnpackedFloat} (h : x ≠ .notANumber) (s : Sign) {m : Nat} (e : Int)
    (hm : 0 < m) : mul .binary64 x (.finite s m e hm) ≠ .notANumber := by
  cases x with
  | notANumber => exact absurd rfl h
  | infinity _ | zero _ => intro h; cases h
  | finite => exact roundWithAccuracy_ne_notANumber _ _ _ _

theorem div_ne_notANumber {x : UnpackedFloat} (h : x ≠ .notANumber) (s : Sign) {m : Nat} (e : Int)
    (hm : 0 < m) : div .binary64 x (.finite s m e hm) ≠ .notANumber := by
  cases x with
  | notANumber => exact absurd rfl h
  | infinity _ | zero _ => intro h; cases h
  | finite => exact roundWithAccuracy_ne_notANumber _ _ _ _

theorem ite_ne_notANumber {c : Prop} [Decidable c] {x y : UnpackedFloat} (hx : x ≠ .notANumber)
    (hy : y ≠ .notANumber) : (if c then x else y) ≠ .notANumber := by
  by_cases hc : c
  · rwa [if_pos hc]
  · rwa [if_neg hc]

theorem ofScientific_ne_notANumber (m : Nat) (e : Int) :
    UnpackedFloat.ofScientific .binary64 m e ≠ .notANumber := by
  have hzero : UnpackedFloat.zero .positive ≠ .notANumber := by intro h; cases h
  unfold UnpackedFloat.ofScientific
  by_cases hm : m = 0
  · rwa [dif_pos hm]
  · rw [dif_neg hm]
    refine ite_ne_notANumber ?_ (ite_ne_notANumber hzero (ite_ne_notANumber ?_ ?_))
    · intro h
      cases h
    · exact roundWithAccuracy_ne_notANumber _ _ _ _
    · exact roundWithAccuracy_ne_notANumber _ _ _ _

/-- A double that is a number, if only infinity. -/
def IsNumber (x : Float) : Prop := x.toModel.unpack ≠ .notANumber

theorem isNumber_ofScientific (digits : Nat) (negative : Bool) (places : Nat) :
    IsNumber (Float.ofScientific digits negative places) := by
  unfold Float.ofScientific
  dsimp only
  split
  · next h =>
    obtain ⟨s, m, e, hm, hpower⟩ := exists_power (Nat.lt_succ_of_le h.2)
    have hwhole : digits.toUInt64.toFloat.toModel.unpack ≠ .notANumber :=
      unpack_pack_ne_notANumber (normalize_ne_notANumber _ _ _)
    have hdiv := div_ne_notANumber hwhole s e hm
    have hmul := mul_ne_notANumber hwhole s e hm
    rw [← hpower] at hdiv hmul
    split
    · exact unpack_pack_ne_notANumber hdiv
    · exact unpack_pack_ne_notANumber hmul
  · exact unpack_pack_ne_notANumber (ofScientific_ne_notANumber _ _)

theorem isNumber_infinity : IsNumber infinity := by
  have hnan : infinity.isNaN = false := by decide
  intro h
  unfold Float.isNaN Float.Model.isNaN at hnan
  rw [h] at hnan
  cases hnan

theorem isNumber_nearest (digits : Nat) (exponent : Int) : IsNumber (nearest digits exponent) := by
  unfold nearest
  dsimp only
  split
  · exact unpack_pack_ne_notANumber (ofScientific_ne_notANumber 0 0)
  · split
    · exact isNumber_infinity
    · exact isNumber_ofScientific _ _ _

theorem IsNumber.isFinite {x : Float} (h : IsNumber x) (hinf : x.isInf = false) :
    x.isFinite = true := by
  rw [← Bool.not_eq_false]
  intro hinfinite
  rcases isFinite_eq_false_iff.1 hinfinite with hnan | hinf'
  · unfold Float.isNaN Float.Model.isNaN at hnan
    unfold IsNumber at h
    cases hx : x.toModel.unpack with
    | notANumber => exact h hx
    | _ => rw [hx] at hnan; cases hnan
  · rw [hinf] at hinf'
    cases hinf'

theorem mul_finite (s₁ s₂ : Sign) {m₁ m₂ : Nat} (e₁ e₂ : Int) (h₁ : 0 < m₁) (h₂ : 0 < m₂) :
    mul .binary64 (.finite s₁ m₁ e₁ h₁) (.finite s₂ m₂ e₂ h₂) =
      roundWithAccuracy .binary64 (s₁ * s₂) (m₁ * m₂) (e₁ + e₂) .exact := rfl

/-! ## Powers of ten -/

theorem digitCount_one : digitCount 1 = 1 := by decide

theorem power_eq {e : Nat} (h : e ≤ lastPower) : power e = Float.ofScientific 1 false e := by
  have hlast : lastPower = 308 := rfl
  unfold power nearest
  rw [digitCount_one, if_neg (by omega), if_neg (by omega)]
  have hsign : decide ((e : Int) < 0) = false := decide_eq_false (by omega)
  rw [hsign, Int.natAbs_natCast]

theorem powers_held : ∀ e ∈ lastPower :: List.range 23,
    (match (power e).toModel.unpack with
      | .finite .. => true
      | _ => false) = true := by decide +kernel

theorem pow_ten_lt {a b k r e : Nat} (n : Nat) (hblock : 10 ^ a ≤ 2 ^ b) (hrest : 10 ^ k < 2 ^ r)
    (he : e ≤ a * n + k) : 10 ^ e < 2 ^ (b * n + r) :=
  calc 10 ^ e ≤ 10 ^ (a * n + k) := Nat.pow_le_pow_right (by decide) he
    _ = (10 ^ a) ^ n * 10 ^ k := by rw [Nat.pow_add, Nat.pow_mul]
    _ < (2 ^ b) ^ n * 2 ^ r :=
      Nat.mul_lt_mul_of_le_of_lt (Nat.pow_le_pow_left hblock n) hrest
        (Nat.pow_pos (Nat.two_pow_pos b))
    _ = 2 ^ (b * n + r) := by rw [Nat.pow_add, Nat.pow_mul]

theorem log2_two_pow_mul_lt {n : Nat} (a : Nat) {b : Nat} (hpos : 0 < n) (h : n < 2 ^ b) :
    (2 ^ a * n).log2 < a + b := by
  rw [Nat.log2_lt (Nat.mul_ne_zero (Nat.ne_of_gt (Nat.two_pow_pos a)) (Nat.ne_of_gt hpos)),
    Nat.pow_add]
  exact Nat.mul_lt_mul_of_pos_left h (Nat.two_pow_pos a)

/-- **Powers of ten.** All up to the largest are doubles other than zero and infinity. -/
theorem exists_unpack_power {e : Nat} (h : e ≤ lastPower) :
    ∃ s m k hm, (power e).toModel.unpack = .finite s m k hm := by
  have hlast : lastPower = 308 := rfl
  by_cases hheld : e ∈ lastPower :: List.range 23
  · have hfinite := powers_held e hheld
    cases heq : (power e).toModel.unpack with
    | finite s m k hm => exact ⟨s, m, k, hm, rfl⟩
    | _ => rw [heq] at hfinite; cases hfinite
  · rw [List.mem_cons, List.mem_range, not_or] at hheld
    rw [power_eq h]
    unfold Float.ofScientific
    dsimp only
    rw [dif_neg (by omega)]
    have hpos : 0 < 10 ^ e := Nat.pow_pos (by decide)
    have hlog : (2 ^ 53 * 10 ^ e).log2 < 53 + (103 * 9 + 96) :=
      log2_two_pow_mul_lt 53 hpos (pow_ten_lt (a := 31) (k := 28) 9 (by decide) (by decide)
        (by omega))
    have hlarge : 2 ^ 53 ≤ 2 ^ 53 * 10 ^ e := Nat.le_mul_of_pos_right _ hpos
    have hrounded : UnpackedFloat.ofScientific .binary64 1 (e : Int) =
        roundWithAccuracy .binary64 (.positive * .positive) (2 ^ 53 * 10 ^ e) (-53 + 0) .exact := by
      unfold UnpackedFloat.ofScientific
      rw [dif_neg (by decide), if_neg, if_neg, if_pos (Int.natCast_nonneg e), mul_finite]
      · rfl
      · rw [show Format.binary64.exponentBits = 11 from rfl]
        omega
      · rw [show Format.binary64.exponentBits = 11 from rfl]
        omega
    generalize 2 ^ 53 * 10 ^ e = m at hlog hlarge hrounded
    have hlog' : 53 ≤ m.log2 := (Nat.le_log2 (by omega)).2 hlarge
    obtain ⟨n, k, hn, hfinite, hnormal, hk⟩ :=
      exists_normal_roundWithAccuracy (.positive * .positive) (m := m) (by omega) (e := -53 + 0)
        (by omega)
    rw [hfinite] at hrounded
    have := hnormal.exists_unpack_pack (by omega) (.positive * .positive) hn
    rw [← hrounded] at this
    exact this

/-! ## Scaled decimals -/

section Scaled

variable {x : Float} (hx : IsNumber x)

include hx

theorem isNumber_mul {e : Nat} (he : e ≤ lastPower) : IsNumber (x * power e) := by
  obtain ⟨s, m, k, hm, hpower⟩ := exists_unpack_power he
  have hmul := mul_ne_notANumber hx s k hm
  rw [← hpower] at hmul
  exact unpack_pack_ne_notANumber hmul

theorem isNumber_div {e : Nat} (he : e ≤ lastPower) : IsNumber (x / power e) := by
  obtain ⟨s, m, k, hm, hpower⟩ := exists_unpack_power he
  have hdiv := div_ne_notANumber hx s k hm
  rw [← hpower] at hdiv
  exact unpack_pack_ne_notANumber hdiv

theorem isNumber_divide (times : Nat) {last : Nat} (hlast : last ≤ lastPower) :
    IsNumber (divide times last x) := by
  induction times generalizing x with
  | zero => exact isNumber_div hx hlast
  | succ times ih =>
    rw [divide]
    split
    · exact hx
    · exact ih (isNumber_div hx (Nat.le_refl _))

end Scaled

/-- **Decimals.** A decimal is scaled to a finite double unless it is too large for one. -/
theorem isFinite_scaled {significand : Nat} {exponent : Int}
    (h : (scaled significand exponent).isInf = false) :
    (scaled significand exponent).isFinite = true := by
  have hwhole := isNumber_nearest significand 0
  refine IsNumber.isFinite ?_ h
  cases exponent with
  | ofNat exponent =>
    unfold scaled
    dsimp only
    split
    · exact isNumber_mul hwhole ‹_›
    · split
      · exact hwhole
      · exact isNumber_infinity
  | negSucc exponent =>
    exact isNumber_divide hwhole _ (Nat.succ_le_of_lt (Nat.mod_lt exponent (by decide)))

/-! ## Whole numbers -/

theorem holds_ofScientific {m : Nat} (hpos : m ≠ 0) (h : m < 2 ^ 64) :
    Holds (UnpackedFloat.ofScientific .binary64 m 0) := by
  have hsize : m <<< Format.binary64.mantissaBits * 10 ^ (0 : Int).toNat + 1 < 2 ^ 118 := by
    rw [show Format.binary64.mantissaBits = 53 from rfl, Int.toNat_zero, Nat.shiftLeft_eq]
    omega
  have hlog : ¬ (0 : Int) < -(2 ^ Format.binary64.exponentBits + (m.log2 : Int)) := by
    rw [show Format.binary64.exponentBits = 11 from rfl]
    omega
  unfold UnpackedFloat.ofScientific
  rw [dif_neg hpos, if_neg (by decide), if_neg hlog, if_pos (Int.le_refl 0)]
  rw [mul_finite]
  exact holds_roundWithAccuracy _ hsize (by decide) (by decide) (by decide)

/-- **Whole numbers.** One that fits 64 bits without a sign, but not with one, is nearest to a
finite double. -/
theorem isFinite_nearestFloat {n : Int} (hlow : 2 ^ 63 ≤ n) (hhigh : n < 2 ^ 64) :
    (nearestFloat n).isFinite = true := by
  obtain ⟨m, rfl⟩ : ∃ m : Nat, n = m := ⟨n.toNat, by omega⟩
  have hcount : digitCount m ≤ 20 :=
    (Nat.length_toDigits_le_iff (by decide) (by decide)).2 (by omega)
  have hnearest : nearestFloat m = Float.ofScientific m false 0 := by
    unfold nearestFloat
    rw [if_neg (by omega), Int.natAbs_natCast]
    unfold nearest
    dsimp only
    rw [if_neg (by omega), if_neg (by omega)]
    rfl
  have hscientific : Float.ofScientific m false 0 = ⟨Float.Model.ofScientific m 0⟩ :=
    dif_neg (by omega)
  rw [hnearest, hscientific]
  exact (holds_ofScientific (by omega) (by omega)).isFinite_pack

end AssetCheck.Decimal
