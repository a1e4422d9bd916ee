import Mathlib.Data.List.Induction
import AssetCheck.Host.Wire

/-!
# What a refusal means

A bridge refuses a request with the name of a kind and a message. Three kinds have an error of their
own (`Refusal.Means`); the message about an unknown handle has to spell it in decimal, or the
request has just failed. Each refusal means one error, and it is the one that is reported
(`Refusal.means_iff`).
-/

namespace AssetCheck.Wire

structure Refusal where
  kind : String
  message : String

/-! ## Handles in decimal -/

/-- The digits of a number of 64 bits, perhaps with zeros in front of them. -/
def SpellsDigits (ds : List Char) (n : Nat) : Prop :=
  n < UInt64.size ∧ ∃ zeros, ds = List.replicate zeros '0' ++ Nat.toDigits 10 n

/-- The text is a number of 64 bits in decimal, perhaps with a plus sign in front of its digits. -/
def SpellsHandle (s : String) (n : Nat) : Prop :=
  SpellsDigits s.toList n ∨ ∃ ds, s.toList = '+' :: ds ∧ SpellsDigits ds n

theorem toNat_of_isDigit {c : Char} (h : c.isDigit = true) : 48 ≤ c.toNat ∧ c.toNat ≤ 57 :=
  Char.isDigit_iff_toNat.1 h

theorem toDigits_value {c : Char} (h : c.isDigit = true) : Nat.toDigits 10 (c.toNat - 48) = [c] := by
  obtain ⟨hfrom, hto⟩ := toNat_of_isDigit h
  have hsmall : c.toNat - 48 < 10 := by omega
  have hchar : Nat.digitChar (c.toNat - 48) = c := by
    refine Char.toNat_inj.1 ((Nat.toNat_digitChar_of_lt_ten hsmall).trans ?_)
    show 48 + (c.toNat - 48) = c.toNat
    omega
  rw [Nat.toDigits_of_lt_base hsmall, hchar]

/-- Digits are zeros and the digits of their value. -/
theorem exists_zeros {ds : List Char} (hne : ds ≠ []) (hds : ∀ c ∈ ds, c.isDigit = true) :
    ∃ zeros, ds = List.replicate zeros '0' ++ Nat.toDigits 10 (Decimal.ofDigits ds) := by
  -- A digit behind others is the last one of their value, unless these are all zeros.
  induction ds using List.reverseRecOn with
  | nil => exact absurd rfl hne
  | append_singleton ds c ih =>
    obtain ⟨hothers, hc⟩ := List.forall_mem_append.1 hds
    have hc := List.forall_mem_singleton.1 hc
    have hlast := toDigits_value hc
    obtain ⟨hfrom, hto⟩ := toNat_of_isDigit hc
    have hvalue : Decimal.ofDigits (ds ++ [c]) = 10 * Decimal.ofDigits ds + (c.toNat - 48) :=
      List.foldl_append
    rw [hvalue]
    by_cases hempty : ds = []
    · subst hempty
      refine ⟨0, ?_⟩
      rw [show Decimal.ofDigits [] = 0 from rfl, Nat.mul_zero, Nat.zero_add, hlast]
      rfl
    · obtain ⟨zeros, hzeros⟩ := ih hempty hothers
      rcases Nat.eq_zero_or_pos (Decimal.ofDigits ds) with hzero | hpos
      · rw [hzero, Nat.toDigits_zero, ← List.replicate_succ'] at hzeros
        refine ⟨zeros + 1, ?_⟩
        rw [hzero, Nat.mul_zero, Nat.zero_add, hlast, ← hzeros]
      · refine ⟨zeros, ?_⟩
        rw [← Nat.toDigits_append_toDigits (by decide) hpos (by omega), hlast, ← List.append_assoc,
          ← hzeros]

theorem ofDigits_zeros (zeros n : Nat) :
    Decimal.ofDigits (List.replicate zeros '0' ++ Nat.toDigits 10 n) = n := by
  show Nat.ofDigitChars 10 _ 0 = n
  rw [Nat.ofDigitChars_append, Nat.ofDigitChars_replicate_zero, Nat.mul_zero,
    Nat.ofDigitChars_ten_toDigits]

theorem SpellsDigits.ne_plus {ds : List Char} {n : Nat} (h : SpellsDigits ds n) (rest : List Char) :
    ds ≠ '+' :: rest := by
  obtain ⟨-, zeros, rfl⟩ := h
  intro hplus
  have hmem : '+' ∈ List.replicate zeros '0' ++ Nat.toDigits 10 n := hplus ▸ List.mem_cons_self
  rcases List.mem_append.1 hmem with hzero | hdigit
  · exact absurd (List.eq_of_mem_replicate hzero) (by decide)
  · exact absurd (Nat.isDigit_of_mem_toDigits (by decide) (by decide) hdigit) (by decide)

theorem digits_eq_some_iff {ds : List Char} {n : Nat} :
    (if ds ≠ [] ∧ ds.all Char.isDigit ∧ Decimal.ofDigits ds < UInt64.size then
      some (Decimal.ofDigits ds) else none) = some n ↔ SpellsDigits ds n := by
  refine ⟨fun h => ?_, ?_⟩
  · split at h
    · next hdigits =>
      cases h
      exact ⟨hdigits.2.2, exists_zeros hdigits.1 (List.all_eq_true.1 hdigits.2.1)⟩
    · cases h
  · rintro ⟨hsize, zeros, rfl⟩
    rw [ofDigits_zeros, if_pos]
    refine ⟨List.append_ne_nil_of_right_ne_nil _ Nat.toDigits_ne_nil, ?_, hsize⟩
    refine List.all_eq_true.2 fun c hc => ?_
    rcases List.mem_append.1 hc with hzero | hdigit
    · rw [List.eq_of_mem_replicate hzero]
      rfl
    · exact Nat.isDigit_of_mem_toDigits (by decide) (by decide) hdigit

theorem readHandle?_eq_some_iff {s : String} {n : Nat} :
    readHandle? s = some n ↔ SpellsHandle s n := by
  unfold readHandle? SpellsHandle
  dsimp only
  split
  · next rest hs =>
    rw [digits_eq_some_iff]
    refine ⟨fun h => .inr ⟨rest, hs, h⟩, ?_⟩
    rintro (hplain | ⟨ds, hds, h⟩)
    · exact absurd hs (hplain.ne_plus rest)
    · cases hs.symm.trans hds
      exact h
  · next hplus =>
    rw [digits_eq_some_iff]
    refine ⟨.inl, ?_⟩
    rintro (h | ⟨ds, hds, -⟩)
    · exact h
    · exact absurd hds (hplus ds)

/-! ## Errors -/

/-- The error that a refusal stands for. -/
inductive Refusal.Means (refusal : Refusal) : HostError → Prop
  | nodeType : refusal.kind = "unknown_node_type" → Means refusal (.unknownNodeType refusal.message)
  | handle {id : Nat} : refusal.kind = "unknown_handle" →
      SpellsHandle (Text.trim refusal.message) id → Means refusal (.unknownHandle id)
  | noHandle : refusal.kind = "unknown_handle" →
      (∀ id, ¬ SpellsHandle (Text.trim refusal.message) id) → Means refusal (.failed refusal.message)
  | cook : refusal.kind = "cook_failed" → Means refusal (.cookFailed refusal.message)
  | other : refusal.kind ∉ ["unknown_node_type", "unknown_handle", "cook_failed"] →
      Means refusal (.failed (refusal.kind ++ ": " ++ refusal.message))

theorem Refusal.means_errorOf (refusal : Refusal) :
    refusal.Means (errorOf refusal.kind refusal.message) := by
  unfold errorOf
  split
  · next hkind => exact .nodeType hkind
  · next hkind =>
    split
    · next id hid => exact .handle hkind (readHandle?_eq_some_iff.1 hid)
    · next hnone =>
      exact .noHandle hkind fun id hid => by
        rw [readHandle?_eq_some_iff.2 hid] at hnone
        cases hnone
  · next hkind => exact .cook hkind
  · next hnode hhandle hcook =>
    refine .other fun hmem => ?_
    simp only [List.mem_cons, List.not_mem_nil, or_false] at hmem
    rcases hmem with h | h | h
    · exact hnode h
    · exact hhandle h
    · exact hcook h

/-- **Refusals.** A refusal means the error that is reported for it, and no other one. -/
theorem Refusal.means_iff {refusal : Refusal} {e : HostError} :
    refusal.Means e ↔ e = errorOf refusal.kind refusal.message := by
  refine ⟨fun h => ?_, fun h => h ▸ refusal.means_errorOf⟩
  cases h with
  | nodeType hkind => simp only [errorOf, hkind]
  | handle hkind hid => simp only [errorOf, hkind, readHandle?_eq_some_iff.2 hid]
  | noHandle hkind hnone =>
    have hread : readHandle? (Text.trim refusal.message) = none :=
      Option.eq_none_iff_forall_ne_some.2 fun id hid => hnone id (readHandle?_eq_some_iff.1 hid)
    simp only [errorOf, hkind, hread]
  | cook hkind => simp only [errorOf, hkind]
  | other hkind =>
    simp only [List.mem_cons, List.not_mem_nil, or_false, not_or] at hkind
    obtain ⟨hnode, hhandle, hcook⟩ := hkind
    simp only [errorOf]

end AssetCheck.Wire
