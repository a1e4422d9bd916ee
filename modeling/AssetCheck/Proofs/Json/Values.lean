import Mathlib.Algebra.Order.Ring.Int
import AssetCheck.Json.Parser
import AssetCheck.Proofs.Json.Records
import AssetCheck.Proofs.Table

/-!
# Printed values are read back

Values without doubles, in which no object has a key twice and nothing nests too deeply, are read
from their own text (`parse_compact`). A whole number comes back from its digits, the first of which
is not zero.
-/

namespace AssetCheck.Json

/-! ## Whole numbers -/

theorem head_toDigits {n : Nat} (h : 0 < n) : ∀ c ∈ (Nat.toDigits 10 n).head?, c ≠ '0' := by
  induction n using Nat.strongRecOn with
  | ind n ih =>
    by_cases hsmall : n < 10
    · have hdigit : ∀ k < 10, 0 < k → k.digitChar ≠ '0' := by decide
      rw [Nat.toDigits_of_lt_base hsmall]
      intro c hc
      cases hc
      exact hdigit n hsmall h
    · have hfirst := ih (n / 10) (by omega) (by omega)
      rw [Nat.toDigits_of_base_le (by decide) (by omega), List.head?_append,
        List.head?_eq_some_head Nat.toDigits_ne_nil, Option.some_or,
        ← List.head?_eq_some_head Nat.toDigits_ne_nil]
      exact hfirst

theorem leading_of_lt {n : Nat} {ds : List Char} (h : Nat.ofDigitChars 10 ds n < UInt64.size) :
    Decimal.leading n ds = (Nat.ofDigitChars 10 ds n, 0) := by
  induction ds generalizing n with
  | nil => rfl
  | cons c ds ih =>
    have hnext : 10 * n + (c.toNat - 48) ≤ Nat.ofDigitChars 10 (c :: ds) n := by
      rw [Nat.ofDigitChars_cons, Nat.ofDigitChars_eq_ofDigitChars_zero]
      exact Nat.le_add_right_of_le (Nat.le_mul_of_pos_left _ (Nat.pow_pos (by decide)))
    unfold Decimal.leading
    dsimp only
    rw [if_pos (Nat.lt_of_le_of_lt hnext h)]
    exact ih h

theorem leading_toDigits {n : Nat} (h : n < UInt64.size) :
    Decimal.leading 0 (Nat.toDigits 10 n) = (n, 0) := by
  have hvalue : Nat.ofDigitChars 10 (Nat.toDigits 10 n) 0 = n := Nat.ofDigitChars_ten_toDigits
  rw [leading_of_lt (hvalue.symm ▸ h), hvalue]

theorem isSpace_cases {c : Char} (h : isSpace c = true) :
    c = ' ' ∨ c = '\n' ∨ c = '\t' ∨ c = '\r' := by
  simpa [isSpace, or_assoc] using h

/-- What comes next is no part of a number that has been read. -/
theorem Ends.not_digit {rest : List Char} (h : Ends rest) :
    ∀ c ∈ rest.head?, c.isDigit = false ∧ c ≠ '.' ∧ c ≠ 'e' ∧ c ≠ 'E' := by
  intro c hc
  rcases h c hc with h | rfl | rfl | rfl
  · rcases isSpace_cases h with rfl | rfl | rfl | rfl <;> decide
  · decide
  · decide
  · decide

theorem scanFraction_whole {negative : Bool} {whole rest : List Char} {n : Nat} (h : Ends rest)
    (hwhole : Decimal.leading 0 whole = (n, 0)) :
    scanFraction negative whole rest = finishWhole negative n 0 rest := by
  unfold scanFraction
  rw [hwhole]
  cases rest with
  | nil => rfl
  | cons c rest =>
    obtain ⟨-, hpoint, he, hE⟩ := h.not_digit c rfl
    dsimp only
    split
    · next heq => cases heq; exact absurd rfl hpoint
    · next heq => cases heq; exact absurd rfl he
    · next heq => cases heq; exact absurd rfl hE
    · rfl

theorem takeWhile_digits {ds rest : List Char} (hds : ∀ c ∈ ds, c.isDigit = true)
    (h : Ends rest) :
    (ds ++ rest).takeWhile Char.isDigit = ds ∧ (ds ++ rest).dropWhile Char.isDigit = rest := by
  rw [List.takeWhile_append_of_pos hds, List.dropWhile_append_of_pos hds]
  cases rest with
  | nil => exact ⟨List.append_nil ds, rfl⟩
  | cons c rest =>
    have hc := Bool.eq_false_iff.1 (h.not_digit c rfl).1
    rw [List.takeWhile_cons_of_neg hc, List.dropWhile_cons_of_neg hc]
    exact ⟨List.append_nil ds, rfl⟩

theorem scanUnsigned_digit (negative : Bool) {c : Char} (hc : c.isDigit = true) (hne : c ≠ '0')
    (cs : List Char) :
    scanUnsigned negative (c :: cs) = scanFraction negative ((c :: cs).takeWhile Char.isDigit)
      ((c :: cs).dropWhile Char.isDigit) := by
  unfold scanUnsigned
  split
  · next heq => cases heq
  · next heq => cases heq; exact absurd rfl hne
  · next heq => cases heq; exact if_pos hc

/-- **Digits.** The digits of a whole number are read to their end. -/
theorem scanUnsigned_toDigits (negative : Bool) {n : Nat} (hn : n < UInt64.size)
    {rest : List Char} (h : Ends rest) :
    scanUnsigned negative (Nat.toDigits 10 n ++ rest) = finishWhole negative n 0 rest := by
  have hdigits : ∀ c ∈ Nat.toDigits 10 n, c.isDigit = true := fun c hc =>
    Nat.isDigit_of_mem_toDigits (by decide) (by decide) hc
  rcases Nat.eq_zero_or_pos n with rfl | hpos
  -- A zero is the only digit of its number.
  · have hzero : scanUnsigned negative ('0' :: rest) = scanFraction negative ['0'] rest := by
      cases rest with
      | nil => rfl
      | cons c rest => exact if_neg (Bool.eq_false_iff.1 (h.not_digit c rfl).1)
    show scanUnsigned negative ('0' :: rest) = _
    exact hzero.trans (scanFraction_whole h (leading_toDigits hn))
  · obtain ⟨htake, hdrop⟩ := takeWhile_digits hdigits h
    have hread : scanFraction negative (Nat.toDigits 10 n) rest = finishWhole negative n 0 rest :=
      scanFraction_whole h (leading_toDigits hn)
    have hhead := head_toDigits hpos
    cases hds : Nat.toDigits 10 n with
    | nil => exact absurd hds Nat.toDigits_ne_nil
    | cons c ds =>
      rw [hds] at hdigits htake hdrop hread hhead
      rw [List.cons_append] at htake hdrop ⊢
      rw [scanUnsigned_digit negative (hdigits c List.mem_cons_self) (hhead c rfl), htake, hdrop,
        hread]

/-! ## Values -/

/-- The values that the text tells apart: no doubles, whole numbers of 64 bits, distinct keys, and
lists and objects nested to the given depth. -/
inductive Value.Plain : Nat → Value → Prop
  | null (depth : Nat) : Plain depth .null
  | bool (depth : Nat) (b : Bool) : Plain depth (.bool b)
  | whole (depth : Nat) {n : Int} : -2 ^ 63 ≤ n → n < 2 ^ 64 → Plain depth (.int n)
  | string (depth : Nat) (s : String) : Plain depth (.string s)
  | array {depth : Nat} {vs : List Value} : (∀ v ∈ vs, Plain depth v) →
      Plain (depth + 1) (.array vs)
  | object {depth : Nat} {ms : Table String Value} : (ms.map Prod.fst).Nodup →
      (∀ m ∈ ms, Plain depth m.2) → Plain (depth + 1) (.object ms)

/-- What a value may contain at a depth. -/
def innerScan : Nat → Option (Scan Value)
  | 0 => none
  | depth + 1 => some (scanValue depth)

theorem scanValue_eq (depth : Nat) : scanValue depth = scanValueWith (innerScan depth) := by
  cases depth <;> rfl

/-- A digit begins a number, and nothing else. -/
theorem scanValueWith_digit {inner : Option (Scan Value)} {c : Char} (hc : c.isDigit = true)
    {cs rest : List Char} (h : skipSpace cs = c :: rest) :
    scanValueWith inner cs =
      (do let (n, rest) ← scanUnsigned false (c :: rest); .ok (.number n, rest)) := by
  unfold scanValueWith
  rw [h]
  split
  · next heq => cases heq
  iterate 7 (next heq => cases heq; cases hc)
  · next heq =>
    cases heq
    exact if_pos hc

theorem isSpace_of_isDigit {c : Char} (hc : c.isDigit = true) : isSpace c = false := by
  rw [Bool.eq_false_iff]
  intro h
  rcases isSpace_cases h with rfl | rfl | rfl | rfl <;> cases hc

theorem skipSpace_toDigits (n : Nat) (rest : List Char) :
    ∃ c cs, Nat.toDigits 10 n ++ rest = c :: cs ∧ c.isDigit = true ∧
      skipSpace (Nat.toDigits 10 n ++ rest) = c :: cs := by
  cases hds : Nat.toDigits 10 n with
  | nil => exact absurd hds Nat.toDigits_ne_nil
  | cons c ds =>
    have hc : c.isDigit = true :=
      Nat.isDigit_of_mem_toDigits (b := 10) (n := n) (by decide) (by decide) (by simp [hds])
    exact ⟨c, ds ++ rest, rfl, hc, skipSpace_cons (isSpace_of_isDigit hc) _⟩

theorem whole_reads (l : Layout) (depth inside : Nat) {n : Int} (hlow : -2 ^ 63 ≤ n)
    (hhigh : n < 2 ^ 64) :
    Reads (scanValue depth) ((Value.int n).spelled l inside) (.int n) := by
  rw [scanValue_eq]
  cases n with
  | ofNat n =>
    have htext : (Value.int (.ofNat n)).spelled l inside = Nat.toDigits 10 n := String.toList_ofList
    have hsize : n < UInt64.size := Int.ofNat_lt.1 hhigh
    rw [htext]
    refine ⟨fun rest => ?_, fun cs rest hcs hrest => ?_⟩
    · obtain ⟨c, cs, -, hc, hskip⟩ := skipSpace_toDigits n rest
      exact ⟨c, cs, hskip, fun he => by rw [he] at hc; cases hc⟩
    · obtain ⟨c, more, hsplit, hc, hskip⟩ := skipSpace_toDigits n rest
      rw [scanValueWith_digit hc (hcs.trans hskip), ← hsplit,
        scanUnsigned_toDigits false hsize hrest]
      rfl
  | negSucc n =>
    have htext : (Value.int (.negSucc n)).spelled l inside = '-' :: Nat.toDigits 10 (n + 1) := by
      show ("-" ++ String.ofList (Nat.toDigits 10 (n + 1))).toList = _
      rw [String.toList_append, String.toList_ofList, String.toList_ofList]
      rfl
    have hfinish : ∀ rest, finishWhole true (n + 1) 0 rest = .ok (.int (.negSucc n), rest) :=
      fun rest => if_neg (show ¬ (n + 1 = 0 ∨ n + 1 > 2 ^ 63) by omega)
    have hsize : n + 1 < UInt64.size := by
      have : UInt64.size = 2 ^ 64 := rfl
      omega
    rw [htext]
    refine ⟨fun rest => ⟨'-', _, skipSpace_cons rfl _, by decide⟩, fun cs rest hcs hrest => ?_⟩
    rw [List.cons_append, skipSpace_cons rfl] at hcs
    unfold scanValueWith
    rw [hcs]
    exact except_bind_ok ((scanUnsigned_toDigits true hsize hrest).trans (hfinish rest))

theorem natural_reads (l : Layout) (depth inside : Nat) {n : Nat} (h : n < 2 ^ 64) :
    Reads (natural depth) ((Value.nat n).spelled l inside) (.nat n) := by
  have hwhole : Reads (scanValue 0) ((Value.nat n).spelled l inside) (.nat n) :=
    whole_reads l 0 inside (by omega) (Int.ofNat_lt.2 h)
  refine ⟨hwhole.starts, fun cs rest hcs hrest => ?_⟩
  have htext : (Value.nat n).spelled l inside = Nat.toDigits 10 n := String.toList_ofList
  obtain ⟨c, more, -, hc, hskip⟩ := skipSpace_toDigits n rest
  rw [htext, hskip] at hcs
  have hread : scanValue 0 (c :: more) = .ok (.nat n, rest) :=
    hwhole.reads _ rest (by rw [htext, hskip, skipSpace_cons (isSpace_of_isDigit hc)]) hrest
  unfold natural
  rw [hcs]
  dsimp only
  rw [if_pos (.inr hc)]
  exact except_bind_ok hread

theorem array_reads (l : Layout) {depth inside : Nat} {vs : List Value}
    (h : ∀ v ∈ vs, Reads (scanValue depth) (v.spelled l (inside + 1)) v) :
    Reads (scanValue (depth + 1)) ((Value.array vs).spelled l inside) (.array vs) where
  starts := fun rest => ⟨'[', _, skipSpace_cons rfl _, by decide⟩
  reads := by
    intro cs rest hcs _
    rw [Value.spelled, List.cons_append, skipSpace_cons rfl] at hcs
    unfold scanValue scanValueWith
    rw [hcs]
    exact except_bind_ok (scanList_spelled l inside h rest)

/-- A member of an object, behind those that stand before it. -/
def listMember (inner : Scan Value) (key : String) (known : List (String × Value)) :
    Scan (List (String × Value)) := fun cs => do
  let cs ← scanColon cs
  let (v, cs) ← inner cs
  .ok ((key, v) :: known, cs)

theorem scanObject_spelled (l : Layout) {scan : Scan Value} (inside : Nat)
    {ms : Table String Value} (hkeys : (ms.map Prod.fst).Nodup)
    (h : ∀ m ∈ ms, Reads scan (m.2.spelled l (inside + 1)) m.2) (rest : List Char) :
    scanObject (listMember scan) []
        (l.enclosed inside '}' (spelledMembers l (inside + 1) ms) ++ rest) =
      .ok (ms.reverse, rest) := by
  have htakes : Takes (listMember scan)
      (fun m => ':' :: (l.gap ++ m.2.spelled l (inside + 1))) ms := by
    intro m hm known rest _ hrest
    have hvalue := ((h m hm).indent l.blank_gap).reads _ rest rfl hrest
    exact (except_bind_ok (scanColon_colon _)).trans (except_bind_ok hvalue)
  have hmembers := scanObject_enclosed l inside htakes hkeys rest
  rw [spelledMembers_eq_map]
  exact hmembers

theorem object_reads (l : Layout) {depth inside : Nat} {ms : Table String Value}
    (hkeys : (ms.map Prod.fst).Nodup)
    (h : ∀ m ∈ ms, Reads (scanValue depth) (m.2.spelled l (inside + 1)) m.2) :
    Reads (scanValue (depth + 1)) ((Value.object ms).spelled l inside) (.object ms) where
  starts := fun rest => ⟨'{', _, skipSpace_cons rfl _, by decide⟩
  reads := by
    intro cs rest hcs _
    rw [Value.spelled, List.cons_append, skipSpace_cons rfl] at hcs
    unfold scanValue scanValueWith
    rw [hcs]
    refine (except_bind_ok (scanObject_spelled l inside hkeys h rest)).trans ?_
    show Except.ok (Value.object (Table.ofList (List.reverse ms).reverse), rest) = _
    rw [List.reverse_reverse, Table.ofList_eq_self hkeys]

/-- **Values.** A plain value is read from its text in any layout. -/
theorem Value.Plain.reads (l : Layout) {depth : Nat} {v : Value} (h : v.Plain depth)
    (inside : Nat) : Reads (scanValue depth) (v.spelled l inside) v := by
  induction h generalizing inside with
  | null depth =>
    rw [scanValue_eq]
    refine ⟨fun rest => ⟨'n', _, rfl, by decide⟩, fun cs rest hcs _ => ?_⟩
    unfold scanValueWith
    rw [hcs]
    rfl
  | bool depth b =>
    rw [scanValue_eq]
    cases b with
    | true =>
      refine ⟨fun rest => ⟨'t', _, rfl, by decide⟩, fun cs rest hcs _ => ?_⟩
      unfold scanValueWith
      rw [hcs]
      rfl
    | false =>
      refine ⟨fun rest => ⟨'f', _, rfl, by decide⟩, fun cs rest hcs _ => ?_⟩
      unfold scanValueWith
      rw [hcs]
      rfl
  | whole depth hlow hhigh => exact whole_reads l depth inside hlow hhigh
  | string depth s =>
    rw [scanValue_eq]
    refine ⟨writeString_starts s, fun cs rest hcs _ => ?_⟩
    rw [Value.spelled, skipSpace_writeString] at hcs
    unfold scanValueWith
    rw [hcs]
    exact except_bind_ok (scanString_written s rest)
  | array _ ih => exact array_reads l fun v hv => ih v hv (inside + 1)
  | object hkeys _ ih => exact object_reads l hkeys fun m hm => ih m hm (inside + 1)

/-- **Compact text.** A plain value is read from the text that is printed for it. -/
theorem parse_compact {v : Value} (h : v.Plain depthLimit) : parse v.compact = .ok v :=
  (h.reads .oneLine 0).readAll (List.forall_mem_nil _)
    ((Value.toList_compact 0 v).trans (List.append_nil _).symm)

end AssetCheck.Json
