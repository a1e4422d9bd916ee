import AssetCheck.Json.Scan
import AssetCheck.Proofs.Step

/-!
# Strings are read as they were written

Each character of a string is written as itself or as an escape, and either is read as that
character (`scanChars_escapeChar`). A quote inside a string is always escaped, so the one that ends
the string is the first that is met on its own (`scanString_written`).
-/

namespace AssetCheck.Json

/-- The two digits of a control character are its code. -/
theorem hexValue4?_hexDigit {n : Nat} (h : n < 0x20) :
    hexValue4? '0' '0' (hexDigit (n / 16)) (hexDigit (n % 16)) = some n := by
  have hall : ∀ n < 0x20, hexValue4? '0' '0' (hexDigit (n / 16)) (hexDigit (n % 16)) = some n := by
    decide
  exact hall n h

theorem scanEscape_control {c : Char} (h : c.toNat < 0x20) (rest : List Char) :
    scanEscape ('u' :: '0' :: '0' :: hexDigit (c.toNat / 16) :: hexDigit (c.toNat % 16) :: rest) =
      .ok (c, rest) := by
  have hhex : scanHex4 ('0' :: '0' :: hexDigit (c.toNat / 16) :: hexDigit (c.toNat % 16) :: rest) =
      .ok (c.toNat, rest) := by
    unfold scanHex4
    dsimp only
    rw [hexValue4?_hexDigit h]
    rfl
  rw [scanEscape, hhex]
  show (if 0xDC00 ≤ c.toNat ∧ c.toNat ≤ 0xDFFF then _ else _) = _
  rw [if_neg (by omega), if_neg (by omega), Char.ofNat_toNat]

/-- **One character.** What a character is written as is read as that character. -/
theorem scanChars_escapeChar (c : Char) (fuel : Nat) (read rest : List Char) :
    scanChars (fuel + 1) read (escapeChar c ++ rest) = scanChars fuel (c :: read) rest := by
  unfold escapeChar
  split
  -- Seven characters have escapes of their own.
  iterate 7 rfl
  · next hquote hbackslash _ _ _ _ _ =>
    split
    · next hcontrol =>
      exact except_bind_ok (scanEscape_control hcontrol rest)
    · next hcontrol =>
      show scanChars (fuel + 1) read (c :: rest) = _
      rw [scanChars, if_neg hcontrol]
      · exact hquote
      · exact hbackslash

theorem scanChars_written (s : List Char) (fuel : Nat) (hfuel : s.length < fuel)
    (read rest : List Char) :
    scanChars fuel read (s.flatMap escapeChar ++ '"' :: rest) =
      .ok (String.ofList (read.reverse ++ s), rest) := by
  induction s generalizing fuel read with
  | nil =>
    obtain ⟨fuel, rfl⟩ : ∃ k, fuel = k + 1 := ⟨fuel - 1, by omega⟩
    rw [List.append_nil]
    rfl
  | cons c s ih =>
    rw [List.length_cons] at hfuel
    obtain ⟨fuel, rfl⟩ : ∃ k, fuel = k + 1 := ⟨fuel - 1, by omega⟩
    rw [List.flatMap_cons, List.append_assoc, scanChars_escapeChar, ih fuel (by omega),
      List.reverse_cons, List.append_assoc]
    rfl

theorem escapeChar_ne_nil (c : Char) : escapeChar c ≠ [] := by
  unfold escapeChar
  split <;> try split
  all_goals exact List.cons_ne_nil _ _

theorem length_le_flatMap_escapeChar (s : List Char) :
    s.length ≤ (s.flatMap escapeChar).length := by
  induction s with
  | nil => exact Nat.le_refl 0
  | cons c s ih =>
    have hpos := List.length_pos_iff.2 (escapeChar_ne_nil c)
    rw [List.flatMap_cons, List.length_append, List.length_cons]
    omega

/-- **Strings.** What a string is written as, after its opening quote, is read as that string. -/
theorem scanString_written (s : String) (rest : List Char) :
    scanString (s.toList.flatMap escapeChar ++ '"' :: rest) = .ok (s, rest) := by
  have hlen := length_le_flatMap_escapeChar s.toList
  unfold scanString
  rw [scanChars_written, List.reverse_nil, List.nil_append, String.ofList_toList]
  rw [List.length_append]
  omega

end AssetCheck.Json
