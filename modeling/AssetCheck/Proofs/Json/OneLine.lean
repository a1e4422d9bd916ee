import AssetCheck.Proofs.Json.Reading

/-!
# Compact text is one line

No control character stands in the compact text of a value: strings escape theirs, and numbers are
digits with a few signs. So there is no line feed in it, whatever texts the value holds
(`newline_not_mem_compact`).
-/

namespace AssetCheck.Json

/-- No character is a control character. -/
def Inline (cs : List Char) : Prop := ∀ c ∈ cs, 0x20 ≤ c.toNat

instance (cs : List Char) : Decidable (Inline cs) :=
  List.decidableBAll (fun c : Char => 0x20 ≤ c.toNat) cs

namespace Inline

variable {cs more : List Char}

theorem nil : Inline [] := List.forall_mem_nil _

theorem cons {c : Char} (hc : 0x20 ≤ c.toNat) (h : Inline cs) : Inline (c :: cs) :=
  List.forall_mem_cons.2 ⟨hc, h⟩

theorem append (h : Inline cs) (hmore : Inline more) : Inline (cs ++ more) :=
  List.forall_mem_append.2 ⟨h, hmore⟩

theorem sublist (h : Inline cs) (hsub : more.Sublist cs) : Inline more := fun c hc =>
  h c (hsub.subset hc)

theorem replicate (n : Nat) {c : Char} (hc : 0x20 ≤ c.toNat) : Inline (List.replicate n c) :=
  fun _ hmem => List.eq_of_mem_replicate hmem ▸ hc

theorem newline_not_mem (h : Inline cs) : '\n' ∉ cs := fun hmem => absurd (h '\n' hmem) (by decide)

end Inline

/-! ## Strings -/

theorem hexDigit_inline : ∀ n < 16, 0x20 ≤ (hexDigit n).toNat := by decide

theorem escapeChar_inline (c : Char) : Inline (escapeChar c) := by
  unfold escapeChar
  split
  iterate 7 exact .cons (by decide) (.cons (by decide) .nil)
  split
  · have hhigh := hexDigit_inline (c.toNat / 16) (by omega)
    have hlow := hexDigit_inline (c.toNat % 16) (by omega)
    have hlead : Inline ['\\', 'u', '0', '0'] := by decide
    exact hlead.append (.cons hhigh (.cons hlow .nil))
  · next hc => exact .cons (Nat.le_of_not_lt hc) .nil

theorem writeString_inline (s : String) : Inline (writeString s).toList := by
  rw [toList_writeString]
  refine .cons (by decide) (.append (fun c hc => ?_) (.cons (by decide) .nil))
  obtain ⟨d, -, hc⟩ := List.mem_flatMap.1 hc
  exact escapeChar_inline d c hc

/-! ## Numbers -/

theorem toDigits_inline (n : Nat) : Inline (Nat.toDigits 10 n) := by
  intro c hc
  have hdigit : c.isDigit = true := Nat.isDigit_of_mem_toDigits (by decide) (by decide) hc
  simp only [Char.isDigit, Bool.and_eq_true, decide_eq_true_eq] at hdigit
  have hzero : 48 ≤ c.toNat := UInt32.le_iff_toNat_le.1 hdigit.1
  omega

theorem writeOut_inline (showsPoint : Bool) {ds : List Char} (h : Inline ds) (point : Int) :
    Inline (Decimal.writeOut showsPoint ds point).toList := by
  have hzeros : ∀ n, Inline (Decimal.zeros n).toList := fun n => by
    rw [Decimal.zeros, String.toList_ofList]
    exact .replicate n (by decide)
  unfold Decimal.writeOut
  split
  · simp only [String.toList_append, String.toList_ofList]
    exact .append (.append (by decide) (hzeros _)) h
  · split
    · simp only [String.toList_append, String.toList_ofList]
      refine .append (.append h (hzeros _)) ?_
      cases showsPoint <;> decide
    · simp only [String.toList_append, String.toList_ofList]
      exact .append (.append (h.sublist (List.take_sublist _ _)) (by decide))
        (h.sublist (List.drop_sublist _ _))

theorem writeExponent_inline {ds : List Char} (h : Inline ds) (lead : Int) :
    Inline (Decimal.writeExponent ds lead).toList := by
  have hexponent : Inline (toString lead.natAbs).toList := by
    show Inline (String.ofList (Nat.toDigits 10 lead.natAbs)).toList
    rw [String.toList_ofList]
    exact toDigits_inline _
  have hsign : Inline (if lead < 0 then "-" else "+").toList := by
    split <;> decide
  have hrest :
      Inline (if (ds.drop 1).isEmpty then "" else "." ++ String.ofList (ds.drop 1)).toList := by
    split
    · exact .nil
    · simp only [String.toList_append, String.toList_ofList]
      exact .append (by decide) (h.sublist (List.drop_sublist _ _))
  unfold Decimal.writeExponent
  simp only [String.toList_append, String.toList_ofList]
  exact .append (.append (.append (.append (h.sublist (List.take_sublist _ _)) hrest)
    (by decide)) hsign) hexponent

theorem writeFinite_inline (layout : Decimal.Layout) (b : Decimal.Binary) :
    Inline (layout.writeFinite b).toList := by
  have hdigits := toDigits_inline (Decimal.shortest layout.tie b).digits
  unfold Decimal.Layout.writeFinite
  dsimp only
  split
  · exact writeOut_inline _ hdigits _
  · split
    · exact writeOut_inline _ hdigits _
    · exact writeExponent_inline hdigits _

theorem write_inline : (n : Number) → Inline n.write.toList
  | .int (.ofNat n) => by
    show Inline (String.ofList (Nat.toDigits 10 n)).toList
    rw [String.toList_ofList]
    exact toDigits_inline n
  | .int (.negSucc n) => by
    show Inline ("-" ++ String.ofList (Nat.toDigits 10 (n + 1))).toList
    simp only [String.toList_append, String.toList_ofList]
    exact .append (by decide) (toDigits_inline (n + 1))
  | .float x => by
    unfold Number.write Decimal.Layout.write
    dsimp only
    split
    · decide
    · rw [String.toList_append]
      refine .append ?_ ?_
      · split <;> decide
      · split
        · decide
        · exact writeFinite_inline _ _

/-! ## Values -/

theorem enclosed_inline (depth : Nat) {close : Char} (hclose : 0x20 ≤ close.toNat)
    {parts : List (List Char)} (h : ∀ part ∈ parts, Inline part) :
    Inline (Layout.oneLine.enclosed depth close parts) := by
  cases parts with
  | nil => exact .cons hclose .nil
  | cons part parts =>
    obtain ⟨hpart, hparts⟩ := List.forall_mem_cons.1 h
    rw [Layout.enclosed_cons]
    refine hpart.append (.append (fun c hc => ?_) (.cons hclose .nil))
    obtain ⟨part, hmem, hc⟩ := List.mem_flatMap.1 hc
    exact (hparts part hmem).cons (by decide) c hc

mutual

theorem Value.spelled_inline (depth : Nat) : (v : Value) → Inline (v.spelled .oneLine depth)
  | .null => by rw [Value.spelled]; decide
  | .bool true => by rw [Value.spelled]; decide
  | .bool false => by rw [Value.spelled]; decide
  | .number n => by rw [Value.spelled]; exact write_inline n
  | .string s => by rw [Value.spelled]; exact writeString_inline s
  | .array vs => by
    rw [Value.spelled]
    exact .cons (by decide) (enclosed_inline depth (by decide) (elements_inline (depth + 1) vs))
  | .object ms => by
    rw [Value.spelled]
    exact .cons (by decide) (enclosed_inline depth (by decide) (members_inline (depth + 1) ms))

theorem elements_inline (depth : Nat) : (vs : List Value) →
    ∀ part ∈ spelledElements .oneLine depth vs, Inline part
  | [] => List.forall_mem_nil _
  | v :: vs => by
    rw [spelledElements, Layout.oneLine_line, List.nil_append]
    exact List.forall_mem_cons.2 ⟨v.spelled_inline depth, elements_inline depth vs⟩

theorem members_inline (depth : Nat) : (ms : List (String × Value)) →
    ∀ part ∈ spelledMembers .oneLine depth ms, Inline part
  | [] => List.forall_mem_nil _
  | (k, v) :: ms => by
    rw [spelledMembers, Layout.oneLine_line, Layout.oneLine_gap, List.nil_append, List.nil_append]
    refine List.forall_mem_cons.2 ⟨?_, members_inline depth ms⟩
    exact (writeString_inline k).append (.cons (by decide) (v.spelled_inline depth))

end

/-- **One line.** The compact text of a value holds no line feed. -/
theorem newline_not_mem_compact (v : Value) : '\n' ∉ v.compact.toList := by
  rw [v.toList_compact 0]
  exact (v.spelled_inline 0).newline_not_mem

end AssetCheck.Json
