import AssetCheck.Json.Reader
import AssetCheck.Proofs.Json.Layout
import AssetCheck.Proofs.Json.Strings
import AssetCheck.Proofs.Step

/-!
# Printed values are read back

A scan reads a value from a text if it gives that value whatever blanks stand in front of the text,
and whatever comes after it that can come after a value (`Reads`). There is one lemma for each
reader. A list is read element by element, where the text of each but the first begins with the
comma in front of it.
-/

namespace AssetCheck.Json

/-! ## Blanks -/

theorem skipSpace_append {gap : List Char} (h : ∀ c ∈ gap, isSpace c = true) (cs : List Char) :
    skipSpace (gap ++ cs) = skipSpace cs :=
  List.dropWhile_append_of_pos h

theorem skipSpace_cons {c : Char} (h : isSpace c = false) (cs : List Char) :
    skipSpace (c :: cs) = c :: cs :=
  List.dropWhile_cons_of_neg (by rw [h]; exact Bool.false_ne_true)

@[simp] theorem skipSpace_skipSpace (cs : List Char) : skipSpace (skipSpace cs) = skipSpace cs := by
  induction cs with
  | nil => rfl
  | cons c cs ih =>
    cases h : isSpace c with
    | true => rw [show skipSpace (c :: cs) = skipSpace cs from List.dropWhile_cons_of_pos h, ih]
    | false => rw [skipSpace_cons h, skipSpace_cons h]

/-! ## Reading a value -/

/-- What comes next is no part of a value that has been read. -/
def Ends (rest : List Char) : Prop :=
  ∀ c ∈ rest.head?, isSpace c = true ∨ c = ',' ∨ c = ']' ∨ c = '}'

theorem ends_cons {c : Char} (h : isSpace c = true ∨ c = ',' ∨ c = ']' ∨ c = '}')
    (rest : List Char) :
    Ends (c :: rest) := by
  intro d hd
  cases hd
  exact h

theorem ends_append {gap rest : List Char} (hgap : ∀ c ∈ gap, isSpace c = true) (h : Ends rest) :
    Ends (gap ++ rest) := by
  cases gap with
  | nil => exact h
  | cons c gap => exact ends_cons (.inl (hgap c (.head _))) _

/-- The scan gives a value for a text, which begins a value and not the end of a list. -/
structure Reads {α : Type} (scan : Scan α) (text : List Char) (x : α) : Prop where
  starts : ∀ rest, ∃ c cs, skipSpace (text ++ rest) = c :: cs ∧ c ≠ ']'
  reads : ∀ cs rest, skipSpace cs = skipSpace (text ++ rest) → Ends rest → scan cs = .ok (x, rest)

theorem Reads.indent {α : Type} {scan : Scan α} {text : List Char} {x : α} (h : Reads scan text x)
    {gap : List Char} (hgap : ∀ c ∈ gap, isSpace c = true) : Reads scan (gap ++ text) x where
  starts := by
    intro rest
    rw [List.append_assoc, skipSpace_append hgap]
    exact h.starts rest
  reads := by
    intro cs rest hcs hrest
    rw [List.append_assoc, skipSpace_append hgap] at hcs
    exact h.reads cs rest hcs hrest

/-- A whole text is read if nothing but blanks comes after what the scan reads. -/
theorem readAll_eq_ok_iff {α : Type} {scan : Scan α} {text : String} {x : α} :
    readAll scan text = .ok x ↔
      ∃ rest, scan text.toList = .ok (x, rest) ∧ scanEnd rest = .ok () := by
  unfold readAll
  dsimp only
  constructor
  · intro h
    obtain ⟨⟨y, rest⟩, hscan, hend⟩ := exists_ok_of_bind (eq_ok_of_mapError h)
    obtain ⟨_, hrest, hx⟩ := exists_ok_of_bind hend
    cases hx
    exact ⟨rest, hscan, hrest⟩
  · rintro ⟨rest, hscan, hrest⟩
    rw [except_bind_ok hscan, except_bind_ok hrest]
    rfl

theorem scanEnd_eq_ok_iff {cs : List Char} : scanEnd cs = .ok () ↔ skipSpace cs = [] := by
  unfold scanEnd
  cases skipSpace cs <;> simp

theorem Reads.readAll {α : Type} {scan : Scan α} {text : List Char} {x : α} (h : Reads scan text x)
    {gap : List Char} (hgap : ∀ c ∈ gap, isSpace c = true) {s : String}
    (hs : s.toList = text ++ gap) :
    readAll scan s = .ok x := by
  have hscan := h.reads s.toList gap (by rw [hs]) fun c hc =>
    .inl (hgap c (List.mem_of_mem_head? hc))
  have hend : scanEnd gap = .ok () := by
    rw [scanEnd_eq_ok_iff, ← List.append_nil gap, skipSpace_append hgap]
    rfl
  exact readAll_eq_ok_iff.2 ⟨gap, hscan, hend⟩

/-! ## Strings and truth values -/

theorem toList_writeString (s : String) :
    (writeString s).toList = '"' :: (s.toList.flatMap escapeChar ++ ['"']) := by
  unfold writeString
  rw [String.toList_ofList]
  rfl

theorem skipSpace_writeString (s : String) (rest : List Char) :
    skipSpace ((writeString s).toList ++ rest) =
      '"' :: (s.toList.flatMap escapeChar ++ '"' :: rest) := by
  rw [toList_writeString, List.cons_append, skipSpace_cons rfl, List.append_assoc]
  rfl

theorem writeString_starts (s : String) (rest : List Char) :
    ∃ c cs, skipSpace ((writeString s).toList ++ rest) = c :: cs ∧ c ≠ ']' :=
  ⟨'"', _, skipSpace_writeString s rest, by decide⟩

theorem text_reads (l : Layout) (depth inside : Nat) (s : String) :
    Reads (text depth) ((Value.string s).spelled l inside) (.string s) where
  starts := writeString_starts s
  reads := by
    intro cs rest hcs _
    rw [Value.spelled, skipSpace_writeString] at hcs
    unfold text
    rw [hcs]
    exact except_bind_ok (scanString_written s rest)

theorem oneOf_reads (l : Layout) (depth inside : Nat) {words : List String} {s : String}
    (h : s ∈ words) :
    Reads (oneOf words depth) ((Value.string s).spelled l inside) (.string s) where
  starts := writeString_starts s
  reads := by
    intro cs rest hcs _
    rw [Value.spelled, skipSpace_writeString] at hcs
    unfold oneOf
    rw [hcs]
    refine except_bind_ok (a := (s, rest)) ?_
    refine (except_bind_ok (scanString_written s rest)).trans ?_
    exact if_pos h

theorem flag_reads (l : Layout) (depth inside : Nat) (b : Bool) :
    Reads (flag depth) ((Value.bool b).spelled l inside) (.bool b) where
  starts := by
    intro rest
    cases b with
    | true => exact ⟨'t', _, rfl, by decide⟩
    | false => exact ⟨'f', _, rfl, by decide⟩
  reads := by
    intro cs rest hcs _
    unfold flag
    cases b with
    | true =>
      rw [hcs]
      rfl
    | false =>
      rw [hcs]
      rfl

/-- A value is not mistaken for null if its text does not begin like it. -/
theorem nullOr_reads {reader : Reader} {depth : Nat} {text : List Char} {v : Value}
    (h : Reads (reader depth) text v)
    (hstart : ∀ rest, (skipSpace (text ++ rest)).head? ≠ some 'n') :
    Reads (nullOr reader depth) text v where
  starts := h.starts
  reads := by
    intro cs rest hcs hrest
    have hread := h.reads (skipSpace cs) rest (by rw [skipSpace_skipSpace, hcs]) hrest
    have hhead := hstart rest
    rw [← hcs] at hhead
    unfold nullOr
    split
    · next heq =>
      rw [heq] at hhead
      exact absurd rfl hhead
    · exact hread

/-! ## Lists -/

/-- What follows a part is a comma and the next part, or blanks and the end. -/
theorem ends_parts {gap : List Char} (hgap : ∀ c ∈ gap, isSpace c = true) {close : Char}
    (hclose : close = ']' ∨ close = '}') (parts : List (List Char)) (rest : List Char) :
    Ends (parts.flatMap (',' :: ·) ++ (gap ++ close :: rest)) := by
  cases parts with
  | nil =>
    show Ends (gap ++ close :: rest)
    exact ends_append hgap (ends_cons (.inr (.inr hclose)) rest)
  | cons part parts => exact ends_cons (.inr (.inl rfl)) _

theorem length_le_parts (parts : List (List Char)) :
    parts.length ≤ (parts.flatMap (',' :: ·)).length := by
  induction parts with
  | nil => exact Nat.le_refl 0
  | cons part parts ih =>
    rw [List.flatMap_cons, List.length_append, List.length_cons, List.length_cons]
    omega

section Elements

variable {α : Type} {element : Scan α} {fuel : Nat} {read : List α} {cs more rest : List Char}

theorem scanElements_end (h : skipSpace cs = ']' :: rest) :
    scanElements element (fuel + 1) read cs = .ok (read.reverse, rest) := by
  rw [scanElements, h]
  rfl

theorem scanElements_first {c : Char} (h : skipSpace cs = c :: more) (hc : c ≠ ']') :
    scanElements element (fuel + 1) [] cs =
      (do let (x, cs) ← element (c :: more); scanElements element fuel [x] cs) := by
  rw [scanElements, h]
  split
  · next heq => cases heq
  · next heq => cases heq; exact absurd rfl hc
  · next heq => cases heq; rfl

theorem scanElements_next {c : Char} (h : skipSpace cs = ',' :: more)
    (hmore : skipSpace more = c :: rest) (hc : c ≠ ']') (hread : read ≠ []) :
    scanElements element (fuel + 1) read cs =
      (do let (x, cs) ← element (c :: rest); scanElements element fuel (x :: read) cs) := by
  rw [scanElements, h]
  show (if read.isEmpty then _ else if ',' = ',' then _ else _) = _
  rw [if_neg (by simpa using hread), if_pos rfl, hmore]
  split
  · next heq => cases heq
  · next heq => cases heq; exact absurd rfl hc
  · rfl

end Elements

section ListOf

variable {α ι : Type} {element : Scan α} {text : ι → List Char} {value : ι → α} {gap : List Char}
  (hgap : ∀ c ∈ gap, isSpace c = true)

include hgap

theorem scanElements_rest {xs : List ι} (h : ∀ x ∈ xs, Reads element (text x) (value x))
    {fuel : Nat} (hfuel : xs.length < fuel) {read : List α} (hread : read ≠ []) (rest : List Char) :
    scanElements element fuel read ((xs.map text).flatMap (',' :: ·) ++ (gap ++ ']' :: rest)) =
      .ok (read.reverse ++ xs.map value, rest) := by
  induction xs generalizing fuel read with
  | nil =>
    obtain ⟨fuel, rfl⟩ : ∃ k, fuel = k + 1 := ⟨fuel - 1, by omega⟩
    have hend : skipSpace (gap ++ ']' :: rest) = ']' :: rest := by
      rw [skipSpace_append hgap, skipSpace_cons rfl]
    show scanElements element (fuel + 1) read (gap ++ ']' :: rest) = _
    rw [scanElements_end hend, List.map_nil, List.append_nil]
  | cons x xs ih =>
    obtain ⟨hx, hxs⟩ := List.forall_mem_cons.1 h
    rw [List.length_cons] at hfuel
    obtain ⟨fuel, rfl⟩ : ∃ k, fuel = k + 1 := ⟨fuel - 1, by omega⟩
    have hends := ends_parts hgap (.inl rfl) (xs.map text) rest
    obtain ⟨c, cs, hstart, hne⟩ :=
      hx.starts ((xs.map text).flatMap (',' :: ·) ++ (gap ++ ']' :: rest))
    have helement := hx.reads (c :: cs) _ (by rw [← hstart, skipSpace_skipSpace]) hends
    rw [List.map_cons, List.flatMap_cons, List.append_assoc, List.cons_append,
      scanElements_next (skipSpace_cons rfl _) hstart hne hread, helement]
    show scanElements element fuel (value x :: read) _ = _
    rw [ih hxs (by omega) (List.cons_ne_nil _ _), List.reverse_cons, List.append_assoc]
    rfl

omit hgap

theorem scanList_enclosed {xs : List ι} (h : ∀ x ∈ xs, Reads element (text x) (value x))
    (l : Layout) (depth : Nat) (rest : List Char) :
    scanList element (l.enclosed depth ']' (xs.map text) ++ rest) = .ok (xs.map value, rest) := by
  cases xs with
  | nil => exact scanElements_end (skipSpace_cons rfl rest)
  | cons x xs =>
    obtain ⟨hx, hxs⟩ := List.forall_mem_cons.1 h
    have hblank := l.blank_line depth
    have hends := ends_parts hblank (.inl rfl) (xs.map text) rest
    obtain ⟨c, cs, hstart, hne⟩ :=
      hx.starts ((xs.map text).flatMap (',' :: ·) ++ (l.line depth ++ ']' :: rest))
    have helement := hx.reads (c :: cs) _ (by rw [← hstart, skipSpace_skipSpace]) hends
    have hsplit : l.enclosed depth ']' ((x :: xs).map text) ++ rest =
        text x ++ ((xs.map text).flatMap (',' :: ·) ++ (l.line depth ++ ']' :: rest)) := by
      rw [List.map_cons, Layout.enclosed_cons]
      simp only [List.append_assoc, List.singleton_append]
    have hlen := length_le_parts (xs.map text)
    unfold scanList
    rw [hsplit, scanElements_first hstart hne, helement]
    show scanElements element _ [value x] _ = _
    rw [scanElements_rest hblank hxs _ (List.cons_ne_nil _ _)]
    · rfl
    · simp only [List.length_append, List.length_cons, List.length_map] at hlen ⊢
      omega

end ListOf

theorem scanList_spelled (l : Layout) {scan : Scan Value} (inside : Nat) {vs : List Value}
    (h : ∀ v ∈ vs, Reads scan (v.spelled l (inside + 1)) v) (rest : List Char) :
    scanList scan (l.enclosed inside ']' (spelledElements l (inside + 1) vs) ++ rest) =
      .ok (vs, rest) := by
  have hlist : scanList scan (l.enclosed inside ']'
      (vs.map fun v => l.line (inside + 1) ++ v.spelled l (inside + 1)) ++ rest) =
        .ok (vs.map id, rest) :=
    scanList_enclosed (fun v hv => (h v hv).indent (l.blank_line (inside + 1))) l inside rest
  rw [List.map_id, ← spelledElements_eq_map] at hlist
  exact hlist

theorem listOf_reads (l : Layout) {reader : Reader} (depth inside : Nat) {vs : List Value}
    (h : ∀ v ∈ vs, Reads (reader depth) (v.spelled l (inside + 1)) v) :
    Reads (listOf reader (depth + 1)) ((Value.array vs).spelled l inside) (.array vs) where
  starts := fun rest => ⟨'[', _, skipSpace_cons rfl _, by decide⟩
  reads := by
    intro cs rest hcs _
    rw [Value.spelled, List.cons_append, skipSpace_cons rfl] at hcs
    unfold listOf
    rw [hcs]
    exact except_bind_ok (scanList_spelled l inside h rest)

end AssetCheck.Json
