import AssetCheck.Proofs.Json.Reading

/-!
# Printed records are read back

An object is read member by member, each of them behind what is known of those before it. A record
takes the members of its fields, each once (`record_reads`).
-/

namespace AssetCheck.Json

/-! ## Objects -/

section Members

variable {σ : Type} {member : String → σ → Scan σ} {fuel : Nat} {first : Bool} {known : σ}
  {cs more rest : List Char}

theorem scanMembers_end (h : skipSpace cs = '}' :: rest) :
    scanMembers member (fuel + 1) first known cs = .ok (known, rest) := by
  rw [scanMembers, h]
  rfl

theorem scanMembers_first (h : skipSpace cs = '"' :: more) :
    scanMembers member (fuel + 1) true known cs = (do
      let (key, cs) ← scanString more
      let (known, cs) ← member key known cs
      scanMembers member fuel false known cs) := by
  rw [scanMembers, h]
  rfl

theorem scanMembers_next (h : skipSpace cs = ',' :: more) (hmore : skipSpace more = '"' :: rest) :
    scanMembers member (fuel + 1) false known cs = (do
      let (key, cs) ← scanString rest
      let (known, cs) ← member key known cs
      scanMembers member fuel false known cs) := by
  rw [scanMembers, h]
  simp [hmore]

end Members

section Object

variable {member : String → List (String × Value) → Scan (List (String × Value))} {line : List Char}
  {body : String × Value → List Char}

/-- A key with what comes after it, behind blanks. -/
def keyed (line : List Char) (body : String × Value → List Char) (m : String × Value) : List Char :=
  line ++ ((writeString m.1).toList ++ body m)

theorem skipSpace_keyed (hline : ∀ c ∈ line, isSpace c = true) (m : String × Value)
    (more : List Char) :
    skipSpace (keyed line body m ++ more) =
      '"' :: (m.1.toList.flatMap escapeChar ++ '"' :: (body m ++ more)) := by
  unfold keyed
  rw [List.append_assoc, skipSpace_append hline, List.append_assoc, skipSpace_writeString]

/-- The members are known once they have been read, if their keys were new. -/
def Takes (member : String → List (String × Value) → Scan (List (String × Value)))
    (body : String × Value → List Char) (ms : List (String × Value)) : Prop :=
  ∀ m ∈ ms, ∀ known rest, m.1 ∉ known.map Prod.fst → Ends rest →
    member m.1 known (body m ++ rest) = .ok (m :: known, rest)

variable (hline : ∀ c ∈ line, isSpace c = true)

include hline

theorem scanMembers_rest {gap : List Char} (hgap : ∀ c ∈ gap, isSpace c = true)
    {ms : List (String × Value)} (h : Takes member body ms) {fuel : Nat} (hfuel : ms.length < fuel)
    {known : List (String × Value)}
    (hkeys : (ms.map Prod.fst ++ known.map Prod.fst).Nodup) (rest : List Char) :
    scanMembers member fuel false known
        ((ms.map (keyed line body)).flatMap (',' :: ·) ++ (gap ++ '}' :: rest)) =
      .ok (ms.reverse ++ known, rest) := by
  induction ms generalizing fuel known with
  | nil =>
    obtain ⟨fuel, rfl⟩ : ∃ k, fuel = k + 1 := ⟨fuel - 1, by omega⟩
    have hend : skipSpace (gap ++ '}' :: rest) = '}' :: rest := by
      rw [skipSpace_append hgap, skipSpace_cons rfl]
    exact scanMembers_end hend
  | cons m ms ih =>
    obtain ⟨hm, hms⟩ := List.forall_mem_cons.1 h
    rw [List.length_cons] at hfuel
    obtain ⟨fuel, rfl⟩ : ∃ k, fuel = k + 1 := ⟨fuel - 1, by omega⟩
    rw [List.map_cons, List.cons_append] at hkeys
    have hnew : m.1 ∉ known.map Prod.fst := fun hmem =>
      (List.nodup_cons.1 hkeys).1 (List.mem_append_right _ hmem)
    have hends := ends_parts hgap (.inr rfl) (ms.map (keyed line body)) rest
    rw [List.map_cons, List.flatMap_cons, List.append_assoc, List.cons_append,
      scanMembers_next (skipSpace_cons rfl _) (skipSpace_keyed hline m _)]
    refine (except_bind_ok (scanString_written m.1 _)).trans ?_
    refine (except_bind_ok (hm known _ hnew hends)).trans ?_
    have hothers : (ms.map Prod.fst ++ (m :: known).map Prod.fst).Nodup :=
      List.perm_middle.nodup_iff.2 hkeys
    refine (ih hms (by omega) hothers).trans ?_
    rw [List.reverse_cons, List.append_assoc]
    rfl

omit hline

theorem scanObject_enclosed (l : Layout) (depth : Nat) {ms : List (String × Value)}
    (h : Takes member body ms) (hkeys : (ms.map Prod.fst).Nodup) (rest : List Char) :
    scanObject member [] (l.enclosed depth '}' (ms.map (keyed (l.line (depth + 1)) body)) ++ rest) =
      .ok (ms.reverse, rest) := by
  cases ms with
  | nil => exact scanMembers_end (skipSpace_cons rfl rest)
  | cons m ms =>
    obtain ⟨hm, hms⟩ := List.forall_mem_cons.1 h
    have hline := l.blank_line (depth + 1)
    have hends := ends_parts (l.blank_line depth) (.inr rfl)
      (ms.map (keyed (l.line (depth + 1)) body)) rest
    have hsplit : l.enclosed depth '}' ((m :: ms).map (keyed (l.line (depth + 1)) body)) ++ rest =
        keyed (l.line (depth + 1)) body m ++
          ((ms.map (keyed (l.line (depth + 1)) body)).flatMap (',' :: ·) ++
            (l.line depth ++ '}' :: rest)) := by
      rw [List.map_cons, Layout.enclosed_cons]
      simp only [List.append_assoc, List.singleton_append]
    have hlen := length_le_parts (ms.map (keyed (l.line (depth + 1)) body))
    unfold scanObject
    rw [hsplit, scanMembers_first (skipSpace_keyed hline m _)]
    refine (except_bind_ok (scanString_written m.1 _)).trans
      ((except_bind_ok (hm [] _ (List.not_mem_nil) hends)).trans ?_)
    rw [List.map_cons] at hkeys
    refine (scanMembers_rest hline (l.blank_line depth) hms ?_ ?_ rest).trans ?_
    · simp only [List.length_append, List.length_cons, List.length_map] at hlen ⊢
      omega
    · exact (List.perm_append_singleton m.1 _).nodup_iff.2 hkeys
    · rw [List.reverse_cons]

end Object

theorem scanColon_colon (rest : List Char) : scanColon (':' :: rest) = .ok rest := by
  unfold scanColon
  rw [skipSpace_cons rfl]
  rfl

/-! ## Records -/

/-- A member of a record, as the reader of its field reads it. -/
theorem scanField_of_find {strict : Bool} {fields : List Field} {depth : Nat} {key : String}
    {field : Field} (hfield : fields.find? (·.name = key) = some field)
    {known : List (String × Value)} (hnew : key ∉ known.map Prod.fst) {cs more rest : List Char}
    (hcolon : scanColon cs = .ok more) {v : Value}
    (hvalue : field.reader depth more = .ok (v, rest)) :
    scanField strict fields depth key known cs = .ok ((key, v) :: known, rest) := by
  have hknown : ¬ known.any (·.1 = key) = true := by
    intro hany
    obtain ⟨entry, hmem, he⟩ := List.any_eq_true.1 hany
    exact hnew (List.mem_map.2 ⟨entry, hmem, of_decide_eq_true he⟩)
  unfold scanField
  rw [hfield]
  show (if known.any (·.1 = key) then _ else _) = _
  rw [if_neg hknown]
  exact (except_bind_ok hcolon).trans (except_bind_ok hvalue)

theorem scanField_ok (l : Layout) (strict : Bool) {fields : List Field} {depth inside : Nat}
    {m : String × Value} {field : Field} (hfield : fields.find? (·.name = m.1) = some field)
    (h : Reads (field.reader depth) (m.2.spelled l inside) m.2) {known : List (String × Value)}
    (hnew : m.1 ∉ known.map Prod.fst) {rest : List Char} (hrest : Ends rest) :
    scanField strict fields depth m.1 known (':' :: (l.gap ++ m.2.spelled l inside) ++ rest) =
      .ok (m :: known, rest) :=
  scanField_of_find hfield hnew (scanColon_colon _)
    ((h.indent l.blank_gap).reads _ rest rfl hrest)

theorem find?_missing_eq_none {fields : List Field} {ms : List (String × Value)}
    (hgiven : ∀ field ∈ fields, field.optional = false → field.name ∈ ms.map Prod.fst) :
    (fields.find? fun field => ¬ field.optional ∧ ms.all (·.1 ≠ field.name)) = none := by
  refine List.find?_eq_none.2 fun field hmem hmissing => ?_
  obtain ⟨hrequired, hnone⟩ := of_decide_eq_true hmissing
  obtain ⟨m, hm, hname⟩ := List.mem_map.1 (hgiven field hmem (Bool.eq_false_iff.2 hrequired))
  exact of_decide_eq_true (List.all_eq_true.1 hnone m hm) hname

/-- **Records.** An object is read as a record if each member is of a field that reads its value, no
key comes twice, and no field that has to be given is missing. -/
theorem record_reads (l : Layout) (name : String) (strict : Bool) {fields : List Field}
    {depth inside : Nat} {ms : List (String × Value)} (hkeys : (ms.map Prod.fst).Nodup)
    (hfields : ∀ m ∈ ms, ∃ field, fields.find? (·.name = m.1) = some field ∧
      Reads (field.reader depth) (m.2.spelled l (inside + 1)) m.2)
    (hgiven : ∀ field ∈ fields, field.optional = false → field.name ∈ ms.map Prod.fst) :
    Reads (record name strict fields (depth + 1)) ((Value.object ms).spelled l inside)
      (.object ms) where
  starts := fun rest => ⟨'{', _, skipSpace_cons rfl _, by decide⟩
  reads := by
    intro cs rest hcs _
    have htakes : Takes (scanField strict fields depth)
        (fun m => ':' :: (l.gap ++ m.2.spelled l (inside + 1))) ms := by
      intro m hm known rest hnew hrest
      obtain ⟨field, hfield, hreads⟩ := hfields m hm
      exact scanField_ok l strict hfield hreads hnew hrest
    have hmembers := scanObject_enclosed l inside htakes hkeys rest
    have hread : ∀ field ∈ fields, field.optional = false →
        field.name ∈ ms.reverse.map Prod.fst := by
      rw [List.map_reverse]
      exact fun field hmem hrequired => List.mem_reverse.2 (hgiven field hmem hrequired)
    rw [Value.spelled, List.cons_append, skipSpace_cons rfl, spelledMembers_eq_map] at hcs
    unfold record
    rw [hcs]
    refine (except_bind_ok hmembers).trans ?_
    dsimp only
    rw [find?_missing_eq_none hread, List.reverse_reverse]

end AssetCheck.Json
