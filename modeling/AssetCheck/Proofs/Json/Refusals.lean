import AssetCheck.Proofs.Json.Records

/-!
# Printed values that are refused

A scan refuses a text for some cause if it stops with that cause, whatever blanks stand in front of
the text and whatever comes after it (`Refuses`). A word is refused if it is none of those that are
asked for, and a record if its first member is.
-/

namespace AssetCheck.Json

/-- The scan stops with the cause. -/
def Stops {α : Type} (result : Except Fault α) (cause : Cause) : Prop :=
  ∃ fault, result = .error fault ∧ fault.cause = cause

theorem Stops.bind {α β : Type} {result : Except Fault α} {cause : Cause} (h : Stops result cause)
    (next : α → Except Fault β) : Stops (result >>= next) cause := by
  obtain ⟨fault, hfault, hcause⟩ := h
  exact ⟨fault, except_bind_error hfault, hcause⟩

/-- The scan stops at a text with the cause. -/
def Refuses {α : Type} (scan : Scan α) (text : List Char) (cause : Cause) : Prop :=
  ∀ cs rest, skipSpace cs = skipSpace (text ++ rest) → Stops (scan cs) cause

theorem Refuses.readAll {α : Type} {scan : Scan α} {text : List Char} {cause : Cause}
    (h : Refuses scan text cause) {s : String} (hs : s.toList = text) :
    ∃ position, readAll scan s = .error ⟨cause, some position⟩ := by
  obtain ⟨fault, hfault, rfl⟩ := h s.toList [] (by rw [hs, List.append_nil])
  refine ⟨fault.position s.toList, ?_⟩
  unfold Json.readAll
  dsimp only
  rw [except_bind_error hfault]
  rfl

theorem oneOf_refuses (l : Layout) (depth inside : Nat) {words : List String} {s : String}
    (h : s ∉ words) :
    Refuses (oneOf words depth) ((Value.string s).spelled l inside) (.unknownVariant s words) := by
  intro cs rest hcs
  rw [Value.spelled, skipSpace_writeString] at hcs
  unfold oneOf
  rw [hcs]
  refine Stops.bind ⟨.before (.unknownVariant s words) rest, ?_, rfl⟩ _
  refine (except_bind_ok (scanString_written s rest)).trans ?_
  exact if_neg h

/-- A record whose first member is of a field that refuses its value. -/
theorem record_refuses (l : Layout) (name : String) (strict : Bool) {fields : List Field}
    {depth inside : Nat} {m : String × Value} {field : Field} {cause : Cause}
    (hfield : fields.find? (·.name = m.1) = some field)
    (h : Refuses (field.reader depth) (m.2.spelled l (inside + 1)) cause)
    (ms : List (String × Value)) :
    Refuses (record name strict fields (depth + 1)) ((Value.object (m :: ms)).spelled l inside)
      cause := by
  intro cs rest hcs
  -- What comes behind the value of the first member is not looked at.
  obtain ⟨more, hmore⟩ : ∃ more, l.enclosed inside '}' (spelledMembers l (inside + 1) (m :: ms)) =
      keyed (l.line (inside + 1)) (fun m => ':' :: (l.gap ++ m.2.spelled l (inside + 1))) m ++
        more := by
    rw [spelledMembers_eq_map, List.map_cons, Layout.enclosed_cons]
    exact ⟨_, rfl⟩
  rw [Value.spelled, hmore, List.cons_append, skipSpace_cons rfl] at hcs
  have hkey := @skipSpace_keyed _ (fun m => ':' :: (l.gap ++ m.2.spelled l (inside + 1)))
    (l.blank_line (inside + 1)) m (more ++ rest)
  have hvalue : Stops (field.reader depth ((l.gap ++ m.2.spelled l (inside + 1)) ++ (more ++ rest)))
      cause :=
    h _ (more ++ rest) (by rw [List.append_assoc, skipSpace_append l.blank_gap])
  have hmember : Stops (scanField strict fields depth m.1 []
      ((':' :: (l.gap ++ m.2.spelled l (inside + 1))) ++ (more ++ rest))) cause := by
    unfold scanField
    rw [hfield]
    show Stops (scanColon _ >>= _) cause
    rw [List.cons_append, except_bind_ok (scanColon_colon _)]
    exact hvalue.bind _
  unfold record
  rw [hcs]
  refine Stops.bind ?_ _
  unfold scanObject
  rw [List.append_assoc, scanMembers_first hkey, except_bind_ok (scanString_written m.1 _)]
  exact hmember.bind _

end AssetCheck.Json
