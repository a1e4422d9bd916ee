import AssetCheck.Json.Reader
import AssetCheck.Proofs.Json.Along
import AssetCheck.Proofs.Json.Leftover
import AssetCheck.Proofs.Json.Listing
import AssetCheck.Proofs.Json.Records
import AssetCheck.Proofs.Json.Shapes
import AssetCheck.Proofs.Step

/-!
# The texts of a record

A record is told here by its slots and not by a reader: each slot has a name and the texts that may
stand in it, and some may be left out. As an object, the members of a record are those whose keys
are names of slots, each at most once, and all else is passed over; as a list, the slots stand in
their order (`RecordTexts`). A reader of records reads these texts, and no others
(`record_eq_ok_iff`).
-/

namespace AssetCheck.Json

/-- What the front of a text says, and what is left of the text behind it. -/
abbrev Texts := List Char → Value → List Char → Prop

/-- A place for a value in a record. -/
structure Slot where
  name : String
  optional : Bool
  texts : Texts

/-- The slot of a field, in lists and objects of a depth. -/
def Field.slot (depth : Nat) (field : Field) : Slot where
  name := field.name
  optional := field.optional
  texts := fun cs v rest => field.reader depth cs = .ok (v, rest)

/-- The members that are left of a record, up to and with the closing brace. The flag tells that
none has come yet. -/
inductive MemberTexts (slots : List Slot) :
    Bool → List Char → List (String × Value) → List Char → Prop
  | close {first : Bool} {cs rest : List Char} : skipSpace cs = '}' :: rest →
      MemberTexts slots first cs [] rest
  | member {first : Bool} {cs key colon body others rest : List Char} {slot : Slot} {v : Value}
      {ms : List (String × Value)} : slot ∈ slots → KeyAt first cs key →
      scanString key = .ok (slot.name, colon) → scanColon colon = .ok body →
      slot.texts body v others → MemberTexts slots false others ms rest →
      MemberTexts slots first cs ((slot.name, v) :: ms) rest
  | other {first : Bool} {cs key colon body others rest : List Char} {name : String}
      {ms : List (String × Value)} : name ∉ slots.map (·.name) → KeyAt first cs key →
      scanString key = .ok (name, colon) → scanColon colon = .ok body →
      skipValue body = .ok others → MemberTexts slots false others ms rest →
      MemberTexts slots first cs ms rest

/-- The slots that are left of a record that is written as a list, up to and with the closing
bracket. -/
inductive ElementTexts :
    List Slot → Bool → List Char → List (String × Value) → List Char → Prop
  | close {slots : List Slot} {first : Bool} {cs rest : List Char} :
      (∀ slot ∈ slots, slot.optional = true) → skipSpace cs = ']' :: rest →
      ElementTexts slots first cs [] rest
  | element {slot : Slot} {slots : List Slot} {first : Bool} {cs more others rest : List Char}
      {v : Value} {ms : List (String × Value)} : ElementAt first cs more →
      slot.texts more v others → ElementTexts slots false others ms rest →
      ElementTexts (slot :: slots) first cs ((slot.name, v) :: ms) rest

/-- The texts of a record with its members. -/
inductive RecordTexts (slots : List Slot) : List Char → List (String × Value) → List Char → Prop
  | object {cs more rest : List Char} {ms : List (String × Value)} :
      skipSpace cs = '{' :: more → MemberTexts slots true more ms rest →
      (ms.map Prod.fst).Nodup →
      (∀ slot ∈ slots, slot.optional = false → slot.name ∈ ms.map Prod.fst) →
      RecordTexts slots cs ms rest
  | list {cs more rest : List Char} {ms : List (String × Value)} :
      skipSpace cs = '[' :: more → ElementTexts slots true more ms rest →
      RecordTexts slots cs ms rest

section Reader

variable {fields : List Field} {depth : Nat} {cs rest : List Char}
  {known final ms : List (String × Value)}

theorem Field.slot_eq {field : Field} {texts : Texts}
    (h : ∀ cs v rest, field.reader depth cs = .ok (v, rest) ↔ texts cs v rest) :
    field.slot depth = ⟨field.name, field.optional, texts⟩ :=
  congrArg (Slot.mk field.name field.optional)
    (funext fun cs => funext fun v => funext fun rest => propext (h cs v rest))

theorem map_slot_name (fields : List Field) (depth : Nat) :
    (fields.map (·.slot depth)).map (·.name) = fields.map (·.name) := List.map_map

/-! ## What the reader reads -/

theorem memberTexts_of_scan {fuel : Nat} {first : Bool}
    (h : scanMembers (scanField false fields depth) fuel first known cs = .ok (final, rest)) :
    ∃ ms, final = ms.reverse ++ known ∧ MemberTexts (fields.map (·.slot depth)) first cs ms rest := by
  induction fuel generalizing first known cs with
  | zero => cases h
  | succ fuel ih =>
    rcases scanMembers_cases h with
      ⟨hcs, rfl⟩ | ⟨key, name, colon, next, others, hat, hname, hnext, hothers⟩
    · exact ⟨[], rfl, .close hcs⟩
    · obtain ⟨ms, rfl, hms⟩ := ih hothers
      unfold scanField at hnext
      split at hnext
      · next hnone =>
        obtain ⟨body, hbody, hnext⟩ := exists_ok_of_bind hnext
        obtain ⟨rest, hskip, hnext⟩ := exists_ok_of_bind hnext
        cases hnext
        have hnew : name ∉ (fields.map (·.slot depth)).map (·.name) := by
          rw [map_slot_name]
          intro hmem
          obtain ⟨field, hfield, hkey⟩ := List.mem_map.1 hmem
          exact List.find?_eq_none.1 hnone field hfield (decide_eq_true hkey)
        exact ⟨ms, rfl, .other hnew hat hname hbody hskip hms⟩
      · next field hfield =>
        split at hnext
        · cases hnext
        · obtain ⟨body, hbody, hnext⟩ := exists_ok_of_bind hnext
          obtain ⟨⟨v, rest⟩, hv, hnext⟩ := exists_ok_of_bind hnext
          cases hnext
          have hkey : field.name = name := of_decide_eq_true (List.find?_some hfield :)
          subst hkey
          have hslot := List.mem_map_of_mem (f := (·.slot depth)) (List.mem_of_find?_eq_some hfield)
          refine ⟨(field.name, v) :: ms, ?_, .member hslot hat hname hbody hv hms⟩
          rw [List.reverse_cons, List.append_assoc]
          rfl

theorem scanPositional_at {record : String} {total : Nat} {field : Field} {more : List Char}
    (h : ElementAt known.isEmpty cs more) :
    scanPositional record total depth (field :: fields) known cs = (do
      let (v, cs) ← field.reader depth more
      scanPositional record total depth fields ((field.name, v) :: known) cs) := by
  cases known with
  | nil =>
    change ElementAt true cs more at h
    cases h with
    | first hcs hc => simp [scanPositional, hcs]
  | cons m known =>
    change ElementAt false cs more at h
    cases h with
    | next hcs hgap hc => simp [scanPositional, hcs, hgap, hc]

theorem scanPositional_cases {record : String} {total : Nat} {field : Field}
    (h : scanPositional record total depth (field :: fields) known cs = .ok (final, rest)) :
    (∃ after, skipSpace cs = ']' :: after ∧ field.optional = true ∧
      scanPositional record total depth fields known (']' :: after) = .ok (final, rest)) ∨
    ∃ more v others, ElementAt known.isEmpty cs more ∧
      field.reader depth more = .ok (v, others) ∧
      scanPositional record total depth fields ((field.name, v) :: known) others =
        .ok (final, rest) := by
  have hat : ∀ more, ElementAt known.isEmpty cs more →
      ∃ more v others, ElementAt known.isEmpty cs more ∧ field.reader depth more = .ok (v, others) ∧
        scanPositional record total depth fields ((field.name, v) :: known) others =
          .ok (final, rest) := by
    intro more hat
    rw [scanPositional_at hat] at h
    obtain ⟨⟨v, others⟩, hv, hothers⟩ := exists_ok_of_bind h
    exact ⟨more, v, others, hat, hv, hothers⟩
  unfold scanPositional at h
  dsimp only at h
  split at h
  · cases h
  · next after hcs =>
    split at h
    · next hoptional => exact .inl ⟨after, hcs, hoptional, h⟩
    · cases h
  · next c more hclose hcs =>
    refine .inr ?_
    split at h
    · next hfirst => exact hat _ (by rw [hfirst]; exact .first hcs hclose)
    · next hfirst =>
      rw [Bool.not_eq_true] at hfirst
      split at h
      · next hcomma =>
        subst hcomma
        split at h
        · cases h
        · cases h
        · next hempty hclose =>
          obtain ⟨c, gap, hgap⟩ := List.exists_cons_of_ne_nil hempty
          have hc : c ≠ ']' := fun hc => hclose gap (by rw [hgap, hc])
          exact hat _ (by rw [hfirst]; exact .next hcs hgap hc)
      · cases h

theorem closeList_eq_ok_iff {cs rest : List Char} :
    closeList cs = .ok rest ↔ skipSpace cs = ']' :: rest := by
  refine ⟨fun h => ?_, fun h => ?_⟩
  · unfold closeList at h
    split at h
    · cases h
    · next hcs =>
      cases h
      exact hcs
    · split at h <;> cases h
    · cases h
  · unfold closeList
    rw [h]
    rfl

/-- Where the list ends, no element stands. -/
theorem ElementTexts.of_end {slots : List Slot} {first : Bool} {after : List Char}
    (h : ElementTexts slots first (']' :: after) ms rest) :
    (∀ slot ∈ slots, slot.optional = true) ∧ ms = [] ∧ after = rest := by
  have hend : skipSpace (']' :: after) = ']' :: after := skipSpace_cons rfl after
  cases h with
  | close hall hcs =>
    rw [hend] at hcs
    cases hcs
    exact ⟨hall, rfl, rfl⟩
  | element hat _ _ =>
    cases hat with
    | first hcs hc =>
      rw [hend] at hcs
      cases hcs
      exact absurd rfl hc
    | next hcs _ _ =>
      rw [hend] at hcs
      cases hcs

theorem elementTexts_of_scan {record : String} {total : Nat} {after : List Char}
    (h : scanPositional record total depth fields known cs = .ok (final, rest))
    (hclose : closeList rest = .ok after) :
    ∃ ms, final = known.reverse ++ ms ∧
      ElementTexts (fields.map (·.slot depth)) known.isEmpty cs ms after := by
  induction fields generalizing known cs with
  | nil =>
    cases h
    exact ⟨[], (List.append_nil _).symm, .close (List.forall_mem_nil _)
      (closeList_eq_ok_iff.1 hclose)⟩
  | cons field fields ih =>
    rcases scanPositional_cases h with
      ⟨_, hcs, hoptional, hscan⟩ | ⟨more, v, others, hat, hv, hothers⟩
    · obtain ⟨ms, hfinal, hms⟩ := ih hscan
      obtain ⟨hall, rfl, rfl⟩ := hms.of_end
      exact ⟨[], hfinal, .close (List.forall_mem_cons.2 ⟨hoptional, hall⟩) hcs⟩
    · obtain ⟨ms, rfl, hms⟩ := ih hothers
      refine ⟨(field.name, v) :: ms, ?_, .element hat hv hms⟩
      rw [List.reverse_cons, List.append_assoc]
      rfl

/-! ## All of them are read -/

theorem find?_name (hnames : (fields.map (·.name)).Nodup) {field : Field} (h : field ∈ fields) :
    fields.find? (·.name = field.name) = some field := by
  induction fields with
  | nil => cases h
  | cons first fields ih =>
    rw [List.map_cons, List.nodup_cons] at hnames
    rcases List.mem_cons.1 h with rfl | h
    · exact List.find?_cons_of_pos (decide_eq_true rfl)
    · have hother : first.name ≠ field.name := fun he => hnames.1 (he ▸ List.mem_map_of_mem h)
      rw [List.find?_cons_of_neg (by simpa using hother), ih hnames.2 h]

theorem MemberTexts.scan (hnames : (fields.map (·.name)).Nodup)
    (hshrinks : ∀ field ∈ fields, Shrinks (field.reader depth)) {first : Bool}
    (h : MemberTexts (fields.map (·.slot depth)) first cs ms rest) (fuel : Nat)
    (hfuel : cs.length < fuel) (known : List (String × Value))
    (hkeys : (ms.map Prod.fst ++ known.map Prod.fst).Nodup) :
    scanMembers (scanField false fields depth) fuel first known cs =
      .ok (ms.reverse ++ known, rest) := by
  -- Each member takes its key from the text, so the text is longer than what is left to be read.
  induction h generalizing fuel known with
  | close hcs =>
    obtain ⟨fuel, rfl⟩ : ∃ k, fuel = k + 1 := ⟨fuel - 1, by omega⟩
    exact scanMembers_end hcs
  | @member first cs key colon body others rest slot v ms hslot hat hname hcolon hbody _ ih =>
    obtain ⟨fuel, rfl⟩ : ∃ k, fuel = k + 1 := ⟨fuel - 1, by omega⟩
    obtain ⟨field, hfield, rfl⟩ := List.mem_map.1 hslot
    rw [List.map_cons, List.cons_append] at hkeys
    have hnew : field.name ∉ known.map Prod.fst := fun hmem =>
      (List.nodup_cons.1 hkeys).1 (List.mem_append_right _ hmem)
    have hshorter := hat.lt_of_scanColon hname hcolon
    have hvalue := hshrinks field hfield _ _ _ hbody
    have hmore := ih fuel (by omega) ((field.name, v) :: known)
      (List.perm_middle.nodup_iff.2 hkeys)
    rw [scanMembers_at hat]
    refine (except_bind_ok hname).trans ?_
    refine (except_bind_ok (scanField_of_find (find?_name hnames hfield) hnew hcolon hbody)).trans ?_
    rw [List.reverse_cons, List.append_assoc]
    exact hmore
  | @other first cs key colon body others rest name ms hname hat hkey hcolon hskip _ ih =>
    obtain ⟨fuel, rfl⟩ : ∃ k, fuel = k + 1 := ⟨fuel - 1, by omega⟩
    rw [map_slot_name] at hname
    have hnone : fields.find? (·.name = name) = none :=
      List.find?_eq_none.2 fun field hfield hof =>
        hname (of_decide_eq_true hof ▸ List.mem_map_of_mem hfield)
    have hshorter := hat.lt_of_scanColon hkey hcolon
    have hskipped := le_of_skipValue hskip
    have hmore := ih fuel (by omega) known hkeys
    have hfield : scanField false fields depth name known colon = .ok (known, others) := by
      unfold scanField
      rw [hnone]
      exact (except_bind_ok hcolon).trans (except_bind_ok hskip)
    rw [scanMembers_at hat]
    exact (except_bind_ok hkey).trans ((except_bind_ok hfield).trans hmore)

theorem ElementTexts.scan {record : String} {total : Nat} {after : List Char}
    (known : List (String × Value))
    (h : ElementTexts (fields.map (·.slot depth)) known.isEmpty cs ms after) :
    ∃ rest, scanPositional record total depth fields known cs = .ok (known.reverse ++ ms, rest) ∧
      closeList rest = .ok after := by
  induction fields generalizing known cs ms with
  | nil =>
    cases h with
    | close _ hcs => exact ⟨cs, by rw [List.append_nil]; rfl, closeList_eq_ok_iff.2 hcs⟩
  | cons field fields ih =>
    cases h with
    | close hall hcs =>
      obtain ⟨hoptional, hothers⟩ := List.forall_mem_cons.1 hall
      obtain ⟨rest, hscan, hrest⟩ := ih known (.close hothers (skipSpace_cons rfl after))
      refine ⟨rest, ?_, hrest⟩
      have hfield : field.optional = true := hoptional
      unfold scanPositional
      rw [hcs]
      exact (if_pos hfield).trans hscan
    | @element _ _ _ _ more others _ v ms hat hv hms =>
      obtain ⟨rest, hscan, hrest⟩ := ih ((field.name, v) :: known) hms
      refine ⟨rest, ?_, hrest⟩
      rw [scanPositional_at hat]
      refine (except_bind_ok hv).trans (hscan.trans ?_)
      rw [List.reverse_cons, List.append_assoc]
      rfl

/-- **Records.** The reader of records reads the texts of records, and no others. -/
theorem record_eq_ok_iff (hnames : (fields.map (·.name)).Nodup)
    (hshrinks : ∀ field ∈ fields, Shrinks (field.reader depth)) (name : String) {v : Value} :
    record name false fields (depth + 1) cs = .ok (v, rest) ↔
      ∃ ms, v = .object ms ∧ RecordTexts (fields.map (·.slot depth)) cs ms rest := by
  refine ⟨fun h => ?_, ?_⟩
  · have hgives := record_gives (P := fun _ _ => True) hnames
      (fun _ _ _ _ _ _ _ => trivial) name false (depth + 1) _ _ _ h
    unfold record at h
    split at h
    · cases h
    · next hcs =>
      obtain ⟨⟨ms, more⟩, hms, hclose⟩ := exists_ok_of_bind h
      obtain ⟨after, hafter, hv⟩ := exists_ok_of_bind hclose
      cases hv
      obtain ⟨ms, rfl, htexts⟩ := elementTexts_of_scan hms hafter
      exact ⟨ms, rfl, .list hcs htexts⟩
    · next hcs =>
      obtain ⟨⟨final, after⟩, hms, hmissing⟩ := exists_ok_of_bind h
      dsimp only at hmissing
      split at hmissing
      · cases hmissing
      · cases hmissing
        obtain ⟨ms, rfl, htexts⟩ := memberTexts_of_scan hms
        obtain ⟨_, hobject, hof⟩ := hgives
        cases hobject
        rw [List.append_nil, List.reverse_reverse] at hof
        refine ⟨ms, by rw [List.append_nil, List.reverse_reverse], .object hcs htexts
          hof.distinct.1 ?_⟩
        intro slot hslot hrequired
        obtain ⟨field, hfield, rfl⟩ := List.mem_map.1 hslot
        exact hof.given field hfield hrequired
    · exact absurd h (refuse_ne_ok _ _ _)
  · rintro ⟨ms, rfl, htexts⟩
    cases htexts with
    | object hcs hms hkeys hgiven =>
      have hscan := hms.scan hnames hshrinks _ (Nat.lt_succ_self _) []
        (by rwa [List.map_nil, List.append_nil])
      have hread : ∀ field ∈ fields, field.optional = false →
          field.name ∈ (ms.reverse ++ []).map Prod.fst := by
        intro field hfield hrequired
        rw [List.append_nil, List.map_reverse]
        exact List.mem_reverse.2 (hgiven _ (List.mem_map_of_mem hfield) hrequired)
      unfold record
      rw [hcs]
      refine (except_bind_ok hscan).trans ?_
      dsimp only
      rw [find?_missing_eq_none hread, List.append_nil, List.reverse_reverse]
    | list hcs hms =>
      obtain ⟨more, hscan, hclose⟩ := hms.scan []
      unfold record
      rw [hcs]
      exact (except_bind_ok hscan).trans (except_bind_ok hclose)

theorem MemberTexts.length_le {slots : List Slot} {first : Bool}
    (hslots : ∀ slot ∈ slots, ∀ cs v rest, slot.texts cs v rest → rest.length ≤ cs.length)
    (h : MemberTexts slots first cs ms rest) : rest.length ≤ cs.length := by
  induction h with
  | close hcs => exact Nat.le_of_lt (lt_of_skipSpace hcs)
  | member hslot hat hname hcolon hbody _ ih =>
    have hshorter := hat.lt_of_scanColon hname hcolon
    have hvalue := hslots _ hslot _ _ _ hbody
    omega
  | other _ hat hkey hcolon hskip _ ih =>
    have hshorter := hat.lt_of_scanColon hkey hcolon
    have hskipped := le_of_skipValue hskip
    omega

theorem ElementTexts.length_le {slots : List Slot} {first : Bool}
    (hslots : ∀ slot ∈ slots, ∀ cs v rest, slot.texts cs v rest → rest.length ≤ cs.length)
    (h : ElementTexts slots first cs ms rest) : rest.length ≤ cs.length := by
  induction h with
  | close _ hcs => exact Nat.le_of_lt (lt_of_skipSpace hcs)
  | element hat hv _ ih =>
    obtain ⟨hslot, hothers⟩ := List.forall_mem_cons.1 hslots
    have hmore := hat.length_le
    have hvalue := hslot _ _ _ hv
    have hrest := ih hothers
    omega

theorem record_shrinks (hnames : (fields.map (·.name)).Nodup)
    (hshrinks : ∀ field ∈ fields, Shrinks (field.reader depth)) (name : String) :
    Shrinks (record name false fields (depth + 1)) := by
  intro cs v rest h
  obtain ⟨ms, -, htexts⟩ := (record_eq_ok_iff hnames hshrinks name).1 h
  have hslots : ∀ slot ∈ fields.map (·.slot depth), ∀ cs v rest, slot.texts cs v rest →
      rest.length ≤ cs.length := by
    intro slot hslot
    obtain ⟨field, hfield, rfl⟩ := List.mem_map.1 hslot
    exact hshrinks field hfield
  cases htexts with
  | object hcs hms _ _ => exact Nat.le_trans (hms.length_le hslots) (Nat.le_of_lt (lt_of_skipSpace hcs))
  | list hcs hms => exact Nat.le_trans (hms.length_le hslots) (Nat.le_of_lt (lt_of_skipSpace hcs))

end Reader

/-! ## What stands in a slot -/

/-- A value of a kind that is neither a list nor an object. -/
def scalarTexts (P : Value → Prop) : Texts := fun cs v rest =>
  P v ∧ scanValue 0 cs = .ok (v, rest)

section Scalars

variable {cs rest : List Char} {v : Value}

theorem scanValue_skipSpace (depth : Nat) (cs : List Char) :
    scanValue depth (skipSpace cs) = scanValue depth cs := by
  cases depth <;> exact scanValueWith_skipSpace _ cs

theorem scanValue_zero_begins (h : scanValue 0 cs = .ok (v, rest)) : Begins none cs v rest :=
  begins_of_scalar h

theorem text_eq_ok_iff (depth : Nat) :
    text depth cs = .ok (v, rest) ↔ scalarTexts (fun v => ∃ s, v = .string s) cs v rest := by
  refine ⟨fun h => ⟨text_gives _ _ _ _ h, ?_⟩, ?_⟩
  · unfold text at h
    split at h
    · cases h
    · next hcs =>
      unfold scanValue scanValueWith
      rw [hcs]
      exact h
    · exact absurd h (refuse_ne_ok _ _ _)
  · rintro ⟨⟨s, rfl⟩, h⟩
    cases scanValue_zero_begins h with
    | string hcs hs =>
      unfold text
      rw [hcs]
      exact except_bind_ok hs

theorem natural_eq_ok_iff (depth : Nat) :
    natural depth cs = .ok (v, rest) ↔ scalarTexts (fun v => ∃ n : Nat, v = .nat n) cs v rest := by
  refine ⟨fun h => ⟨natural_gives _ _ _ _ h, ?_⟩, ?_⟩
  · unfold natural at h
    split at h
    · cases h
    · next hcs =>
      split at h
      · obtain ⟨⟨w, more⟩, hw, hv⟩ := exists_ok_of_bind h
        rw [← hcs, scanValue_skipSpace] at hw
        dsimp only at hv
        split at hv
        · cases hv
        · cases hv
        · cases hv
          exact hw
      · exact absurd h (refuse_ne_ok _ _ _)
  · rintro ⟨⟨n, rfl⟩, h⟩
    cases scanValue_zero_begins h with
    | number _ _ hcs hc =>
      rw [← scanValue_skipSpace, hcs] at h
      unfold natural
      rw [hcs]
      exact (if_pos hc).trans (except_bind_ok h)

theorem text_shrinks (depth : Nat) : Shrinks (text depth) := fun _ _ _ h =>
  scanValue_shrinks 0 _ _ _ ((text_eq_ok_iff depth).1 h).2

theorem natural_shrinks (depth : Nat) : Shrinks (natural depth) := fun _ _ _ h =>
  scanValue_shrinks 0 _ _ _ ((natural_eq_ok_iff depth).1 h).2

theorem nullOr_shrinks {reader : Reader} {depth : Nat} (h : Shrinks (reader depth)) :
    Shrinks (nullOr reader depth) := by
  intro cs v rest hread
  refine Nat.le_trans ?_ (length_skipSpace_le cs)
  unfold nullOr at hread
  split at hread
  · next hcs => exact hcs ▸ scanValue_shrinks 0 _ _ _ hread
  · exact h _ _ _ hread

theorem RecordTexts.congr_skipSpace {slots : List Slot} {ms : List (String × Value)} :
    RecordTexts slots (skipSpace cs) ms rest ↔ RecordTexts slots cs ms rest := by
  refine ⟨fun h => ?_, fun h => ?_⟩
  · cases h with
    | object hcs => exact .object (by rwa [skipSpace_skipSpace] at hcs) ‹_› ‹_› ‹_›
    | list hcs => exact .list (by rwa [skipSpace_skipSpace] at hcs) ‹_›
  · cases h with
    | object hcs => exact .object (by rwa [skipSpace_skipSpace]) ‹_› ‹_› ‹_›
    | list hcs => exact .list (by rwa [skipSpace_skipSpace]) ‹_›

theorem nullOr_record_eq_ok_iff {fields : List Field} {depth : Nat}
    (hnames : (fields.map (·.name)).Nodup)
    (hshrinks : ∀ field ∈ fields, Shrinks (field.reader depth)) (name : String) :
    nullOr (record name false fields) (depth + 1) cs = .ok (v, rest) ↔
      scalarTexts (· = .null) cs v rest ∨
        ∃ ms, v = .object ms ∧ RecordTexts (fields.map (·.slot depth)) cs ms rest := by
  have hrecord : record name false fields (depth + 1) (skipSpace cs) = .ok (v, rest) ↔
      ∃ ms, v = .object ms ∧ RecordTexts (fields.map (·.slot depth)) cs ms rest := by
    rw [record_eq_ok_iff hnames hshrinks]
    simp only [RecordTexts.congr_skipSpace]
  refine ⟨fun h => ?_, ?_⟩
  · unfold nullOr at h
    split at h
    · next hcs =>
      rw [← hcs, scanValue_skipSpace] at h
      have hnull : v = .null := by
        unfold scanValue scanValueWith at h
        rw [hcs] at h
        obtain ⟨_, -, hv⟩ := exists_ok_of_bind h
        cases hv
        rfl
      exact .inl ⟨hnull, h⟩
    · exact .inr (hrecord.1 h)
  · rintro (⟨rfl, h⟩ | h)
    · cases scanValue_zero_begins h with
      | null _ hcs =>
        rw [← scanValue_skipSpace, hcs] at h
        unfold nullOr
        rw [hcs]
        exact h
    · unfold nullOr
      split
      · next hcs =>
        obtain ⟨ms, -, htexts⟩ := h
        cases htexts with
        | object hobject => cases hcs.symm.trans hobject
        | list hlist => cases hcs.symm.trans hlist
      · exact hrecord.2 h

end Scalars

end AssetCheck.Json
