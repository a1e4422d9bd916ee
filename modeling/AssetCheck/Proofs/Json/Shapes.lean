import AssetCheck.Json.Reader
import AssetCheck.Proofs.Json.Proper
import AssetCheck.Proofs.Json.Values

/-!
# Shapes of what is read

A reader of a shape gives nothing but values of that shape. Of a record it gives an object with one
member for each field that the text gives, and none that has to be given is missing, whether the
record is written as an object or as a list (`record_gives`).
-/

namespace AssetCheck.Json

theorem refuse_ne_ok {α : Type} (expected : String) (cs : List Char) (p : α × List Char) :
    refuse expected cs ≠ .ok p := by
  intro h
  unfold refuse at h
  split at h
  · cases h
  · cases h
  · obtain ⟨_, -, hrefused⟩ := exists_ok_of_bind h
    cases hrefused

theorem text_gives (depth : Nat) : Gives (fun v => ∃ s, v = .string s) (text depth) := by
  intro cs v rest h
  unfold text at h
  split at h
  · cases h
  · obtain ⟨⟨s, _⟩, -, hv⟩ := exists_ok_of_bind h
    cases hv
    exact ⟨s, rfl⟩
  · exact absurd h (refuse_ne_ok _ _ _)

theorem scanValueWith_number {inner : Option (Scan Value)} {c : Char}
    (hc : c = '-' ∨ c.isDigit = true) {cs more rest : List Char} (hcs : skipSpace cs = c :: more)
    {v : Value} (h : scanValueWith inner cs = .ok (v, rest)) : ∃ n, v = .number n := by
  rcases hc with rfl | hc
  · unfold scanValueWith at h
    rw [hcs] at h
    obtain ⟨⟨n, _⟩, -, hv⟩ := exists_ok_of_bind h
    cases hv
    exact ⟨n, rfl⟩
  · rw [scanValueWith_digit hc hcs] at h
    obtain ⟨⟨n, _⟩, -, hv⟩ := exists_ok_of_bind h
    cases hv
    exact ⟨n, rfl⟩

theorem natural_gives (depth : Nat) : Gives (fun v => ∃ n : Nat, v = .nat n) (natural depth) := by
  intro cs v rest h
  unfold natural at h
  split at h
  · cases h
  · next c more hcs =>
    split at h
    · next hc =>
      obtain ⟨⟨w, _⟩, hw, hv⟩ := exists_ok_of_bind h
      have hspace : isSpace c = false := hc.elim (fun hminus => hminus ▸ rfl) isSpace_of_isDigit
      obtain ⟨n, rfl⟩ := scanValueWith_number hc (skipSpace_cons hspace more) hw
      cases n with
      | float x => cases hv
      | int n =>
        cases n with
        | negSucc n => cases hv
        | ofNat n =>
          cases hv
          exact ⟨n, rfl⟩
    · exact absurd h (refuse_ne_ok _ _ _)

theorem nullOr_gives {P : Value → Prop} {reader : Reader} {depth : Nat}
    (h : Gives P (reader depth)) : Gives (fun v => v = .null ∨ P v) (nullOr reader depth) := by
  intro cs v rest hread
  unfold nullOr at hread
  split at hread
  · obtain ⟨_, -, hv⟩ := exists_ok_of_bind hread
    cases hv
    exact .inl rfl
  · exact .inr (h _ _ _ hread)

/-! ## Records -/

/-- No member comes twice, and each has the shape of its field. -/
def Distinct (P : String → Value → Prop) (ms : Table String Value) : Prop :=
  ms.keys.Nodup ∧ ∀ m ∈ ms, P m.1 m.2

theorem Distinct.nil (P : String → Value → Prop) : Distinct P [] :=
  ⟨List.nodup_nil, List.forall_mem_nil _⟩

/-- The members are those of a record: distinct ones, and those that have to be given are there. -/
structure OfFields (P : String → Value → Prop) (fields : List Field) (ms : Table String Value) :
    Prop where
  distinct : Distinct P ms
  given : ∀ field ∈ fields, field.optional = false → field.name ∈ ms.keys

theorem keys_reverse (ms : Table String Value) :
    Table.keys ms.reverse = (Table.keys ms).reverse := List.map_reverse

theorem OfFields.reverse {P : String → Value → Prop} {fields : List Field}
    {ms : Table String Value} (h : Distinct P ms)
    (hgiven : ∀ field ∈ fields, field.optional = false → field.name ∈ ms.keys) :
    OfFields P fields ms.reverse := by
  refine ⟨⟨?_, fun m hm => h.2 m (List.mem_reverse.1 hm)⟩, ?_⟩
  · rw [keys_reverse]
    exact (List.reverse_perm _).nodup_iff.2 h.1
  · rw [keys_reverse]
    exact fun field hmem hrequired => List.mem_reverse.2 (hgiven field hmem hrequired)

section Record

variable {P : String → Value → Prop} {fields : List Field} {depth : Nat}
  (hfields : ∀ field ∈ fields, Gives (P field.name) (field.reader depth))

include hfields

theorem scanField_gives (strict : Bool) (key : String) {known : Table String Value}
    (hknown : Distinct P known) :
    Gives (Distinct P) (scanField strict fields depth key known) := by
  intro cs ms rest h
  unfold scanField at h
  split at h
  · split at h
    · cases h
    · obtain ⟨_, -, hskip⟩ := exists_ok_of_bind h
      obtain ⟨_, -, hms⟩ := exists_ok_of_bind hskip
      cases hms
      exact hknown
  · next field hfield =>
    split at h
    · cases h
    · next hnew =>
      obtain ⟨_, -, hvalue⟩ := exists_ok_of_bind h
      obtain ⟨⟨v, _⟩, hv, hms⟩ := exists_ok_of_bind hvalue
      cases hms
      have hname : field.name = key := of_decide_eq_true (List.find?_some hfield :)
      have hshape := hfields field (List.mem_of_find?_eq_some hfield) _ _ _ hv
      rw [hname] at hshape
      refine ⟨List.nodup_cons.2 ⟨fun hmem => hnew ?_, hknown.1⟩,
        List.forall_mem_cons.2 ⟨hshape, hknown.2⟩⟩
      obtain ⟨m, hm, hkey⟩ := List.mem_map.1 hmem
      exact List.any_eq_true.2 ⟨m, hm, decide_eq_true hkey⟩

theorem scanPositional_gives (record : String) (total : Nat) {read ms : Table String Value}
    (hdistinct : (read.keys ++ fields.map (·.name)).Nodup) (hshape : ∀ m ∈ read, P m.1 m.2)
    {cs rest : List Char}
    (h : scanPositional record total depth fields read cs = .ok (ms, rest)) :
    OfFields P fields ms ∧ read.keys ⊆ ms.keys := by
  -- What has been read is held last member first, and goes through the fields that are left.
  induction fields generalizing read cs with
  | nil =>
    cases h
    rw [List.map_nil, List.append_nil] at hdistinct
    exact ⟨.reverse ⟨hdistinct, hshape⟩ (List.forall_mem_nil _),
      fun key hkey => keys_reverse read ▸ List.mem_reverse.2 hkey⟩
  | cons field fields ih =>
    obtain ⟨hfield, hothers⟩ := List.forall_mem_cons.1 hfields
    rw [List.map_cons] at hdistinct
    have hnext : ∀ cs, (field.reader depth cs >>= fun p =>
        scanPositional record total depth fields ((field.name, p.1) :: read) p.2) = .ok (ms, rest) →
        OfFields P (field :: fields) ms ∧ read.keys ⊆ ms.keys := by
      intro cs hscan
      obtain ⟨⟨v, _⟩, hv, hmore⟩ := exists_ok_of_bind hscan
      have hmiddle : (Table.keys ((field.name, v) :: read) ++ fields.map (·.name)).Nodup :=
        List.perm_middle.nodup_iff.1 hdistinct
      obtain ⟨hms, hsubset⟩ := ih hothers hmiddle
        (List.forall_mem_cons.2 ⟨hfield _ _ _ hv, hshape⟩) hmore
      obtain ⟨hgiven, hread⟩ := List.cons_subset.1 hsubset
      exact ⟨⟨hms.distinct, List.forall_mem_cons.2 ⟨fun _ => hgiven, hms.given⟩⟩, hread⟩
    have hskip : field.optional = true → ∀ cs,
        scanPositional record total depth fields read cs = .ok (ms, rest) →
        OfFields P (field :: fields) ms ∧ read.keys ⊆ ms.keys := by
      intro hoptional cs hscan
      have hfewer := hdistinct.sublist ((List.sublist_cons_self _ _).append_left read.keys)
      obtain ⟨hms, hsubset⟩ := ih hothers hfewer hshape hscan
      refine ⟨⟨hms.distinct, List.forall_mem_cons.2 ⟨fun hrequired => ?_, hms.given⟩⟩, hsubset⟩
      rw [hoptional] at hrequired
      cases hrequired
    unfold scanPositional at h
    dsimp only at h
    split at h
    · cases h
    · split at h
      · exact hskip ‹_› _ h
      · cases h
    · split at h
      · exact hnext _ h
      · split at h
        · split at h
          · cases h
          · cases h
          · exact hnext _ h
        · cases h

end Record

/-- **Records.** What is read as a record is an object with the members of its fields. -/
theorem record_gives {P : String → Value → Prop} {fields : List Field}
    (hnames : (fields.map (·.name)).Nodup)
    (hfields : ∀ depth, ∀ field ∈ fields, Gives (P field.name) (field.reader depth))
    (name : String) (strict : Bool) (depth : Nat) :
    Gives (fun v => ∃ ms, v = .object ms ∧ OfFields P fields ms)
      (record name strict fields depth) := by
  intro cs v rest h
  unfold record at h
  split at h
  · cases h
  · split at h
    · cases h
    · next depth =>
      obtain ⟨⟨ms, _⟩, hms, hclose⟩ := exists_ok_of_bind h
      obtain ⟨_, -, hv⟩ := exists_ok_of_bind hclose
      cases hv
      have hstart : (Table.keys ([] : Table String Value) ++ fields.map (·.name)).Nodup := hnames
      obtain ⟨hof, -⟩ := scanPositional_gives (hfields depth) name fields.length hstart
        (List.forall_mem_nil _) hms
      exact ⟨ms, rfl, hof⟩
  · split at h
    · cases h
    · next depth =>
      obtain ⟨⟨ms, _⟩, hms, hmissing⟩ := exists_ok_of_bind h
      have hmembers : Distinct P ms := scanMembers_gives (P := Distinct P)
        (fun key known hknown => scanField_gives (hfields depth) strict key hknown) _ _ (.nil P)
        _ _ _ hms
      dsimp only at hmissing
      split at hmissing
      · cases hmissing
      · next hnone =>
        cases hmissing
        refine ⟨_, rfl, .reverse hmembers fun field hmem hrequired => ?_⟩
        have hpresent := List.find?_eq_none.1 hnone field hmem
        rw [decide_eq_true_eq, hrequired] at hpresent
        refine Classical.byContradiction fun hmissing => hpresent ⟨Bool.false_ne_true, ?_⟩
        refine List.all_eq_true.2 fun m hm => decide_eq_true fun hkey => hmissing ?_
        exact hkey ▸ List.mem_map_of_mem hm
  · exact absurd h (refuse_ne_ok _ _ _)

end AssetCheck.Json
