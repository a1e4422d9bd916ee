import Mathlib.Data.List.Nodup
import AssetCheck.Json.Reader
import AssetCheck.Proofs.Json.Listing

/-!
# Values that readers admit

A reader admits a value if it reads it wherever a text lists it, with any blanks and any escapes and
with the members of objects in any order (`Reader.Admits`). There is one lemma for each reader.
-/

namespace AssetCheck.Json

/-- The reader reads the value wherever a text lists it. -/
def Reader.Admits (reader : Reader) (v : Value) : Prop :=
  ∀ depth cs rest, scanListed depth cs = .ok (v, rest) → reader depth cs = .ok (v, rest)

theorem Reader.Admits.read {reader : Reader} {v : Value} (h : reader.Admits v) {text : String}
    (hlisting : listing text = .ok v) : reader.read text = .ok v := by
  obtain ⟨_, hread, rfl⟩ :=
    exists_readAll_of_scan (fun cs rest hv => ⟨v, h depthLimit cs rest hv, rfl⟩) hlisting
  exact hread

theorem begins_of_scanListed {depth : Nat} {cs rest : List Char} {v : Value}
    (h : scanListed depth cs = .ok (v, rest)) : Begins (innerListed depth) cs v rest :=
  begins_of_scanListedWith (scanListed_eq depth ▸ h)

theorem text_admits (s : String) : Reader.Admits text (.string s) := by
  intro depth cs rest h
  cases begins_of_scanListed h with
  | string hcs hs =>
    unfold text
    rw [hcs]
    exact except_bind_ok hs

theorem flag_admits (b : Bool) : Reader.Admits flag (.bool b) := by
  intro depth cs rest h
  cases begins_of_scanListed h with
  | bool hcs hb =>
    unfold flag
    rcases hcs with hcs | hcs
    · rw [hcs] at hb ⊢
      exact hb
    · rw [hcs] at hb ⊢
      exact hb

theorem oneOf_admits {words : List String} {s : String} (h : s ∈ words) :
    (oneOf words).Admits (.string s) := by
  intro depth cs rest hlisted
  cases begins_of_scanListed hlisted with
  | string hcs hs =>
    unfold oneOf
    rw [hcs]
    refine except_bind_ok (a := (s, rest)) ((except_bind_ok hs).trans ?_)
    exact if_pos h

theorem listOf_admits {reader : Reader} {vs : List Value} (h : ∀ v ∈ vs, reader.Admits v) :
    (listOf reader).Admits (.array vs) := by
  intro depth cs rest hlisted
  cases begins_of_scanListed hlisted with
  | array hinner hcs hvs =>
    cases depth with
    | zero => cases hinner
    | succ depth =>
      cases hinner
      obtain ⟨ws, hws, hrel⟩ := scanList_along (R := Eq)
        (fun cs v rest hv hadmits => ⟨v, hadmits depth cs rest hv, rfl⟩) hvs h
      rw [List.forall₂_eq_eq_eq] at hrel
      subst hrel
      unfold listOf
      rw [hcs]
      exact except_bind_ok hws

/-! ## Records -/

/-- The members are of fields that admit their values, and no key comes twice. -/
def OfAdmitted (fields : List Field) (ms : List (String × Value)) : Prop :=
  (ms.map Prod.fst).Nodup ∧ ∀ m ∈ ms, ∃ field,
    fields.find? (·.name = m.1) = some field ∧ field.reader.Admits m.2

theorem scanField_along {strict : Bool} {fields : List Field} {depth : Nat} {key : String}
    {known next : List (String × Value)} {cs rest : List Char}
    (hmember : listMember (scanListed depth) key known cs = .ok (next, rest))
    (hnext : OfAdmitted fields next) :
    OfAdmitted fields known ∧
      scanField strict fields depth key known cs = .ok (next, rest) := by
  obtain ⟨more, hmore, hvalue⟩ := exists_ok_of_bind hmember
  obtain ⟨⟨v, _⟩, hv, hknown⟩ := exists_ok_of_bind hvalue
  cases hknown
  obtain ⟨hkeys, hmembers⟩ := hnext
  obtain ⟨hnew, hkeys⟩ := List.nodup_cons.1 hkeys
  obtain ⟨⟨field, hfield, hadmits⟩, hmembers⟩ := List.forall_mem_cons.1 hmembers
  exact ⟨⟨hkeys, hmembers⟩, scanField_of_find hfield hnew hmore (hadmits depth more rest hv)⟩

/-- A record admits an object whose members are of fields that admit their values, in any order, if
no key comes twice and no field that has to be given is missing. -/
theorem record_admits (name : String) (strict : Bool) {fields : List Field}
    {ms : List (String × Value)} (hkeys : (ms.map Prod.fst).Nodup)
    (hfields : ∀ m ∈ ms, ∃ field, fields.find? (·.name = m.1) = some field ∧
      field.reader.Admits m.2)
    (hgiven : ∀ field ∈ fields, field.optional = false → field.name ∈ ms.map Prod.fst) :
    (record name strict fields).Admits (.object ms) := by
  intro depth cs rest hlisted
  cases begins_of_scanListed hlisted with
  | @object _ _ _ known hinner hcs hms =>
    cases depth with
    | zero => cases hinner
    | succ depth =>
      cases hinner
      have hadmitted : OfAdmitted fields known := by
        refine ⟨?_, fun m hm => hfields m (List.mem_reverse.2 hm)⟩
        rw [List.map_reverse] at hkeys
        exact List.nodup_reverse.1 hkeys
      have hread : ∀ field ∈ fields, field.optional = false → field.name ∈ known.map Prod.fst := by
        rw [List.map_reverse] at hgiven
        exact fun field hmem hrequired => List.mem_reverse.1 (hgiven field hmem hrequired)
      have hmember : ∀ key known cs next rest,
          listMember (scanListed depth) key known cs = .ok (next, rest) → OfAdmitted fields next →
          OfAdmitted fields known ∧ ∀ known', known = known' →
            ∃ next', scanField strict fields depth key known' cs = .ok (next', rest) ∧
              next = next' := by
        intro key known cs next rest hmember hnext
        obtain ⟨hadmitted, hfield⟩ := scanField_along hmember hnext
        exact ⟨hadmitted, fun known' heq => ⟨next, heq ▸ hfield, rfl⟩⟩
      obtain ⟨_, hobject, rfl⟩ := scanObject_along hmember hms hadmitted rfl
      unfold record
      rw [hcs]
      refine (except_bind_ok hobject).trans ?_
      dsimp only
      rw [find?_missing_eq_none hread]

end AssetCheck.Json
