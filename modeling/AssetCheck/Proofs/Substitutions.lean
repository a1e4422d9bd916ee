import Mathlib.Data.List.Induction
import Mathlib.Data.List.Nodup
import AssetCheck.Proofs.Table
import AssetCheck.Proofs.Traversal
import AssetCheck.Substitution

/-!
# Substitutions without ambiguity

Pairs of tokens and values are taken up one after the other, until one repeats a token or a value of
those before it. Which pair that is, and which of its texts it repeats, is said here without
reference to how they are taken up (`FirstRepeated`). Pairs without repetition are all taken up, in
their order; and as no token comes twice, their order does not matter to what a token stands for
(`ofPairs_settled`).
-/

namespace AssetCheck.Substitutions

/-- No token comes twice, and no value does. -/
def Unambiguous (pairs : List (String × String)) : Prop :=
  (pairs.map Prod.fst).Nodup ∧ (pairs.map Prod.snd).Nodup

/-- The first pair that repeats something repeats this text: its token, or its value where the token
is new. -/
inductive FirstRepeated : List (String × String) → String → Prop
  | token {earlier later : List (String × String)} {token value : String} :
      Unambiguous earlier → token ∈ earlier.map Prod.fst →
      FirstRepeated (earlier ++ (token, value) :: later) token
  | value {earlier later : List (String × String)} {token value : String} :
      Unambiguous earlier → token ∉ earlier.map Prod.fst → value ∈ earlier.map Prod.snd →
      FirstRepeated (earlier ++ (token, value) :: later) value

/-! ## Pairs -/

variable {pairs : List (String × String)} {token value text : String}

theorem unambiguous_entries (m : Substitutions) : Unambiguous m.entries :=
  ⟨m.distinctTokens, m.distinctValues⟩

theorem eq_of_entries {m m' : Substitutions} (h : m.entries = m'.entries) : m = m' := by
  cases m
  cases m'
  cases h
  rfl

theorem unambiguous_concat :
    Unambiguous (pairs ++ [(token, value)]) ↔
      Unambiguous pairs ∧ token ∉ pairs.map Prod.fst ∧ value ∉ pairs.map Prod.snd := by
  have hlast : ∀ (texts : List String) (text : String),
      (texts ++ [text]).Nodup ↔ texts.Nodup ∧ text ∉ texts := by
    intro texts text
    rw [← List.concat_eq_append, List.nodup_concat, and_comm]
  unfold Unambiguous
  rw [List.map_append, List.map_append, List.map_singleton, List.map_singleton, hlast, hlast,
    and_and_and_comm]

theorem Unambiguous.perm (h : Unambiguous pairs) {other : List (String × String)}
    (hperm : other.Perm pairs) : Unambiguous other :=
  ⟨(hperm.map Prod.fst).nodup_iff.2 h.1, (hperm.map Prod.snd).nodup_iff.2 h.2⟩

theorem FirstRepeated.append (h : FirstRepeated pairs text) (more : List (String × String)) :
    FirstRepeated (pairs ++ more) text := by
  cases h with
  | token hearlier htoken =>
    rw [List.append_assoc]
    exact .token hearlier htoken
  | value hearlier htoken hvalue =>
    rw [List.append_assoc]
    exact .value hearlier htoken hvalue

theorem unambiguous_or_repeated (pairs : List (String × String)) :
    Unambiguous pairs ∨ ∃ text, FirstRepeated pairs text := by
  induction pairs using List.reverseRecOn with
  | nil => exact .inl ⟨List.nodup_nil, List.nodup_nil⟩
  | append_singleton earlier pair ih =>
    rcases ih with hearlier | ⟨text, htext⟩
    · by_cases htoken : pair.1 ∈ earlier.map Prod.fst
      · exact .inr ⟨_, .token hearlier htoken⟩
      · by_cases hvalue : pair.2 ∈ earlier.map Prod.snd
        · exact .inr ⟨_, .value hearlier htoken hvalue⟩
        · exact .inl (unambiguous_concat.2 ⟨hearlier, htoken, hvalue⟩)
    · exact .inr ⟨text, htext.append [pair]⟩

/-! ## Taking them up -/

theorem add_ok {m : Substitutions} (ht : token ∉ m.entries.map Prod.fst)
    (hv : value ∉ m.entries.map Prod.snd) :
    ∃ m', m.add (token, value) = .ok m' ∧ m'.entries = m.entries ++ [(token, value)] := by
  unfold add
  rw [dif_neg ht, dif_neg hv]
  exact ⟨_, rfl, rfl⟩

theorem add_token_error {m : Substitutions} (ht : token ∈ m.entries.map Prod.fst) :
    m.add (token, value) = .error ⟨token⟩ := by
  unfold add
  rw [dif_pos ht]

theorem add_value_error {m : Substitutions} (ht : token ∉ m.entries.map Prod.fst)
    (hv : value ∈ m.entries.map Prod.snd) : m.add (token, value) = .error ⟨value⟩ := by
  unfold add
  rw [dif_neg ht, dif_pos hv]

theorem ofPairs_append (earlier later : List (String × String)) :
    ofPairs (earlier ++ later) = ofPairs earlier >>= fun m => later.foldlM add m :=
  List.foldlM_append

theorem exists_ofPairs (h : Unambiguous pairs) : ∃ m, ofPairs pairs = .ok m ∧ m.entries = pairs := by
  induction pairs using List.reverseRecOn with
  | nil => exact ⟨empty, rfl, rfl⟩
  | append_singleton earlier pair ih =>
    obtain ⟨hearlier, htoken, hvalue⟩ := unambiguous_concat.1 h
    obtain ⟨m, hm, rfl⟩ := ih hearlier
    obtain ⟨m', hadd, hentries⟩ := add_ok htoken hvalue
    refine ⟨m', ?_, hentries⟩
    rw [ofPairs_append, except_bind_ok hm, List.foldlM_cons, except_bind_ok hadd]
    rfl

theorem ofPairs_entries (m : Substitutions) : ofPairs m.entries = .ok m := by
  obtain ⟨m', hm', hentries⟩ := exists_ofPairs m.unambiguous_entries
  rw [hm', eq_of_entries hentries]

/-- The first pair that repeats something ends the taking up, whatever comes after it. -/
theorem ofPairs_error (h : FirstRepeated pairs text) : ofPairs pairs = .error ⟨text⟩ := by
  cases h with
  | token hearlier htoken =>
    obtain ⟨m, hm, rfl⟩ := exists_ofPairs hearlier
    rw [ofPairs_append, except_bind_ok hm, List.foldlM_cons,
      except_bind_error (add_token_error htoken)]
  | value hearlier htoken hvalue =>
    obtain ⟨m, hm, rfl⟩ := exists_ofPairs hearlier
    rw [ofPairs_append, except_bind_ok hm, List.foldlM_cons,
      except_bind_error (add_value_error htoken hvalue)]

/-- What pairs are taken up as, and what is repeated where they are not. -/
theorem ofPairs_cases (pairs : List (String × String)) :
    (∀ m, ofPairs pairs = .ok m ↔ m.entries = pairs) ∧
      ∀ e, ofPairs pairs = .error e ↔ FirstRepeated pairs e.text := by
  refine settled ?_ (fun e => ofPairs_error) ?_
  · rintro m rfl
    exact m.ofPairs_entries
  · rcases unambiguous_or_repeated pairs with h | ⟨text, h⟩
    · obtain ⟨m, -, hentries⟩ := exists_ofPairs h
      exact .inl ⟨m, hentries⟩
    · exact .inr ⟨⟨text⟩, h⟩

theorem exists_ofPairs_iff : (∃ m, ofPairs pairs = .ok m) ↔ Unambiguous pairs := by
  constructor
  · rintro ⟨m, hm⟩
    rw [← (ofPairs_cases pairs).1 m |>.1 hm]
    exact m.unambiguous_entries
  · intro h
    obtain ⟨m, hm, -⟩ := exists_ofPairs h
    exact ⟨m, hm⟩

/-! ## Looking them up -/

section LookUp

variable (m : Substitutions)

theorem get?_eq_some_iff : m.get? token = some value ↔ (token, value) ∈ m.entries :=
  ⟨Table.mem_of_get?, fun h => Table.get?_of_mem m.distinctTokens h⟩

variable {m} in
theorem lookup?_eq_some_iff {literal : ParamValue} {entry : String × String} :
    m.lookup? literal = some entry ↔
      literal = .text entry.1 ∧ entry.1.toList.head? = some sigil ∧ entry ∈ m.entries := by
  cases literal with
  | bool _ | int _ | float _ => exact ⟨nofun, nofun⟩
  | text s =>
    show (if s.toList.head? = some sigil then m.entries.find? fun entry => entry.1 = s else none) =
      _ ↔ _
    rw [Option.ite_none_right_eq_some, ParamValue.text.injEq]
    constructor
    · rintro ⟨hsigil, hfound⟩
      have htoken : entry.1 = s := of_decide_eq_true (List.find?_some hfound :)
      subst htoken
      exact ⟨rfl, hsigil, List.mem_of_find?_eq_some hfound⟩
    · rintro ⟨rfl, hsigil, hmem⟩
      exact ⟨hsigil, Table.find?_of_mem m.distinctTokens hmem⟩

theorem get?_perm {m' : Substitutions} (h : m'.entries.Perm m.entries) (token : String) :
    m'.get? token = m.get? token := by
  ext value
  rw [get?_eq_some_iff, get?_eq_some_iff, h.mem_iff]

theorem lookup?_perm {m' : Substitutions} (h : m'.entries.Perm m.entries) (literal : ParamValue) :
    m'.lookup? literal = m.lookup? literal := by
  ext entry
  rw [lookup?_eq_some_iff, lookup?_eq_some_iff, h.mem_iff]

end LookUp

/-- **No ambiguity.** Pairs are taken up, all of them and in their order, exactly if no token and no
value comes twice; otherwise the error names what the first pair that repeats something repeats. A
token is found, alone or as a parameter value that starts with the sigil, exactly with the values
that it is paired with. Other orders of the pairs are taken up too, and everything is found in them
as before. -/
theorem ofPairs_settled (pairs : List (String × String)) :
    ((∃ m, ofPairs pairs = .ok m) ↔ Unambiguous pairs) ∧
    (∀ m, ofPairs pairs = .ok m → m.entries = pairs) ∧
    (∀ e, ofPairs pairs = .error e ↔ FirstRepeated pairs e.text) ∧
    (∀ m token value, ofPairs pairs = .ok m →
      (m.get? token = some value ↔ (token, value) ∈ pairs)) ∧
    (∀ m literal token value, ofPairs pairs = .ok m →
      (m.lookup? literal = some (token, value) ↔
        literal = .text token ∧ token.toList.head? = some sigil ∧ (token, value) ∈ pairs)) ∧
    ∀ m other, ofPairs pairs = .ok m → other.Perm pairs →
      ∃ m', ofPairs other = .ok m' ∧ (∀ token, m'.get? token = m.get? token) ∧
        ∀ literal, m'.lookup? literal = m.lookup? literal := by
  obtain ⟨hok, herror⟩ := ofPairs_cases pairs
  refine ⟨exists_ofPairs_iff, fun m => (hok m).1, herror, ?_, ?_, ?_⟩
  · intro m token value hm
    rw [← (hok m).1 hm]
    exact m.get?_eq_some_iff
  · intro m literal token value hm
    rw [← (hok m).1 hm]
    exact lookup?_eq_some_iff
  · intro m other hm hperm
    have hentries := (hok m).1 hm
    rw [← hentries] at hperm
    obtain ⟨m', hm', rfl⟩ := exists_ofPairs (m.unambiguous_entries.perm hperm)
    exact ⟨m', hm', get?_perm m hperm, lookup?_perm m hperm⟩

/-- Where a pair repeats both of its texts, the token is named. -/
example : ofPairs [("$A", "a"), ("$B", "b"), ("$A", "b")] = .error ⟨"$A"⟩ := rfl

end AssetCheck.Substitutions
