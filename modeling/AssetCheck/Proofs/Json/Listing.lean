import AssetCheck.Proofs.Json.Along
import AssetCheck.Proofs.Json.Values
import AssetCheck.Proofs.Traversal

/-!
# What a text lists

The value of a text has one member for each key of an object. What the text lists has them all
(`listing`), so that one sees whether a key is repeated (`KeysDistinct`). A text without repeated
keys lists its value (`listing_of_parse`). What is printed for a plain value lists that value, and
so repeats no key (`Value.Plain.lists`).
-/

namespace AssetCheck.Json

/-! ## Listing -/

/-- A value, in which `inner` lists the values of lists and objects, if these may open. -/
def scanListedWith (inner : Option (Scan Value)) : Scan Value := fun cs =>
  match skipSpace cs, inner with
  | '[' :: rest, some inner => do
    let (vs, rest) ← scanList inner rest
    .ok (.array vs, rest)
  | '{' :: rest, some inner => do
    let (ms, rest) ← scanObject (listMember inner) [] rest
    .ok (.object ms.reverse, rest)
  | _, _ => scanValueWith none cs

/-- A value in which objects have all members that the text gives, in the order of the text. -/
def scanListed : Nat → Scan Value
  | 0 => scanListedWith none
  | depth + 1 => scanListedWith (some (scanListed depth))

def listing (text : String) : Except Error Value := readAll (scanListed depthLimit) text

example : listing "\x7b\"a\":[],\"\\u0061\":0\x7d" =
    .ok (.object [("a", .array []), ("a", .int 0)]) := by cbv

/-- No object gives a key twice. -/
inductive Value.KeysDistinct : Value → Prop
  | null : KeysDistinct .null
  | bool (b : Bool) : KeysDistinct (.bool b)
  | number (n : Number) : KeysDistinct (.number n)
  | string (s : String) : KeysDistinct (.string s)
  | array {vs : List Value} : (∀ v ∈ vs, KeysDistinct v) → KeysDistinct (.array vs)
  | object {ms : List (String × Value)} : (ms.map Prod.fst).Nodup →
      (∀ m ∈ ms, KeysDistinct m.2) → KeysDistinct (.object ms)

/-- No object of the text gives a key twice. -/
def KeysDistinct (text : String) : Prop := ∀ w, listing text = .ok w → w.KeysDistinct

/-- What a value may list at a depth. -/
def innerListed : Nat → Option (Scan Value)
  | 0 => none
  | depth + 1 => some (scanListed depth)

theorem scanListed_eq (depth : Nat) : scanListed depth = scanListedWith (innerListed depth) := by
  cases depth <;> rfl

theorem scanValueWith_skipSpace (inner : Option (Scan Value)) (cs : List Char) :
    scanValueWith inner (skipSpace cs) = scanValueWith inner cs := by
  unfold scanValueWith
  rw [skipSpace_skipSpace]

/-- How a listed value begins. -/
inductive Begins (inner : Option (Scan Value)) (cs : List Char) : Value → List Char → Prop
  | null {more : List Char} (rest : List Char) : skipSpace cs = 'n' :: more →
      Begins inner cs .null rest
  | number {c : Char} {more : List Char} (n : Number) (rest : List Char) :
      skipSpace cs = c :: more → c = '-' ∨ c.isDigit = true → Begins inner cs (.number n) rest
  | bool {more rest : List Char} {b : Bool} :
      skipSpace cs = 't' :: more ∨ skipSpace cs = 'f' :: more →
      scanValue 0 (skipSpace cs) = .ok (.bool b, rest) → Begins inner cs (.bool b) rest
  | string {more rest : List Char} {s : String} : skipSpace cs = '"' :: more →
      scanString more = .ok (s, rest) → Begins inner cs (.string s) rest
  | array {more rest : List Char} {scan : Scan Value} {vs : List Value} : inner = some scan →
      skipSpace cs = '[' :: more → scanList scan more = .ok (vs, rest) →
      Begins inner cs (.array vs) rest
  | object {more rest : List Char} {scan : Scan Value} {ms : List (String × Value)} :
      inner = some scan → skipSpace cs = '{' :: more →
      scanObject (listMember scan) [] more = .ok (ms, rest) →
      Begins inner cs (.object ms.reverse) rest

section Begins

variable {inner : Option (Scan Value)} {cs rest : List Char} {v : Value}

theorem begins_of_scalar (h : scanValueWith none cs = .ok (v, rest)) : Begins inner cs v rest := by
  have hscan := h
  rw [← scanValueWith_skipSpace] at hscan
  unfold scanValueWith at h
  split at h
  · cases h
  · next hcs =>
    obtain ⟨_, -, hv⟩ := exists_ok_of_bind h
    cases hv
    exact .null _ hcs
  · next hcs =>
    obtain ⟨_, -, hv⟩ := exists_ok_of_bind h
    cases hv
    exact .bool (.inl hcs) hscan
  · next hcs =>
    obtain ⟨_, -, hv⟩ := exists_ok_of_bind h
    cases hv
    exact .bool (.inr hcs) hscan
  · next hcs =>
    obtain ⟨⟨s, _⟩, hs, hv⟩ := exists_ok_of_bind h
    cases hv
    exact .string hcs hs
  · next hcs =>
    obtain ⟨⟨n, _⟩, -, hv⟩ := exists_ok_of_bind h
    cases hv
    exact .number n _ hcs (.inl rfl)
  · cases h
  · cases h
  · next hcs =>
    split at h
    · next hdigit =>
      obtain ⟨⟨n, _⟩, -, hv⟩ := exists_ok_of_bind h
      cases hv
      exact .number n _ hcs (.inr hdigit)
    · cases h

theorem begins_of_scanListedWith (h : scanListedWith inner cs = .ok (v, rest)) :
    Begins inner cs v rest := by
  unfold scanListedWith at h
  split at h
  · next hcs =>
    obtain ⟨⟨vs, _⟩, hvs, hv⟩ := exists_ok_of_bind h
    cases hv
    exact .array rfl hcs hvs
  · next hcs =>
    obtain ⟨⟨ms, _⟩, hms, hv⟩ := exists_ok_of_bind h
    cases hv
    exact .object rfl hcs hms
  · exact begins_of_scalar h

end Begins

/-! ## Without repeated keys -/

theorem scanValueWith_scalar (inner : Option (Scan Value)) {cs : List Char}
    (harray : ∀ more, skipSpace cs ≠ '[' :: more) (hobject : ∀ more, skipSpace cs ≠ '{' :: more) :
    scanValueWith inner cs = scanValueWith none cs := by
  unfold scanValueWith
  split
  iterate 6 rfl
  · next hcs => exact absurd hcs (harray _)
  · next hcs => exact absurd hcs (hobject _)
  · rfl

theorem scanListedWith_scalar (inner : Option (Scan Value)) {cs : List Char}
    (harray : ∀ more, skipSpace cs ≠ '[' :: more) (hobject : ∀ more, skipSpace cs ≠ '{' :: more) :
    scanListedWith inner cs = scanValueWith none cs := by
  unfold scanListedWith
  split
  · next hcs => exact absurd hcs (harray _)
  · next hcs => exact absurd hcs (hobject _)
  · rfl

section Open

variable {inner : Option (Scan Value)} {cs more rest : List Char} {v : Value}

theorem exists_of_scanValueWith_array (hcs : skipSpace cs = '[' :: more)
    (h : scanValueWith inner cs = .ok (v, rest)) :
    ∃ scan vs, inner = some scan ∧ scanList scan more = .ok (vs, rest) ∧ v = .array vs := by
  unfold scanValueWith at h
  rw [hcs] at h
  cases inner with
  | none => cases h
  | some scan =>
    obtain ⟨⟨vs, _⟩, hvs, hv⟩ := exists_ok_of_bind h
    cases hv
    exact ⟨scan, vs, rfl, hvs, rfl⟩

theorem exists_of_scanValueWith_object (hcs : skipSpace cs = '{' :: more)
    (h : scanValueWith inner cs = .ok (v, rest)) :
    ∃ scan ms, inner = some scan ∧ scanObject (listMember scan) [] more = .ok (ms, rest) ∧
      v = .ofMembers ms.reverse := by
  unfold scanValueWith at h
  rw [hcs] at h
  cases inner with
  | none => cases h
  | some scan =>
    obtain ⟨⟨ms, _⟩, hms, hv⟩ := exists_ok_of_bind h
    cases hv
    exact ⟨scan, ms, rfl, hms, rfl⟩

end Open

/-- The value is what is listed in its place, unless a key is repeated. -/
def ListedAs (v w : Value) : Prop := w.KeysDistinct → w = v

theorem eq_of_listedAs {vs ws : List Value} (h : List.Forall₂ ListedAs vs ws)
    (hdistinct : ∀ w ∈ ws, w.KeysDistinct) : vs = ws :=
  eq_of_forall₂ h fun _ w hw hvw => (hvw (hdistinct w hw)).symm

/-- The members have the same key, and the value of the one is listed as that of the other. -/
def ListedMember (m n : String × Value) : Prop := m.1 = n.1 ∧ ListedAs m.2 n.2

theorem eq_of_listedMember {ms ns : List (String × Value)} (h : List.Forall₂ ListedMember ms ns)
    (hdistinct : ∀ n ∈ ns, n.2.KeysDistinct) : ms = ns :=
  eq_of_forall₂ h fun _ n hn hmn => Prod.ext hmn.1 (hmn.2 (hdistinct n hn)).symm

section Along

variable {scan scan' : Scan Value}
  (h : ∀ cs v rest, scan cs = .ok (v, rest) → ∃ w, scan' cs = .ok (w, rest) ∧ ListedAs v w)

include h

theorem listMember_along {key : String} {known known' next : List (String × Value)}
    {cs rest : List Char} (hmember : listMember scan key known cs = .ok (next, rest))
    (hknown : List.Forall₂ ListedMember known known') :
    ∃ next', listMember scan' key known' cs = .ok (next', rest) ∧
      List.Forall₂ ListedMember next next' := by
  obtain ⟨more, hmore, hvalue⟩ := exists_ok_of_bind hmember
  obtain ⟨⟨v, _⟩, hv, hnext⟩ := exists_ok_of_bind hvalue
  cases hnext
  obtain ⟨w, hw, hvw⟩ := h _ _ _ hv
  exact ⟨(key, w) :: known', (except_bind_ok hmore).trans (except_bind_ok hw),
    .cons ⟨rfl, hvw⟩ hknown⟩

theorem scanListedWith_of_scanValueWith {cs rest : List Char} {v : Value}
    (hscan : scanValueWith (some scan) cs = .ok (v, rest)) :
    ∃ w, scanListedWith (some scan') cs = .ok (w, rest) ∧ ListedAs v w := by
  by_cases harray : ∃ more, skipSpace cs = '[' :: more
  · obtain ⟨more, hcs⟩ := harray
    obtain ⟨_, vs, heq, hvs, rfl⟩ := exists_of_scanValueWith_array hcs hscan
    cases heq
    obtain ⟨ws, hws, hrel⟩ := scanList_along (P := fun _ => True)
      (fun cs v rest hv _ => h cs v rest hv) hvs fun _ _ => trivial
    refine ⟨.array ws, ?_, fun hdistinct => ?_⟩
    · unfold scanListedWith
      rw [hcs]
      exact except_bind_ok hws
    · cases hdistinct with
      | array hall => rw [eq_of_listedAs hrel hall]
  by_cases hobject : ∃ more, skipSpace cs = '{' :: more
  · obtain ⟨more, hcs⟩ := hobject
    obtain ⟨_, ms, heq, hms, rfl⟩ := exists_of_scanValueWith_object hcs hscan
    cases heq
    have hmember : ∀ key known cs next rest, listMember scan key known cs = .ok (next, rest) →
        True → True ∧ ∀ known', List.Forall₂ ListedMember known known' →
          ∃ next', listMember scan' key known' cs = .ok (next', rest) ∧
            List.Forall₂ ListedMember next next' :=
      fun _ _ _ _ _ hread _ => ⟨trivial, fun _ hknown => listMember_along h hread hknown⟩
    obtain ⟨ns, hns, hrel⟩ := scanObject_along hmember hms trivial .nil
    refine ⟨.object ns.reverse, ?_, fun hdistinct => ?_⟩
    · unfold scanListedWith
      rw [hcs]
      exact except_bind_ok hns
    · cases hdistinct with
      | object hkeys hall =>
        rw [eq_of_listedMember (List.rel_reverse hrel) hall, Value.ofMembers,
          Table.ofList_eq_self hkeys]
  · rw [not_exists] at harray hobject
    rw [scanValueWith_scalar _ harray hobject] at hscan
    exact ⟨v, (scanListedWith_scalar _ harray hobject).trans hscan, fun _ => rfl⟩

end Along

theorem scanListed_of_scanValue {depth : Nat} : ∀ cs v rest, scanValue depth cs = .ok (v, rest) →
    ∃ w, scanListed depth cs = .ok (w, rest) ∧ ListedAs v w := by
  induction depth with
  | zero =>
    intro cs v rest hscan
    refine ⟨v, ?_, fun _ => rfl⟩
    unfold scanListed scanListedWith
    split
    · next hinner => cases hinner
    · next hinner => cases hinner
    · exact hscan
  | succ depth ih => exact fun cs v rest => scanListedWith_of_scanValueWith ih

/-- **Listing.** A text has a value only if it lists something, and that is the value unless a key
is repeated. -/
theorem listing_of_parse {text : String} {v : Value} (h : parse text = .ok v) :
    ∃ w, listing text = .ok w ∧ ListedAs v w :=
  exists_readAll_of_scan (fun cs rest => scanListed_of_scanValue cs v rest) h

/-! ## What is printed -/

theorem scanListed_of_scalar {depth : Nat} {cs rest : List Char} {v : Value}
    (harray : ∀ vs, v ≠ .array vs) (hobject : ∀ ms, v ≠ .object ms)
    (h : scanValue depth cs = .ok (v, rest)) : scanListed depth cs = .ok (v, rest) := by
  rw [scanValue_eq] at h
  have hlist : ∀ more, skipSpace cs ≠ '[' :: more := by
    intro more hcs
    obtain ⟨_, vs, -, -, hv⟩ := exists_of_scanValueWith_array hcs h
    exact harray vs hv
  have hmembers : ∀ more, skipSpace cs ≠ '{' :: more := by
    intro more hcs
    obtain ⟨_, _, -, -, hv⟩ := exists_of_scanValueWith_object hcs h
    exact hobject _ hv
  rw [scanValueWith_scalar _ hlist hmembers] at h
  rw [scanListed_eq, scanListedWith_scalar _ hlist hmembers]
  exact h

theorem Reads.lists {depth : Nat} {text : List Char} {v : Value}
    (h : Reads (scanValue depth) text v) (harray : ∀ vs, v ≠ .array vs)
    (hobject : ∀ ms, v ≠ .object ms) : Reads (scanListed depth) text v where
  starts := h.starts
  reads := fun cs rest hcs hrest => scanListed_of_scalar harray hobject (h.reads cs rest hcs hrest)

/-- The text of a plain value lists that value, in any layout. -/
theorem Value.Plain.lists (l : Layout) {depth : Nat} {v : Value} (h : v.Plain depth)
    (inside : Nat) : Reads (scanListed depth) (v.spelled l inside) v := by
  induction h generalizing inside with
  | null depth => exact ((Plain.null depth).reads l inside).lists nofun nofun
  | bool depth b => exact ((Plain.bool depth b).reads l inside).lists nofun nofun
  | whole depth hlow hhigh =>
    exact ((Plain.whole depth hlow hhigh).reads l inside).lists nofun nofun
  | string depth s => exact ((Plain.string depth s).reads l inside).lists nofun nofun
  | array _ ih =>
    refine ⟨fun rest => ⟨'[', _, skipSpace_cons rfl _, by decide⟩, fun cs rest hcs _ => ?_⟩
    rw [spelled, List.cons_append, skipSpace_cons rfl] at hcs
    unfold scanListed scanListedWith
    rw [hcs]
    exact except_bind_ok (scanList_spelled l inside (fun v hv => ih v hv (inside + 1)) rest)
  | @object depth ms hkeys _ ih =>
    refine ⟨fun rest => ⟨'{', _, skipSpace_cons rfl _, by decide⟩, fun cs rest hcs _ => ?_⟩
    rw [spelled, List.cons_append, skipSpace_cons rfl] at hcs
    unfold scanListed scanListedWith
    rw [hcs]
    refine (except_bind_ok
      (scanObject_spelled l inside hkeys (fun m hm => ih m hm (inside + 1)) rest)).trans ?_
    show Except.ok (Value.object (List.reverse ms).reverse, rest) = _
    rw [List.reverse_reverse]

theorem Value.Plain.keysDistinct {depth : Nat} {v : Value} (h : v.Plain depth) :
    v.KeysDistinct := by
  induction h with
  | null _ => exact .null
  | bool _ b => exact .bool b
  | whole _ _ _ => exact .number _
  | string _ s => exact .string s
  | array _ ih => exact .array ih
  | object hkeys _ ih => exact .object hkeys ih

/-- A text that lists a plain value repeats no key. -/
theorem KeysDistinct.of_plain {text : String} {depth : Nat} {v : Value} (h : v.Plain depth)
    (hlisting : listing text = .ok v) : KeysDistinct text := by
  intro w hw
  rw [hlisting] at hw
  cases hw
  exact h.keysDistinct

theorem keysDistinct_compact {v : Value} (h : v.Plain depthLimit) : KeysDistinct v.compact :=
  .of_plain h <| (h.lists .oneLine 0).readAll (List.forall_mem_nil _)
    ((Value.toList_compact 0 v).trans (List.append_nil _).symm)

end AssetCheck.Json
