import Mathlib.Data.List.Forall2
import AssetCheck.Json.Parser
import AssetCheck.Proofs.Json.Records

/-!
# Scans side by side

Two scans of lists, or of objects, go through a text side by side if those of the elements, or of
the members, do (`scanElements_along`, `scanMembers_along`). The one that is known to come to an end
may be asked for more than the other, by a condition on what it reads. Where an element or a key
stands is the same for both (`ElementAt`, `KeyAt`).
-/

namespace AssetCheck.Json

/-! ## Elements and members -/

/-- Where an element of a list stands, behind a comma unless it is the first one. -/
inductive ElementAt : Bool → List Char → List Char → Prop
  | first {cs more : List Char} {c : Char} : skipSpace cs = c :: more → c ≠ ']' →
      ElementAt true cs (c :: more)
  | next {cs gap more : List Char} {c : Char} : skipSpace cs = ',' :: gap →
      skipSpace gap = c :: more → c ≠ ']' → ElementAt false cs (c :: more)

/-- Where the key of a member stands, after its opening quote. -/
inductive KeyAt : Bool → List Char → List Char → Prop
  | first {cs more : List Char} : skipSpace cs = '"' :: more → KeyAt true cs more
  | next {cs gap more : List Char} : skipSpace cs = ',' :: gap → skipSpace gap = '"' :: more →
      KeyAt false cs more

section Elements

variable {α β : Type} {element : Scan α} {element' : Scan β} {fuel : Nat} {read xs : List α}
  {cs more rest : List Char}

theorem scanElements_at (h : ElementAt read.isEmpty cs more) :
    scanElements element (fuel + 1) read cs =
      (do let (x, cs) ← element more; scanElements element fuel (x :: read) cs) := by
  cases read with
  | nil =>
    change ElementAt true cs more at h
    cases h with
    | first hcs hc => exact scanElements_first hcs hc
  | cons x read =>
    change ElementAt false cs more at h
    cases h with
    | next hcs hgap hc => exact scanElements_next hcs hgap hc (List.cons_ne_nil x read)

theorem scanElements_cases (h : scanElements element (fuel + 1) read cs = .ok (xs, rest)) :
    (skipSpace cs = ']' :: rest ∧ xs = read.reverse) ∨
    ∃ more x others, ElementAt read.isEmpty cs more ∧ element more = .ok (x, others) ∧
      scanElements element fuel (x :: read) others = .ok (xs, rest) := by
  have hat : ∀ more, ElementAt read.isEmpty cs more →
      ∃ more x others, ElementAt read.isEmpty cs more ∧ element more = .ok (x, others) ∧
        scanElements element fuel (x :: read) others = .ok (xs, rest) := by
    intro more hat
    rw [scanElements_at hat] at h
    obtain ⟨⟨x, others⟩, hx, hothers⟩ := exists_ok_of_bind h
    exact ⟨more, x, others, hat, hx, hothers⟩
  unfold scanElements at h
  dsimp only at h
  split at h
  · cases h
  · next hcs =>
    cases h
    exact .inl ⟨hcs, rfl⟩
  · next c more hclose hcs =>
    refine .inr ?_
    split at h
    · next hfirst => exact hat _ (by rw [hfirst]; exact .first hcs hclose)
    · next hfirst =>
      rw [Bool.not_eq_true] at hfirst
      split at h
      · next hcomma =>
        subst hcomma
        split at h
        · cases h
        · cases h
        · next hempty hclose =>
          obtain ⟨c, gap, hgap⟩ := List.exists_cons_of_ne_nil hempty
          have hc : c ≠ ']' := fun hc => hclose gap (by rw [hgap, hc])
          exact hat _ (by rw [hfirst]; exact .next hcs hgap hc)
      · cases h

/-- The other scan reads the same elements, if these are good, or others in their place. -/
theorem scanElements_along {P : α → Prop} {R : α → β → Prop}
    (h : ∀ cs x rest, element cs = .ok (x, rest) → P x → ∃ y, element' cs = .ok (y, rest) ∧ R x y)
    (hscan : scanElements element fuel read cs = .ok (xs, rest)) (hgood : ∀ x ∈ xs, P x) :
    (∀ x ∈ read, P x) ∧ ∀ read', List.Forall₂ R read read' →
      ∃ ys, scanElements element' fuel read' cs = .ok (ys, rest) ∧ List.Forall₂ R xs ys := by
  induction fuel generalizing read cs with
  | zero => cases hscan
  | succ fuel ih =>
    rcases scanElements_cases hscan with ⟨hcs, rfl⟩ | ⟨more, x, others, hat, hx, hothers⟩
    · refine ⟨fun x hx => hgood x (List.mem_reverse.2 hx), fun read' hread => ?_⟩
      exact ⟨read'.reverse, scanElements_end hcs, List.rel_reverse hread⟩
    · obtain ⟨hall, hmore⟩ := ih hothers
      obtain ⟨hgoodx, hgoodread⟩ := List.forall_mem_cons.1 hall
      obtain ⟨y, hy, hxy⟩ := h more x others hx hgoodx
      refine ⟨hgoodread, fun read' hread => ?_⟩
      obtain ⟨ys, hys, hrel⟩ := hmore (y :: read') (.cons hxy hread)
      have hat' : ElementAt read'.isEmpty cs more := by
        cases hread <;> exact hat
      refine ⟨ys, ?_, hrel⟩
      rw [scanElements_at hat']
      exact (except_bind_ok hy).trans hys

theorem scanList_along {P : α → Prop} {R : α → β → Prop}
    (h : ∀ cs x rest, element cs = .ok (x, rest) → P x → ∃ y, element' cs = .ok (y, rest) ∧ R x y)
    (hscan : scanList element cs = .ok (xs, rest)) (hgood : ∀ x ∈ xs, P x) :
    ∃ ys, scanList element' cs = .ok (ys, rest) ∧ List.Forall₂ R xs ys :=
  (scanElements_along h hscan hgood).2 [] .nil

end Elements

section Members

variable {σ τ : Type} {member : String → σ → Scan σ} {member' : String → τ → Scan τ} {fuel : Nat}
  {first : Bool} {known final : σ} {cs more rest : List Char}

theorem scanMembers_at (h : KeyAt first cs more) :
    scanMembers member (fuel + 1) first known cs = (do
      let (key, cs) ← scanString more
      let (known, cs) ← member key known cs
      scanMembers member fuel false known cs) := by
  cases h with
  | first hcs => exact scanMembers_first hcs
  | next hcs hgap => exact scanMembers_next hcs hgap

theorem scanMembers_cases (h : scanMembers member (fuel + 1) first known cs = .ok (final, rest)) :
    (skipSpace cs = '}' :: rest ∧ final = known) ∨
    ∃ more key value next others, KeyAt first cs more ∧ scanString more = .ok (key, value) ∧
      member key known value = .ok (next, others) ∧
      scanMembers member fuel false next others = .ok (final, rest) := by
  have hat : ∀ more, KeyAt first cs more →
      ∃ more key value next others, KeyAt first cs more ∧ scanString more = .ok (key, value) ∧
        member key known value = .ok (next, others) ∧
        scanMembers member fuel false next others = .ok (final, rest) := by
    intro more hat
    rw [scanMembers_at hat] at h
    obtain ⟨⟨key, value⟩, hkey, hmember⟩ := exists_ok_of_bind h
    obtain ⟨⟨next, others⟩, hnext, hothers⟩ := exists_ok_of_bind hmember
    exact ⟨more, key, value, next, others, hat, hkey, hnext, hothers⟩
  unfold scanMembers at h
  dsimp only at h
  split at h
  · cases h
  · next hcs =>
    cases h
    exact .inl ⟨hcs, rfl⟩
  · next hcs =>
    refine .inr ?_
    split at h
    · next hfirst =>
      split at h
      · next hquote => exact hat _ (by rw [hfirst]; exact .first (hquote ▸ hcs))
      · cases h
    · next hfirst =>
      rw [Bool.not_eq_true] at hfirst
      split at h
      · next hcomma =>
        subst hcomma
        split at h
        · cases h
        · next hgap => exact hat _ (by rw [hfirst]; exact .next hcs hgap)
        · cases h
        · cases h
      · cases h

/-- The other scan comes to know the same, if what is known in the end is good, or something else
in its place. What was known on the way then is good, too. -/
theorem scanMembers_along {P : σ → Prop} {R : σ → τ → Prop}
    (h : ∀ key known cs next rest, member key known cs = .ok (next, rest) → P next →
      P known ∧ ∀ known', R known known' →
        ∃ next', member' key known' cs = .ok (next', rest) ∧ R next next')
    (hscan : scanMembers member fuel first known cs = .ok (final, rest)) (hgood : P final) :
    P known ∧ ∀ known', R known known' →
      ∃ final', scanMembers member' fuel first known' cs = .ok (final', rest) ∧ R final final' := by
  induction fuel generalizing first known cs with
  | zero => cases hscan
  | succ fuel ih =>
    rcases scanMembers_cases hscan with
      ⟨hcs, rfl⟩ | ⟨more, key, value, next, others, hat, hkey, hnext, hothers⟩
    · exact ⟨hgood, fun known' hknown => ⟨known', scanMembers_end hcs, hknown⟩⟩
    · obtain ⟨hgoodnext, hmore⟩ := ih hothers
      obtain ⟨hgoodknown, hmember⟩ := h key known value next others hnext hgoodnext
      refine ⟨hgoodknown, fun known' hknown => ?_⟩
      obtain ⟨next', hnext', hrel⟩ := hmember known' hknown
      obtain ⟨final', hfinal', hrel'⟩ := hmore next' hrel
      refine ⟨final', ?_, hrel'⟩
      rw [scanMembers_at hat, except_bind_ok hkey]
      exact (except_bind_ok hnext').trans hfinal'

theorem scanObject_along {P : σ → Prop} {R : σ → τ → Prop}
    (h : ∀ key known cs next rest, member key known cs = .ok (next, rest) → P next →
      P known ∧ ∀ known', R known known' →
        ∃ next', member' key known' cs = .ok (next', rest) ∧ R next next')
    (hscan : scanObject member known cs = .ok (final, rest)) (hgood : P final) {known' : τ}
    (hknown : R known known') :
    ∃ final', scanObject member' known' cs = .ok (final', rest) ∧ R final final' :=
  (scanMembers_along h hscan hgood).2 known' hknown

end Members

/-! ## Texts -/

/-- Another scan reads a whole text if it goes as far as the one that reads it. -/
theorem exists_readAll_of_scan {α β : Type} {scan : Scan α} {scan' : Scan β} {P : β → Prop} {x : α}
    (h : ∀ cs rest, scan cs = .ok (x, rest) → ∃ y, scan' cs = .ok (y, rest) ∧ P y) {text : String}
    (hread : readAll scan text = .ok x) : ∃ y, readAll scan' text = .ok y ∧ P y := by
  obtain ⟨rest, hscan, hrest⟩ := readAll_eq_ok_iff.1 hread
  obtain ⟨y, hy, hxy⟩ := h _ _ hscan
  exact ⟨y, readAll_eq_ok_iff.2 ⟨rest, hy, hrest⟩, hxy⟩

end AssetCheck.Json
