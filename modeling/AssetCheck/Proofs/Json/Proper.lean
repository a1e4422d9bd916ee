import AssetCheck.Json.Parser
import AssetCheck.Proofs.Decimal.Finite
import AssetCheck.Proofs.Json.Reading
import AssetCheck.Proofs.Step
import AssetCheck.Proofs.Table

/-!
# Proper values

A value is proper if no key of an object comes twice, its doubles are finite, and its whole numbers
fit 64 bits, with or without a sign. No other value can be held in memory, and no other value comes
from a text (`proper_of_parse`).
-/

namespace AssetCheck.Json

/-- A finite double, or a whole number of 64 bits. -/
inductive Number.Proper : Number → Prop
  | int {n : Int} : -2 ^ 63 ≤ n → n < 2 ^ 64 → Proper (.int n)
  | float {x : Float} : x.isFinite = true → Proper (.float x)

/-- All numbers are proper and all keys of an object are distinct. -/
inductive Value.Proper : Value → Prop
  | null : Proper .null
  | bool (b : Bool) : Proper (.bool b)
  | number {n : Number} : n.Proper → Proper (.number n)
  | string (s : String) : Proper (.string s)
  | array {vs : List Value} : (∀ v ∈ vs, Proper v) → Proper (.array vs)
  | object {ms : Table String Value} : (Table.keys ms).Nodup → (∀ m ∈ ms, Proper m.2) →
      Proper (.object ms)

/-- The value of a table of members, where a repeated key takes its last value. -/
theorem Value.proper_ofMembers {ms : List (String × Value)} (h : ∀ m ∈ ms, m.2.Proper) :
    (Value.ofMembers ms).Proper :=
  .object (Table.nodup_keys_ofList ms) fun m hm => h m (Table.mem_of_mem_ofList hm)

/-- The scan gives nothing but values of a kind. -/
def Gives {α : Type} (P : α → Prop) (scan : Scan α) : Prop :=
  ∀ cs x rest, scan cs = .ok (x, rest) → P x

theorem gives_error {α : Type} {P : α → Prop} (fault : List Char → Fault) :
    Gives P fun cs => .error (fault cs) := by
  intro cs x rest h
  cases h

theorem Gives.bind {α β : Type} {P : α → Prop} {Q : β → Prop} {first : Scan α} {next : α → Scan β}
    (hfirst : Gives P first) (hnext : ∀ x, P x → Gives Q (next x)) :
    Gives Q fun cs => first cs >>= fun p => next p.1 p.2 := by
  intro cs y rest h
  obtain ⟨⟨x, cs⟩, hx, hy⟩ := exists_ok_of_bind h
  exact hnext x (hfirst _ _ _ hx) _ _ _ hy

/-! ## Numbers -/

theorem finish_gives (negative : Bool) (significand : Nat) (exponent : Int) :
    Gives Number.Proper (finish negative significand exponent) := by
  intro cs n rest h
  unfold finish at h
  dsimp only at h
  split at h
  · cases h
  · next hinf =>
    have hfinite := Decimal.isFinite_scaled (Bool.eq_false_iff.2 hinf)
    cases negative with
    | true =>
      cases h
      exact .float (Decimal.isFinite_neg hfinite)
    | false =>
      cases h
      exact .float hfinite

theorem finishWhole_gives (negative : Bool) {n : Nat} (more : Nat) (h : n < UInt64.size) :
    Gives Number.Proper (finishWhole negative n more) := by
  intro cs x rest hscan
  unfold finishWhole at hscan
  split at hscan
  · exact finish_gives _ _ _ _ _ _ hscan
  · split at hscan
    · split at hscan
      · exact finish_gives _ _ _ _ _ _ hscan
      · next hsize =>
        cases hscan
        have hmost : mostBelowZero = 2 ^ 63 := rfl
        exact .int (by omega) (by omega)
    · cases hscan
      have hmost : UInt64.size = 2 ^ 64 := rfl
      exact .int (by omega) (by omega)

theorem scanExponent_gives (negative : Bool) (significand : Nat) (start : Int) :
    Gives Number.Proper (scanExponent negative significand start) := by
  intro cs x rest h
  unfold scanExponent at h
  dsimp only at h
  split at h
  · cases h
  · split at h
    · split at h
      · exact finish_gives _ _ _ _ _ _ h
      · split at h
        · cases h
        · exact finish_gives _ _ _ _ _ _ h
    · cases h

theorem leading_lt {n : Nat} (h : n < UInt64.size) (ds : List Char) :
    (Decimal.leading n ds).1 < UInt64.size := by
  induction ds generalizing n with
  | nil => exact h
  | cons c ds ih =>
    unfold Decimal.leading
    dsimp only
    split
    · exact ih ‹_›
    · exact h

theorem scanFraction_gives (negative : Bool) (whole : List Char) :
    Gives Number.Proper (scanFraction negative whole) := by
  intro cs x rest h
  unfold scanFraction at h
  dsimp only at h
  split at h
  · split at h
    · cases h
    · cases h
    · exact scanExponent_gives _ _ _ _ _ _ h
    · exact scanExponent_gives _ _ _ _ _ _ h
    · exact finish_gives _ _ _ _ _ _ h
  · exact scanExponent_gives _ _ _ _ _ _ h
  · exact scanExponent_gives _ _ _ _ _ _ h
  · exact finishWhole_gives _ _ (leading_lt (by decide) whole) _ _ _ h

theorem scanUnsigned_gives (negative : Bool) : Gives Number.Proper (scanUnsigned negative) := by
  intro cs x rest h
  unfold scanUnsigned at h
  split at h
  · cases h
  · split at h
    · cases h
    · exact scanFraction_gives _ _ _ _ _ h
  · split at h
    · exact scanFraction_gives _ _ _ _ _ h
    · cases h

/-! ## Lists and objects -/

theorem scanElements_gives {α : Type} {P : α → Prop} {element : Scan α} (h : Gives P element)
    (fuel : Nat) {read : List α} (hread : ∀ x ∈ read, P x) :
    Gives (fun xs => ∀ x ∈ xs, P x) (scanElements element fuel read) := by
  induction fuel generalizing read with
  | zero => exact gives_error _
  | succ fuel ih =>
    have hmore : ∀ x, P x →
        Gives (fun xs => ∀ x ∈ xs, P x) (scanElements element fuel (x :: read)) := fun x hx =>
      ih (List.forall_mem_cons.2 ⟨hx, hread⟩)
    have hnext := h.bind hmore
    intro cs xs rest hscan
    unfold scanElements at hscan
    dsimp only at hscan
    split at hscan
    · cases hscan
    · cases hscan
      exact fun x hx => hread x (List.mem_reverse.1 hx)
    · split at hscan
      · exact hnext _ _ _ hscan
      · split at hscan
        · split at hscan
          · cases hscan
          · cases hscan
          · exact hnext _ _ _ hscan
        · cases hscan

theorem scanMembers_gives {σ : Type} {P : σ → Prop} {member : String → σ → Scan σ}
    (h : ∀ key known, P known → Gives P (member key known)) (fuel : Nat) (first : Bool) {known : σ}
    (hknown : P known) : Gives P (scanMembers member fuel first known) := by
  induction fuel generalizing first known with
  | zero => exact gives_error _
  | succ fuel ih =>
    have hkey : Gives (fun _ => True) scanString := fun _ _ _ _ => trivial
    have hnext := hkey.bind fun key _ => (h key known hknown).bind fun next hnext => ih false hnext
    intro cs x rest hscan
    unfold scanMembers at hscan
    dsimp only at hscan
    split at hscan
    · cases hscan
    · cases hscan
      exact hknown
    · split at hscan
      · split at hscan
        · exact hnext _ _ _ hscan
        · cases hscan
      · split at hscan
        · split at hscan
          · cases hscan
          · exact hnext _ _ _ hscan
          · cases hscan
          · cases hscan
        · cases hscan

/-! ## Values -/

theorem scanValueWith_gives {inner : Option (Scan Value)}
    (h : ∀ scan ∈ inner, Gives Value.Proper scan) : Gives Value.Proper (scanValueWith inner) := by
  intro cs v rest hscan
  unfold scanValueWith at hscan
  split at hscan
  · cases hscan
  · obtain ⟨_, -, hv⟩ := exists_ok_of_bind hscan
    cases hv
    exact .null
  · obtain ⟨_, -, hv⟩ := exists_ok_of_bind hscan
    cases hv
    exact .bool true
  · obtain ⟨_, -, hv⟩ := exists_ok_of_bind hscan
    cases hv
    exact .bool false
  · obtain ⟨⟨s, _⟩, -, hv⟩ := exists_ok_of_bind hscan
    cases hv
    exact .string s
  · obtain ⟨⟨n, _⟩, hn, hv⟩ := exists_ok_of_bind hscan
    cases hv
    exact .number (scanUnsigned_gives _ _ _ _ hn)
  · split at hscan
    · cases hscan
    · next scan =>
      obtain ⟨⟨vs, _⟩, hvs, hv⟩ := exists_ok_of_bind hscan
      cases hv
      exact .array (scanElements_gives (h scan rfl) _ (List.forall_mem_nil _) _ _ _ hvs)
  · split at hscan
    · cases hscan
    · next scan =>
      obtain ⟨⟨ms, _⟩, hms, hv⟩ := exists_ok_of_bind hscan
      cases hv
      have hproper : ∀ m ∈ ms, m.2.Proper := by
        refine scanMembers_gives (P := fun ms : List (String × Value) => ∀ m ∈ ms, m.2.Proper)
          ?_ _ _ (List.forall_mem_nil _) _ _ _ hms
        intro key known hknown cs ms rest hmember
        obtain ⟨cs, -, hvalue⟩ := exists_ok_of_bind hmember
        obtain ⟨⟨v, _⟩, hv, hms⟩ := exists_ok_of_bind hvalue
        cases hms
        exact List.forall_mem_cons.2 ⟨h scan rfl _ _ _ hv, hknown⟩
      exact Value.proper_ofMembers fun m hm => hproper m (List.mem_reverse.1 hm)
  · split at hscan
    · obtain ⟨⟨n, _⟩, hn, hv⟩ := exists_ok_of_bind hscan
      cases hv
      exact .number (scanUnsigned_gives _ _ _ _ hn)
    · cases hscan

theorem scanValue_gives (depth : Nat) : Gives Value.Proper (scanValue depth) := by
  induction depth with
  | zero => exact scanValueWith_gives nofun
  | succ depth ih => exact scanValueWith_gives fun scan hscan => by cases hscan; exact ih

theorem Gives.readAll {α : Type} {P : α → Prop} {scan : Scan α} (hscan : Gives P scan)
    {text : String} {x : α} (h : Json.readAll scan text = .ok x) : P x := by
  obtain ⟨_, hx, -⟩ := readAll_eq_ok_iff.1 h
  exact hscan _ _ _ hx

/-- **Texts.** What a text is read as is proper. -/
theorem proper_of_parse {text : String} {v : Value} (h : parse text = .ok v) : v.Proper :=
  (scanValue_gives depthLimit).readAll h

end AssetCheck.Json
