import Mathlib.Data.List.Forall2
import AssetCheck.Proofs.Step

/-!
# Lists read element by element

A list is read up to the first element that cannot be read. If each element is good or has a defect,
then all of them are good, or there is a first one with a defect (`all_or_first`). Where the good
inputs of a reader and its defects are known and leave nothing over, they also are what its results
come from (`settled`).
-/

namespace AssetCheck

variable {ε α β : Type}

theorem all_or_first {Good : α → β → Prop} {Bad : α → Prop}
    (h : ∀ x, (∃ y, Good x y) ∨ Bad x) (xs : List α) :
    (∃ ys, List.Forall₂ Good xs ys) ∨
      ∃ before x after, xs = before ++ x :: after ∧ (∀ b ∈ before, ∃ y, Good b y) ∧ Bad x := by
  induction xs with
  | nil => exact .inl ⟨[], .nil⟩
  | cons x xs ih =>
    rcases h x with ⟨y, hy⟩ | hx
    · rcases ih with ⟨ys, hys⟩ | ⟨before, z, after, rfl, hbefore, hz⟩
      · exact .inl ⟨y :: ys, .cons hy hys⟩
      · exact .inr ⟨x :: before, z, after, rfl, List.forall_mem_cons.2 ⟨⟨y, hy⟩, hbefore⟩, hz⟩
    · exact .inr ⟨[], x, xs, rfl, List.forall_mem_nil _, hx⟩

theorem exists_of_forall₂_right {R : α → β → Prop} {xs : List α} {ys : List β}
    (h : List.Forall₂ R xs ys) : ∀ y ∈ ys, ∃ x ∈ xs, R x y := by
  induction h with
  | nil => exact List.forall_mem_nil _
  | @cons x y xs ys hxy _ ih =>
    refine List.forall_mem_cons.2 ⟨⟨x, List.mem_cons_self, hxy⟩, fun y hy => ?_⟩
    obtain ⟨x, hx, h⟩ := ih y hy
    exact ⟨x, List.mem_cons_of_mem _ hx, h⟩

theorem exists_forall₂ {R : α → β → Prop} {xs : List α} (h : ∀ x ∈ xs, ∃ y, R x y) :
    ∃ ys, List.Forall₂ R xs ys := by
  induction xs with
  | nil => exact ⟨[], .nil⟩
  | cons x xs ih =>
    obtain ⟨⟨y, hy⟩, hrest⟩ := List.forall_mem_cons.1 h
    obtain ⟨ys, hys⟩ := ih hrest
    exact ⟨y :: ys, .cons hy hys⟩

theorem getElem?_of_forall₂ {R : α → β → Prop} {xs : List α} {ys : List β}
    (h : List.Forall₂ R xs ys) {i : Nat} {x : α} (hx : xs[i]? = some x) :
    ∃ y, ys[i]? = some y ∧ R x y := by
  induction h generalizing i with
  | nil => cases hx
  | @cons _ y _ _ hxy _ ih =>
    cases i with
    | zero =>
      cases hx
      exact ⟨y, rfl, hxy⟩
    | succ i => exact ih hx

theorem eq_of_forall₂ {R : α → α → Prop} {xs ys : List α} (h : List.Forall₂ R xs ys)
    (heq : ∀ x, ∀ y ∈ ys, R x y → x = y) : xs = ys := by
  induction h with
  | nil => rfl
  | cons hxy _ ih =>
    obtain ⟨hfirst, hrest⟩ := forall_and.1 fun x => List.forall_mem_cons.1 (heq x)
    rw [hfirst _ hxy, ih hrest]

theorem flatMap_eq_of_forall₂ {f : α → List β} {xs : List α} {ys : List β}
    (h : List.Forall₂ (fun x y => f x = [y]) xs ys) : xs.flatMap f = ys := by
  induction h with
  | nil => rfl
  | cons hxy _ ih => rw [List.flatMap_cons, hxy, ih, List.singleton_append]

theorem exists_append_of_forall₂ {R : α → β → Prop} {xs xs' : List α} {ys : List β}
    (h : List.Forall₂ R (xs ++ xs') ys) :
    ∃ zs zs', List.Forall₂ R xs zs ∧ List.Forall₂ R xs' zs' ∧ ys = zs ++ zs' := by
  induction xs generalizing ys with
  | nil => exact ⟨[], ys, .nil, h, rfl⟩
  | cons x xs ih =>
    rw [List.cons_append] at h
    cases h with
    | @cons _ y _ ys hxy h =>
      obtain ⟨zs, zs', hzs, hzs', rfl⟩ := ih h
      exact ⟨y :: zs, zs', .cons hxy hzs, hzs', rfl⟩

/-- What partners share makes the same list on both sides. -/
theorem map_eq_of_forall₂ {γ : Type} {R : α → β → Prop} {f : α → γ} {g : β → γ} {xs : List α}
    {ys : List β} (h : List.Forall₂ R xs ys) (hR : ∀ x y, R x y → g y = f x) :
    ys.map g = xs.map f := by
  induction h with
  | nil => rfl
  | cons hxy _ ih => rw [List.map_cons, List.map_cons, hR _ _ hxy, ih]

theorem mapM_ok {f : α → Except ε β} {xs : List α} {ys : List β}
    (h : List.Forall₂ (fun x y => f x = .ok y) xs ys) : xs.mapM f = .ok ys := by
  induction h with
  | nil => rfl
  | cons hxy _ ih =>
    rw [List.mapM_cons, except_bind_ok hxy, except_bind_ok ih]
    rfl

theorem mapM_error {f : α → Except ε β} {before after : List α} {x : α} {e : ε}
    (hbefore : ∀ b ∈ before, ∃ y, f b = .ok y) (hx : f x = .error e) :
    (before ++ x :: after).mapM f = .error e := by
  induction before with
  | nil =>
    rw [List.nil_append, List.mapM_cons, hx]
    rfl
  | cons b before ih =>
    obtain ⟨⟨y, hy⟩, hrest⟩ := List.forall_mem_cons.1 hbefore
    rw [List.cons_append, List.mapM_cons, except_bind_ok hy, ih hrest]
    rfl

theorem exists_of_mapM_error {f : α → Except ε β} {xs : List α} {e : ε}
    (h : xs.mapM f = .error e) : ∃ x ∈ xs, f x = .error e := by
  induction xs with
  | nil => cases h
  | cons x xs ih =>
    rw [List.mapM_cons] at h
    cases hx : f x with
    | error d =>
      rw [except_bind_error hx] at h
      cases h
      exact ⟨x, List.mem_cons_self, hx⟩
    | ok y =>
      rw [except_bind_ok hx] at h
      cases hrest : xs.mapM f with
      | error d =>
        rw [except_bind_error hrest] at h
        cases h
        obtain ⟨z, hz, he⟩ := ih hrest
        exact ⟨z, List.mem_cons_of_mem _ hz, he⟩
      | ok ys =>
        rw [except_bind_ok hrest] at h
        cases h

/-- What a list gives begins with what any beginning of the list gives. -/
theorem mapM_prefix_ok {f : α → Except ε β} {xs ys : List α} (h : xs <+: ys) {all : List β}
    (hall : ys.mapM f = .ok all) : ∃ first, xs.mapM f = .ok first ∧ first <+: all := by
  obtain ⟨rest, rfl⟩ := h
  rw [List.mapM_append] at hall
  obtain ⟨first, hfirst, hall⟩ := exists_ok_of_bind hall
  obtain ⟨others, -, hall⟩ := exists_ok_of_bind hall
  cases hall
  exact ⟨first, hfirst, List.prefix_append first others⟩

theorem mapM_prefix_error {f : α → Except ε β} {xs ys : List α} (h : xs <+: ys) {e : ε}
    (he : xs.mapM f = .error e) : ys.mapM f = .error e := by
  obtain ⟨rest, rfl⟩ := h
  rw [List.mapM_append, except_bind_error he]

theorem mapM_congr {f g : α → Except ε β} {xs : List α} (h : ∀ x ∈ xs, f x = g x) :
    xs.mapM f = xs.mapM g := by
  induction xs with
  | nil => rfl
  | cons x xs ih =>
    obtain ⟨hx, hrest⟩ := List.forall_mem_cons.1 h
    rw [List.mapM_cons, List.mapM_cons, hx, ih hrest]

/-- A result comes from what is good exactly if it is a value, and from a defect exactly if it is an
error. -/
theorem settled {result : Except ε α} {Good : α → Prop} {Bad : ε → Prop}
    (hgood : ∀ a, Good a → result = .ok a) (hbad : ∀ e, Bad e → result = .error e)
    (hall : (∃ a, Good a) ∨ ∃ e, Bad e) :
    (∀ a, result = .ok a ↔ Good a) ∧ ∀ e, result = .error e ↔ Bad e := by
  rcases hall with ⟨a, ha⟩ | ⟨e, he⟩
  · have hresult := hgood a ha
    refine ⟨fun b => ⟨fun hb => ?_, hgood b⟩, fun e => ⟨fun he => ?_, hbad e⟩⟩
    · rw [hresult] at hb
      cases hb
      exact ha
    · rw [hresult] at he
      cases he
  · have hresult := hbad e he
    refine ⟨fun a => ⟨fun ha => ?_, hgood a⟩, fun d => ⟨fun hd => ?_, hbad d⟩⟩
    · rw [hresult] at ha
      cases ha
    · rw [hresult] at hd
      cases hd
      exact he

end AssetCheck
