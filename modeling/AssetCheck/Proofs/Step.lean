/-!
# Steps that may fail

A step takes a state to an answer and a state, or to an error and a state. Steps in a row are taken
apart here once; later proofs name the outcome of the first step and go on with the second. What
each step of a row keeps, whether or not it goes well, the row keeps (`Keeps`). Where an answer and
an error are told apart, each step starts from what the answer before it came with (`Leads`).
-/

namespace AssetCheck

variable {ε σ α β : Type}

/-- The state that a step leaves behind, whether or not it went well. -/
def stateAfter (step : EStateM ε σ α) (s : σ) : σ :=
  match step s with
  | .ok _ t => t
  | .error _ t => t

theorem stateAfter_ok {step : EStateM ε σ α} {s t : σ} {a : α} (h : step s = .ok a t) :
    stateAfter step s = t := by
  unfold stateAfter; rw [h]

theorem stateAfter_error {step : EStateM ε σ α} {s t : σ} {e : ε} (h : step s = .error e t) :
    stateAfter step s = t := by
  unfold stateAfter; rw [h]

theorem bind_ok {step : EStateM ε σ α} {next : α → EStateM ε σ β} {s t : σ} {a : α}
    (h : step s = .ok a t) : (step >>= next) s = next a t := by
  show EStateM.bind step next s = _
  unfold EStateM.bind; rw [h]

/-- What a step comes to. -/
def resultOf (step : EStateM ε σ α) (s : σ) : Except ε α :=
  match step s with
  | .ok a _ => .ok a
  | .error e _ => .error e

theorem stateAfter_bind_ok {step : EStateM ε σ α} {next : α → EStateM ε σ β} {s t : σ} {a : α}
    (h : step s = .ok a t) : stateAfter (step >>= next) s = stateAfter (next a) t := by
  unfold stateAfter; rw [bind_ok h]

theorem map_ok {step : EStateM ε σ α} {s t : σ} {a : α} (f : α → β) (h : step s = .ok a t) :
    (f <$> step) s = .ok (f a) t := by
  show EStateM.map f step s = _
  unfold EStateM.map; rw [h]

theorem bind_error {step : EStateM ε σ α} {next : α → EStateM ε σ β} {s t : σ} {e : ε}
    (h : step s = .error e t) : (step >>= next) s = .error e t := by
  show EStateM.bind step next s = _
  unfold EStateM.bind; rw [h]

theorem exists_ok_of_step_bind {step : EStateM ε σ α} {next : α → EStateM ε σ β} {s u : σ} {b : β}
    (h : (step >>= next) s = .ok b u) : ∃ a t, step s = .ok a t ∧ next a t = .ok b u := by
  cases hstep : step s with
  | error e t =>
    rw [bind_error hstep] at h
    cases h
  | ok a t =>
    rw [bind_ok hstep] at h
    exact ⟨a, t, rfl, h⟩

/-! A step that gives its errors another form: -/

section Adapt

variable {δ : Type} {f : ε → δ} {step : EStateM ε σ α} {s t : σ}

theorem adaptExcept_ok_iff {a : α} :
    EStateM.adaptExcept f step s = .ok a t ↔ step s = .ok a t := by
  unfold EStateM.adaptExcept
  cases step s <;> simp

theorem adaptExcept_error {e : ε} (f : ε → δ) (h : step s = .error e t) :
    EStateM.adaptExcept f step s = .error (f e) t := by
  unfold EStateM.adaptExcept; rw [h]

theorem exists_of_adaptExcept_error {d : δ} (h : EStateM.adaptExcept f step s = .error d t) :
    ∃ e, step s = .error e t ∧ f e = d := by
  unfold EStateM.adaptExcept at h
  cases hstep : step s with
  | ok a u => rw [hstep] at h; cases h
  | error e u => rw [hstep] at h; cases h; exact ⟨e, rfl, rfl⟩

end Adapt

/-- The step with a given result, which leaves the state as it is. -/
def known (result : Except ε α) : EStateM ε σ α := fun s =>
  match result with
  | .ok a => .ok a s
  | .error e => .error e s

theorem stateAfter_known {step : EStateM ε σ α} {s t : σ} {result : Except ε α}
    (h : step s = known result t) : stateAfter step s = t := by
  unfold stateAfter
  rw [h]
  cases result <;> rfl

theorem resultOf_known {step : EStateM ε σ α} {s t : σ} {result : Except ε α}
    (h : step s = known result t) : resultOf step s = result := by
  unfold resultOf
  rw [h]
  cases result <;> rfl

theorem eq_ok_of_known {s t : σ} {result : Except ε α} {a : α} (h : known result s = .ok a t) :
    result = .ok a := by
  cases result with
  | error e => cases h
  | ok b => cases h; rfl

/-- Steps in a row whose results are known at the state that the first one leaves. -/
theorem bind_known {step : EStateM ε σ α} {next : α → EStateM ε σ β} {s t : σ}
    {first : Except ε α} {second : α → Except ε β} (hstep : step s = known first t)
    (hnext : ∀ a, next a t = known (second a) t) :
    (step >>= next) s = known (first >>= second) t := by
  cases first with
  | error e => exact bind_error hstep
  | ok a => exact (bind_ok hstep).trans (hnext a)

/-! Steps that have no state: -/

theorem except_bind_ok {first : Except ε α} {next : α → Except ε β} {a : α} (h : first = .ok a) :
    (first >>= next) = next a := by
  rw [h]
  rfl

theorem except_bind_error {first : Except ε α} {next : α → Except ε β} {e : ε}
    (h : first = .error e) : (first >>= next) = .error e := by
  rw [h]
  rfl

theorem exists_ok_of_bind {first : Except ε α} {next : α → Except ε β} {b : β}
    (h : (first >>= next) = .ok b) : ∃ a, first = .ok a ∧ next a = .ok b := by
  cases first with
  | error e => cases h
  | ok a => exact ⟨a, rfl, h⟩

theorem eq_ok_of_mapError {ε' : Type} {f : ε → ε'} {x : Except ε α} {a : α}
    (h : x.mapError f = .ok a) : x = .ok a := by
  cases x with
  | error e => cases h
  | ok b => cases h; rfl

/-! ## What steps keep -/

/-- The step leaves a state of the kind that it starts from. -/
def Keeps (P : σ → Prop) (step : EStateM ε σ α) : Prop := ∀ s, P s → P (stateAfter step s)

variable {P : σ → Prop}

theorem Keeps.pure (a : α) : Keeps P (Pure.pure a : EStateM ε σ α) := fun _ h => h

theorem Keeps.throw (e : ε) : Keeps P (MonadExcept.throw e : EStateM ε σ α) := fun _ h => h

theorem Keeps.bind {step : EStateM ε σ α} {next : α → EStateM ε σ β} (hstep : Keeps P step)
    (hnext : ∀ a, Keeps P (next a)) : Keeps P (step >>= next) := by
  intro s hs
  have hfirst := hstep s hs
  unfold stateAfter at hfirst ⊢
  cases h : step s with
  | error e t =>
    rw [bind_error h]
    rw [h] at hfirst
    exact hfirst
  | ok a t =>
    rw [bind_ok h]
    rw [h] at hfirst
    exact hnext a t hfirst

theorem Keeps.adaptExcept {δ : Type} {step : EStateM ε σ α} (h : Keeps P step) (f : ε → δ) :
    Keeps P (EStateM.adaptExcept f step) := by
  intro s hs
  have hstep := h s hs
  unfold stateAfter at hstep
  unfold stateAfter EStateM.adaptExcept
  cases hresult : step s <;> rw [hresult] at hstep <;> exact hstep

/-! ## What steps lead to -/

/-- From a state of a kind, the step comes to an answer with a state that fits it, or to an error
with a state that fits that. -/
def Leads (P : σ → Prop) (step : EStateM ε σ α) (Q : α → σ → Prop) (E : ε → σ → Prop) : Prop :=
  ∀ s, P s →
    match step s with
    | .ok a t => Q a t
    | .error e t => E e t

variable {Q : α → σ → Prop} {E : ε → σ → Prop}

theorem Leads.pure {a : α} (h : ∀ s, P s → Q a s) :
    Leads P (Pure.pure a : EStateM ε σ α) Q E := h

theorem Leads.throw {e : ε} (h : ∀ s, P s → E e s) :
    Leads P (MonadExcept.throw e : EStateM ε σ α) Q E := h

theorem Leads.bind {step : EStateM ε σ α} {next : α → EStateM ε σ β} {T : β → σ → Prop}
    (hstep : Leads P step Q E) (hnext : ∀ a, Leads (Q a) (next a) T E) :
    Leads P (step >>= next) T E := by
  intro s hs
  have hfirst := hstep s hs
  cases h : step s with
  | error e t =>
    rw [bind_error h]
    rw [h] at hfirst
    exact hfirst
  | ok a t =>
    rw [bind_ok h]
    rw [h] at hfirst
    exact hnext a t hfirst

theorem Leads.mono {step : EStateM ε σ α} {P' : σ → Prop} {Q' : α → σ → Prop}
    {E' : ε → σ → Prop} (h : Leads P step Q E) (hP : ∀ s, P' s → P s)
    (hQ : ∀ a s, Q a s → Q' a s) (hE : ∀ e s, E e s → E' e s) : Leads P' step Q' E' := by
  intro s hs
  have hresult := h s (hP s hs)
  cases hstep : step s with
  | ok a t =>
    rw [hstep] at hresult
    exact hQ a t hresult
  | error e t =>
    rw [hstep] at hresult
    exact hE e t hresult

end AssetCheck
