import AssetCheck.Proofs.Step

/-!
# Two runs side by side

Two steps are alike if from related states they come to the same result and leave related states.
Steps in a row are alike if each of them is (`Alike.bind`), so a statement about two runs is one
about the requests that they make.
-/

namespace AssetCheck

variable {ε δ σ τ α β : Type}

/-- The same result, with related states. -/
inductive SameResult (R : σ → τ → Prop) : EStateM.Result ε σ α → EStateM.Result ε τ α → Prop
  | ok {a : α} {s : σ} {t : τ} : R s t → SameResult R (.ok a s) (.ok a t)
  | error {e : ε} {s : σ} {t : τ} : R s t → SameResult R (.error e s) (.error e t)

theorem SameResult.exists_ok {R : σ → τ → Prop} {result : EStateM.Result ε σ α} {a : α} {t : τ}
    (h : SameResult R result (.ok a t)) : ∃ s, result = .ok a s ∧ R s t := by
  cases h with
  | ok hst => exact ⟨_, rfl, hst⟩

theorem SameResult.exists_error {R : σ → τ → Prop} {result : EStateM.Result ε σ α} {e : ε} {t : τ}
    (h : SameResult R result (.error e t)) : ∃ s, result = .error e s ∧ R s t := by
  cases h with
  | error hst => exact ⟨_, rfl, hst⟩

/-- From related states both steps come to the same result and leave related states. -/
def Alike (R : σ → τ → Prop) (step : EStateM ε σ α) (other : EStateM ε τ α) : Prop :=
  ∀ s t, R s t → SameResult R (step s) (other t)

variable {R : σ → τ → Prop}

namespace Alike

theorem pure (a : α) :
    Alike R (Pure.pure a : EStateM ε σ α) (Pure.pure a : EStateM ε τ α) := fun _ _ h => .ok h

theorem throw (e : ε) :
    Alike R (MonadExcept.throw e : EStateM ε σ α) (MonadExcept.throw e : EStateM ε τ α) :=
  fun _ _ h => .error h

theorem bind {step : EStateM ε σ α} {other : EStateM ε τ α} {next : α → EStateM ε σ β}
    {following : α → EStateM ε τ β} (hstep : Alike R step other)
    (hnext : ∀ a, Alike R (next a) (following a)) :
    Alike R (step >>= next) (other >>= following) := by
  intro s t h
  have hfirst := hstep s t h
  cases hs : step s with
  | ok a s' =>
    rw [hs] at hfirst
    cases ht : other t with
    | error e t' => rw [ht] at hfirst; cases hfirst
    | ok b t' =>
      rw [ht] at hfirst
      cases hfirst with
      | ok h' =>
        rw [bind_ok hs, bind_ok ht]
        exact hnext a s' t' h'
  | error e s' =>
    rw [hs] at hfirst
    cases ht : other t with
    | ok b t' => rw [ht] at hfirst; cases hfirst
    | error e' t' =>
      rw [ht] at hfirst
      cases hfirst with
      | error h' =>
        rw [bind_error hs, bind_error ht]
        exact .error h'

theorem adaptExcept {step : EStateM ε σ α} {other : EStateM ε τ α} (h : Alike R step other)
    (f : ε → δ) : Alike R (EStateM.adaptExcept f step) (EStateM.adaptExcept f other) := by
  intro s t hst
  have hresult := h s t hst
  unfold EStateM.adaptExcept
  revert hresult
  generalize step s = left
  generalize other t = right
  rintro (hafter | hafter)
  · exact .ok hafter
  · exact .error hafter

theorem stateAfter {step : EStateM ε σ α} {other : EStateM ε τ α} (h : Alike R step other)
    {s : σ} {t : τ} (hst : R s t) : R (stateAfter step s) (stateAfter other t) := by
  have hresult := h s t hst
  unfold AssetCheck.stateAfter
  revert hresult
  generalize step s = left
  generalize other t = right
  rintro (hafter | hafter)
  · exact hafter
  · exact hafter

end Alike

end AssetCheck
