import AssetCheck.Proofs.AssetTokens
import AssetCheck.Proofs.Step
import AssetCheck.Run

/-!
# Chains built in turn

A run builds the chain of one asset after the other, and all of them are built exactly if each is
(`buildAll_cons`, `exists_of_buildAll_cons`). So the chains of some assets are built before those of
others just as without them (`exists_of_buildAll_append`).
-/

namespace AssetCheck.Session

variable {σ : Type} {session : Session σ} {spec : PipelineSpec} {bench bench' : Workbench σ}
  {built : List BuiltChain}

theorem buildAll_cons {asset : String} {rest : List String} {subs : Substitutions}
    {first : BuiltChain} {next : Workbench σ} (hsubs : Substitutions.ofAsset asset = .ok subs)
    (hfirst : build session.host spec subs bench = .ok first next)
    (hrest : session.buildAll spec rest next = .ok built bench') :
    session.buildAll spec (asset :: rest) bench = .ok (first :: built) bench' := by
  unfold buildAll
  rw [hsubs]
  dsimp only
  rw [bind_ok hfirst, bind_ok hrest]
  rfl

theorem exists_of_buildAll_cons {asset : String} {rest : List String}
    (h : session.buildAll spec (asset :: rest) bench = .ok built bench') :
    ∃ subs first next others, Substitutions.ofAsset asset = .ok subs ∧
      build session.host spec subs bench = .ok first next ∧
      session.buildAll spec rest next = .ok others bench' ∧ built = first :: others := by
  obtain ⟨subs, hsubs, -⟩ := Substitutions.ofAsset_ok asset
  unfold buildAll at h
  rw [hsubs] at h
  obtain ⟨first, next, hfirst, hothers⟩ := exists_ok_of_step_bind h
  obtain ⟨others, _, hrest, hpure⟩ := exists_ok_of_step_bind hothers
  cases hpure
  exact ⟨subs, first, next, others, hsubs, hfirst, hrest, rfl⟩

/-- The chains of earlier assets are built as if there were no later ones. -/
theorem exists_of_buildAll_append {earlier later : List String}
    (h : session.buildAll spec (earlier ++ later) bench = .ok built bench') :
    ∃ first middle rest, session.buildAll spec earlier bench = .ok first middle ∧
      session.buildAll spec later middle = .ok rest bench' ∧ built = first ++ rest := by
  induction earlier generalizing bench built with
  | nil => exact ⟨[], bench, built, rfl, h, rfl⟩
  | cons asset earlier ih =>
    obtain ⟨subs, chain, next, others, hsubs, hchain, hothers, rfl⟩ := exists_of_buildAll_cons h
    obtain ⟨first, middle, rest, hfirst, hlater, rfl⟩ := ih hothers
    exact ⟨chain :: first, middle, rest, buildAll_cons hsubs hchain hfirst, hlater, rfl⟩

/-- An asset whose chain cannot be built ends the building, whatever assets there are after it. -/
theorem buildAll_of_build_error {earlier later : List String} {asset : String}
    {subs : Substitutions} {middle : Workbench σ} {e : BuildError}
    (hearlier : session.buildAll spec earlier bench = .ok built middle)
    (hsubs : Substitutions.ofAsset asset = .ok subs)
    (hbuild : build session.host spec subs middle = .error e bench') :
    session.buildAll spec (earlier ++ asset :: later) bench = .error e bench' := by
  induction earlier generalizing bench built with
  | nil =>
    cases hearlier
    rw [List.nil_append]
    unfold buildAll
    rw [hsubs]
    exact bind_error hbuild
  | cons first earlier ih =>
    obtain ⟨firstSubs, chain, next, others, hfirst, hchain, hothers, -⟩ :=
      exists_of_buildAll_cons hearlier
    rw [List.cons_append]
    unfold buildAll
    rw [hfirst]
    dsimp only
    rw [bind_ok hchain]
    exact bind_error (ih hothers)

end AssetCheck.Session
