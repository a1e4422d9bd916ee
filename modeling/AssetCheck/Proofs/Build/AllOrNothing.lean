import AssetCheck.Proofs.Build.InTurn
import AssetCheck.Proofs.Build.Outcome

/-!
# All or nothing

A failed build leaves a scene as it was, but for counters that have advanced
(`build_all_or_nothing`).

The same holds of a run that ends in a failed build, although it builds one chain after the other on
one scene: whether a build fails depends on the registered types alone, which no build changes, so
only the first asset's build can fail.
-/

namespace AssetCheck

namespace Session

variable (setting : Setting) (scene : Option String) (spec : PipelineSpec)

theorem buildAll_ok {s : Scene} (hs : s.Sound) (hf : spec.fault? s.types = none)
    (assets : List String) (id : Nat) :
    ∃ built bench, buildAll ⟨Scene.host, setting, scene⟩ spec assets ⟨s, id⟩ = .ok built bench := by
  induction assets generalizing s id with
  | nil => exact ⟨[], ⟨s, id⟩, rfl⟩
  | cons asset rest ih =>
    obtain ⟨subs, hsubs, -⟩ := Substitutions.ofAsset_ok asset
    obtain ⟨built, t, hbuild, hb⟩ := build_ok hs spec subs id hf
    have htypes : t.types = s.types := hb.grown.types
    obtain ⟨others, bench, hrest⟩ := ih (hb.grown.sound hs) (by rw [htypes]; exact hf) (id + 1)
    exact ⟨built :: others, bench, buildAll_cons hsubs hbuild hrest⟩

/-- Only the first build of a run can fail. -/
theorem onlyCounted_of_buildAll_error {s : Scene} (hs : s.Sound) {assets : List String} {id : Nat}
    {e : BuildError} {bench : Workbench Scene}
    (h : buildAll ⟨Scene.host, setting, scene⟩ spec assets ⟨s, id⟩ = .error e bench) :
    s.OnlyCounted bench.host := by
  cases hf : spec.fault? s.types with
  | none =>
    obtain ⟨built, bench', hok⟩ := buildAll_ok setting scene spec hs hf assets id
    rw [hok] at h
    cases h
  | some fault =>
    cases assets with
    | nil => cases h
    | cons asset rest =>
      obtain ⟨subs, hsubs, -⟩ := Substitutions.ofAsset_ok asset
      obtain ⟨t, created, hg, herror⟩ := build_error hs spec subs id hf
      have hall : buildAll ⟨Scene.host, setting, scene⟩ spec (asset :: rest) ⟨s, id⟩ =
          .error fault ⟨s.withCounters t.named t.lastHandle, id + 1⟩ := by
        unfold buildAll
        rw [hsubs]
        exact bind_error herror
      rw [hall] at h
      cases h
      exact hg.onlyCounted

/-- A run that ends in a failed build has not come to files or output. -/
theorem onlyCounted_of_run_error {stage stage' : Stage Scene} (hs : stage.host.Sound)
    {assets : List String} {e : BuildError}
    (h : run ⟨Scene.host, setting, scene⟩ spec assets stage = .error (.build e) stage') :
    stage.host.OnlyCounted stage'.host ∧ stage'.files = stage.files ∧ stage'.out = stage.out := by
  unfold run at h
  dsimp only at h
  split at h
  · next fault bench hbuild =>
    cases h
    exact ⟨onlyCounted_of_buildAll_error setting scene spec hs hbuild, rfl, rfl⟩
  · -- All chains are built here, and what comes after does not end in a failed build.
    split at h
    · cases h
    · next failure last hsave =>
      cases h
      unfold saveScene at hsave
      split at hsave
      · cases hsave
      · split at hsave <;> cases hsave

end Session

/-- **All or nothing.** When a build fails on a reachable scene, and also when a run for any assets
ends in a failed build, the scene is as it was but for advanced counters, and a run has not come to
files or output. -/
theorem build_all_or_nothing {s : Scene} (hs : s.Reachable) (spec : PipelineSpec) :
    (∀ subs id e bench, build Scene.host spec subs ⟨s, id⟩ = .error e bench →
      s.OnlyCounted bench.host) ∧
    ∀ setting scene assets files out e stage,
      Session.run ⟨Scene.host, setting, scene⟩ spec assets ⟨s, files, out⟩ =
        .error (.build e) stage →
      s.OnlyCounted stage.host ∧ stage.files = files ∧ stage.out = out :=
  ⟨fun _ _ _ _ h => (onlyCounted_of_build_error hs.sound h).2,
    fun setting scene _ _ _ _ _ h => Session.onlyCounted_of_run_error setting scene spec hs.sound h⟩

def Scene.oneLoader : Scene := (Move.ask (.createNode "file")).apply standard

theorem build_all_or_nothing_unknown_check :
    Scene.oneLoader.Reachable ∧
    (∃ bench, build Scene.host (.ofChecks ["check_unknown"] {}) .empty ⟨.oneLoader, 4⟩ =
        .error (.unknownNodeType "check_unknown") bench ∧
      Scene.oneLoader.OnlyCounted bench.host) ∧
    ∃ stage, Session.run ⟨Scene.host, ⟨{}, ⟨"artist", "ws01"⟩, "2024-01-01T00:00:00"⟩, none⟩
        (.ofChecks ["check_unknown"] {}) ["a/b.fbx", "c.fbx"] ⟨.oneLoader, .empty ["work"], {}⟩ =
        .error (.build (.unknownNodeType "check_unknown")) stage ∧
      Scene.oneLoader.OnlyCounted stage.host ∧ stage.files = .empty ["work"] ∧ stage.out = {} := by
  have hs : Scene.oneLoader.Reachable := .move _ .standard
  obtain ⟨hbuild, hrun⟩ := build_all_or_nothing hs (.ofChecks ["check_unknown"] {})
  -- The loader that was made and removed again has been counted.
  let t : Scene := { Scene.oneLoader with named := [("file", 2)], lastHandle := 2 }
  refine ⟨hs, ⟨⟨t, 5⟩, rfl, ?_⟩, ⟨⟨t, .empty ["work"], {}⟩, rfl, ?_⟩⟩
  · exact hbuild .empty 4 (.unknownNodeType "check_unknown") ⟨t, 5⟩ rfl
  · exact hrun ⟨{}, ⟨"artist", "ws01"⟩, "2024-01-01T00:00:00"⟩ none ["a/b.fbx", "c.fbx"]
      (.empty ["work"]) {} (.unknownNodeType "check_unknown") ⟨t, .empty ["work"], {}⟩ rfl

end AssetCheck
