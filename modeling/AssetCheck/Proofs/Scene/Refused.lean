import AssetCheck.Proofs.Scene.Cooked

/-!
# Requests that are refused

All that a request needs is looked up before anything is changed, so a request that is refused
leaves the scene as it was (`eq_of_perform_error`). Cooking is the one request that looks up nodes
and their types while it marks. On a sound scene it finds all of them, and so ends early in the one
way that is meant to leave marks, where a node fails (`Sound.eq_of_cook_error`).
-/

namespace AssetCheck.Scene

section Refused

variable {s t : Scene} {e : HostError}

theorem eq_of_query_error {α : Type} {answer : Scene → Except HostError α}
    (h : query answer s = .error e t) : t = s := by
  rw [← stateAfter_error h, stateAfter_query]

theorem eq_of_createNode_error {typeName : String} (h : createNode typeName s = .error e t) :
    t = s := by
  cases htype : s.types.get? typeName with
  | none => cases (createNode_of_none htype).symm.trans h; rfl
  | some type => cases (createNode_of_some htype).symm.trans h

theorem eq_of_destroyNode_error {handle : NodeHandle} (h : destroyNode handle s = .error e t) :
    t = s := by
  by_cases hmem : handle ∈ s.nodes.keys
  · cases (destroyNode_of_mem hmem).symm.trans h
  · cases (destroyNode_of_not_mem hmem).symm.trans h; rfl

theorem eq_of_connectInput_error {handle source : NodeHandle}
    (h : connectInput handle source s = .error e t) : t = s := by
  by_cases hmem : source ∈ s.nodes.keys ∧ handle ∈ s.nodes.keys
  · cases (connectInput_of_mem hmem.1 hmem.2).symm.trans h
  · rw [← stateAfter_error h, stateAfter_connectInput_of_not_mem hmem]

theorem eq_of_setParameter_error {parameter : ParameterHandle} {value : ParamValue}
    (h : setParameter parameter value s = .error e t) : t = s := by
  unfold setParameter at h
  cases hold : s.parameterValue parameter with
  | ok old => rw [hold] at h; cases h
  | error reason => rw [hold] at h; cases h; rfl

theorem eq_of_fireTrigger_error {action : ActionHandle} (h : fireTrigger action s = .error e t) :
    t = s := by
  unfold fireTrigger at h
  cases hnode : s.node action.node with
  | ok n => rw [hnode] at h; cases h
  | error reason => rw [hnode] at h; cases h; rfl

/-- Whatever else than a cooking is refused, the scene is as before. -/
theorem eq_of_perform_error {request : Request} (hcook : ∀ handle, request ≠ .cook handle)
    (h : perform request s = .error e t) : t = s := by
  cases request with
  | createNode typeName => exact eq_of_createNode_error h
  | destroyNode handle => exact eq_of_destroyNode_error h
  | connectInput handle source => exact eq_of_connectInput_error h
  | setParameter parameter value => exact eq_of_setParameter_error h
  | fireTrigger action => exact eq_of_fireTrigger_error h
  | cook handle => exact absurd rfl (hcook handle)
  | layout => cases h
  | nodeName handle | nodeType handle | inputs handle | findParameter handle name
  | findTrigger handle name | parameterValue parameter | warnings handle | errors handle =>
    unfold perform at h
    exact eq_of_query_error h

/-- A cooking that is refused before a node fails has marked nothing. -/
theorem Sound.eq_of_cook_error (hs : s.Sound) {handle : NodeHandle}
    (h : cook handle s = .error e t) (hfailed : ∀ reason, e ≠ .cookFailed reason) : t = s := by
  by_cases hmem : handle ∈ s.nodes.keys
  · by_cases hagain : s.Revisits handle
    · cases (hs.cook_of_revisits hagain).symm.trans h
      rfl
    · obtain ⟨nodes, hway⟩ := hs.exists_way hmem hagain
      rcases hs.cook_of_way hway with ⟨-, hok⟩ | ⟨name, -, herror⟩
      · cases hok.symm.trans h
      · cases herror.symm.trans h
        exact absurd rfl (hfailed _)
  · cases (cook_of_not_mem hmem).symm.trans h
    rfl

end Refused

/-- **Refusals.** What is refused on a reachable scene leaves the scene as it was, its counters and
its marks included, whatever the request. The one exception is a cooking in which a node failed.
Saving that fails may have touched files, but not the scene. -/
theorem refused_keeps_scene {s : Scene} (h : s.Reachable) :
    (∀ request e t, host.perform request s = .error e t →
      (∀ reason, e ≠ .cookFailed reason) → t = s) ∧
    ∀ path files e after, host.saveScene path (s, files) = .error e after → after.1 = s := by
  refine ⟨fun request e t herror hfailed => ?_, fun path files e after => eq_of_save_error⟩
  by_cases hcook : ∃ handle, request = .cook handle
  · obtain ⟨handle, rfl⟩ := hcook
    exact h.sound.eq_of_cook_error herror hfailed
  · exact eq_of_perform_error (fun handle heq => hcook ⟨handle, heq⟩) herror

/-- A cooking that comes to a cycle is refused, and so is a place to save that has no name. -/
theorem refused_keeps_scene_knotted :
    (knotted false).Reachable ∧
    (∃ e t, host.perform (.cook ⟨1⟩) (knotted false) = .error e t ∧
      (∀ reason, e ≠ .cookFailed reason) ∧ t = knotted false) ∧
    ∃ e after, host.saveScene "" (knotted false, .empty ["work"]) = .error e after ∧
      after.1 = knotted false := by
  obtain ⟨hask, hsave⟩ := refused_keeps_scene .knotted
  have hcycle : host.perform (.cook ⟨1⟩) (knotted false) =
      .error (.failed "cycle detected upstream of #1") (knotted false) := rfl
  have hplace : host.saveScene "" (knotted false, .empty ["work"]) =
      .error (.io .notFound) (knotted false, .empty ["work"]) := rfl
  have hother : ∀ reason, HostError.failed "cycle detected upstream of #1" ≠ .cookFailed reason :=
    fun reason heq => by cases heq
  exact ⟨.knotted, ⟨_, _, hcycle, hother, hask _ _ _ hcycle hother⟩, _, _, hplace,
    hsave _ _ _ _ hplace⟩

end AssetCheck.Scene
