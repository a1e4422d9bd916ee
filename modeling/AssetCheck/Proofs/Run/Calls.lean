import AssetCheck.Proofs.Build.Calls
import AssetCheck.Proofs.Collect.TwoHosts
import AssetCheck.Proofs.Run.Abreast

/-!
# The calls of a run

On a host that keeps its calls a run comes to the same end as on the host itself, with the same
files and output (`run_logged`): where two hosts give the same answers, each trigger comes to the
same on both (`attempt_beside`). So the calls of a run are those that such a host has kept
(`Session.calls`).
-/

namespace AssetCheck

/-- Stages that differ in their hosts only, which are related. -/
structure Stage.Beside {σ τ : Type} (R : σ → τ → Prop) (stage : Stage σ) (other : Stage τ) :
    Prop where
  host : R stage.host other.host
  files : other.files = stage.files
  out : other.out = stage.out

theorem Stage.Beside.abreast {σ τ : Type} (R : σ → τ → Prop) :
    Stage.Abreast (Stage.Beside R) where
  files := fun h => h.files
  out := fun h => h.out
  withFiles := fun h _ => { h with files := rfl }
  withOut := fun h _ => { h with out := rfl }

/-! ## Triggers on two hosts -/

section Beside

variable {σ τ : Type} {h : Host σ} {g : Host τ} {R : σ → τ → Prop}

namespace Hook

theorem onHost_beside {ε α : Type} {step : EStateM ε σ α} {other : EStateM ε τ α}
    (halike : Alike R step other) :
    Alike (Stage.Beside R) (Stage.onHost step) (Stage.onHost other) := by
  intro stage stage' hstage
  have hresult := halike stage.host stage'.host hstage.host
  unfold Stage.onHost
  revert hresult
  generalize step stage.host = left
  generalize other stage'.host = right
  rintro (hafter | hafter)
  · exact .ok { hstage with host := hafter }
  · exact .error { hstage with host := hafter }

variable (halike : ∀ request, Alike R (h.perform request) (g.perform request))
  (setting : Setting)

include halike

theorem reportPath_beside (trigger : Trigger) :
    Alike (Stage.Beside R) (reportPath h setting trigger) (reportPath g setting trigger) := by
  have hask := fun request => onHost_beside (Collect.ask_alike halike request)
  refine (hask (.findParameter trigger.action.node setting.config.reportParameter)).bind
    fun found => ?_
  cases found with
  | none => exact .throw _
  | some parameter => exact (hask (.parameterValue parameter)).bind fun _ => .pure _

theorem writeReport_beside (c : Chain) (trigger : Trigger) :
    Alike (Stage.Beside R) (writeReport h setting c trigger) (writeReport g setting c trigger) :=
  writeReport_alike (Stage.Beside.abreast R) (reportPath_beside halike setting trigger)
    (onHost_beside (Collect.fromChain_alike halike setting c trigger.position))

end Hook

namespace Firing

variable (halike : ∀ request, Alike R (h.perform request) (g.perform request))
  (setting : Setting) (chains : List Chain)

include halike

/-- **Two hosts.** With the same answers, an attempt of a trigger comes to the same. -/
theorem attempt_beside (trigger : Trigger) {stage : Stage σ} {other : Stage τ}
    (hstage : Stage.Beside R stage other) :
    (attempt h setting chains trigger stage).1 = (attempt g setting chains trigger other).1 ∧
      Stage.Beside R (attempt h setting chains trigger stage).2
        (attempt g setting chains trigger other).2 :=
  attempt_alike rfl (fun c _ => Hook.writeReport_beside halike setting c trigger _ _ hstage)
    (Hook.onHost_beside (halike (.fireTrigger trigger.action)) _ _ hstage) hstage

theorem fireAll_beside (triggers : List Trigger) {stage : Stage σ} {other : Stage τ}
    (hstage : Stage.Beside R stage other) :
    let left := fireAll h (Hooks.usual h setting.config) setting chains triggers stage
    let right := fireAll g (Hooks.usual g setting.config) setting chains triggers other
    left.1 = right.1 ∧ Stage.Beside R left.2 right.2 :=
  fireAll_alike (fun trigger _ _ _ h => attempt_beside halike setting chains trigger h) hstage

end Firing

end Beside

/-! ## A run that keeps its calls -/

/-- The host that has kept its calls is in the state of the other one. -/
def Host.Behind {σ : Type} (logged : σ × List Call) (host : σ) : Prop := logged.1 = host

def Stage.logged {σ : Type} (stage : Stage σ) : Stage (σ × List Call) :=
  { stage with host := (stage.host, []) }

theorem Host.perform_logged {σ : Type} (h : Host σ) (request : Request) :
    Alike Behind (h.logged.perform request) (h.perform request) := by
  rintro ⟨host, calls⟩ _ rfl
  cases hresult : h.perform request host with
  | ok a t =>
    rw [perform_logged_ok hresult]
    exact .ok rfl
  | error e t =>
    rw [perform_logged_error hresult]
    exact .error rfl

namespace Session

variable {σ : Type} (session : Session σ)

def logged : Session (σ × List Call) := { session with host := session.host.logged }

def calls (spec : PipelineSpec) (assets : List String) (stage : Stage σ) : List Call :=
  (stateAfter (session.logged.run spec assets) stage.logged).host.2

theorem buildAll_logged (spec : PipelineSpec) (assets : List String) :
    Alike (fun (b : Workbench (σ × List Call)) c => b.host.1 = c.host ∧ b.nextChain = c.nextChain)
      (session.logged.buildAll spec assets) (session.buildAll spec assets) := by
  induction assets with
  | nil => exact .pure []
  | cons asset rest ih =>
    unfold buildAll
    cases Substitutions.ofAsset asset with
    | error repeated => exact .throw _
    | ok subs =>
      exact (build_logged session.host spec subs).bind fun _ => ih.bind fun _ => .pure _

variable {stage : Stage (σ × List Call)} {other : Stage σ}

theorem arrange_logged (h : Stage.Beside Host.Behind stage other) :
    Stage.Beside Host.Behind (session.logged.arrange stage) (session.arrange other) := by
  have hresult := Hook.onHost_beside (session.host.perform_logged .layout) stage other h
  unfold arrange Host.layout logged
  revert hresult
  generalize Stage.onHost (session.host.logged.perform .layout) stage = left
  generalize Stage.onHost (session.host.perform .layout) other = right
  rintro (hafter | hafter) <;> exact hafter

theorem saveScene_logged :
    Alike (Stage.Beside Host.Behind) session.logged.saveScene session.saveScene := by
  intro stage other h
  obtain ⟨⟨host, calls⟩, files, out⟩ := stage
  obtain ⟨_, _, _⟩ := other
  obtain ⟨hhost, hfiles, hout⟩ := h
  cases hhost
  cases hfiles
  cases hout
  unfold saveScene logged
  dsimp only
  cases session.scene with
  | none => exact .ok ⟨rfl, rfl, rfl⟩
  | some path =>
    unfold Host.logged
    dsimp only
    cases session.host.saveScene path (host, files) with
    | ok _ after => exact .ok ⟨rfl, rfl, rfl⟩
    | error e after => exact .error ⟨rfl, rfl, rfl⟩

theorem finish_logged (built : List BuiltChain) (records : List Record) :
    Alike (Stage.Beside Host.Behind) (session.logged.finish built records)
      (session.finish built records) := fun _ _ h =>
  (session.saveScene_logged.bind fun _ => .pure _) _ _ (session.arrange_logged h)

/-- **Keeping calls.** A run on a host that keeps its calls comes to the same end. -/
theorem run_logged (spec : PipelineSpec) (assets : List String) :
    Alike (Stage.Beside Host.Behind) (session.logged.run spec assets)
      (session.run spec assets) := by
  intro stage other h
  have hbuilt := session.buildAll_logged spec assets ⟨stage.host, 0⟩ ⟨other.host, 0⟩ ⟨h.host, rfl⟩
  cases hright : session.buildAll spec assets ⟨other.host, 0⟩ with
  | error e bench' =>
    rw [hright] at hbuilt
    obtain ⟨bench, hleft, hbench, -⟩ := hbuilt.exists_error
    unfold run
    rw [hleft, hright]
    exact .error { h with host := hbench }
  | ok built bench' =>
    rw [hright] at hbuilt
    obtain ⟨bench, hleft, hbench, -⟩ := hbuilt.exists_ok
    have hstart : Stage.Beside Host.Behind { stage with host := bench.host }
        { other with host := bench'.host } := { h with host := hbench }
    have hfired := fun triggers => Firing.fireAll_beside session.host.perform_logged
      session.setting (built.map (·.chain)) triggers hstart
    have hrecords : session.logged.records built { stage with host := bench.host } = _ :=
      (hfired _).1
    rw [run_eq hleft, run_eq hright, hrecords]
    exact session.finish_logged built _ _ _ (hfired _).2

end Session

end AssetCheck
