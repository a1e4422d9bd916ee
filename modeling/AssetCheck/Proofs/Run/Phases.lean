import AssetCheck.Proofs.Build.Frame
import AssetCheck.Proofs.Build.InTurn
import AssetCheck.Proofs.Collect.Frame
import AssetCheck.Proofs.Run.Calls
import AssetCheck.Proofs.Run.Prefix

/-!
# The phases of a run

A run first builds and then acts. While chains are built no trigger is pressed and nothing is
cooked, arranged or saved (`Call.Quiet`); what is done afterwards makes no nodes, sets no parameters
and connects nothing, so no call that acts comes before one that shapes the graph
(`Call.InPhases`). A chain that cannot be built ends the run while it is still quiet
(`run_in_phases`). The host may be any.
-/

namespace AssetCheck

/-! ## Calls that shape and calls that act -/

namespace Call

/-- The call makes a node, sets a parameter or connects nodes. -/
def shapes : Call → Bool
  | .asked (.createNode _) _ | .asked (.setParameter ..) _ | .asked (.connectInput ..) _ => true
  | _ => false

/-- The call presses a trigger, or cooks, arranges or saves. -/
def acts : Call → Bool
  | .asked (.fireTrigger _) _ | .asked (.cook _) _ | .asked .layout _ | .saved .. => true
  | _ => false

/-- No call acts. -/
def Quiet (calls : List Call) : Prop := ∀ call ∈ calls, call.acts = false

/-- No call acts before one that shapes. -/
def InPhases (calls : List Call) : Prop :=
  calls.Pairwise fun earlier later => earlier.acts = true → later.shapes = false

theorem acts_of_builds {request : Request} (h : request.builds = true)
    (answer : Except HostError request.Answer) : (asked request answer).acts = false := by
  cases request <;> first | rfl | cases h

theorem shapes_of_collects {request : Request} (h : request.collects = true)
    (answer : Except HostError request.Answer) : (asked request answer).shapes = false := by
  cases request <;> first | rfl | cases h

variable {calls : List Call} {call : Call}

theorem Quiet.nil : Quiet [] := List.forall_mem_nil _

theorem Quiet.concat (h : Quiet calls) (hcall : call.acts = false) : Quiet (calls ++ [call]) :=
  List.forall_mem_append.2 ⟨h, List.forall_mem_singleton.2 hcall⟩

/-- A call that does not shape may come at any time. -/
theorem InPhases.concat (h : InPhases calls) (hcall : call.shapes = false) :
    InPhases (calls ++ [call]) :=
  List.pairwise_append.2 ⟨h, List.pairwise_singleton _ _, fun _ _ =>
    List.forall_mem_singleton.2 fun _ => hcall⟩

theorem Quiet.inPhases (h : Quiet calls) : InPhases calls :=
  (List.pairwise_of_forall_mem_list fun earlier hearlier _ _ hacts => by
    rw [h earlier hearlier] at hacts
    cases hacts)

end Call

section Logged

variable {σ : Type} {h : Host σ}

/-- What one more call keeps, the host that keeps its calls keeps. -/
theorem Host.perform_logged_keeps {P : List Call → Prop} {request : Request}
    (hcall : ∀ calls answer, P calls → P (calls ++ [.asked request answer])) :
    Keeps (fun logged => P logged.2) (h.logged.perform request) := by
  rintro ⟨host, calls⟩ hcalls
  cases hresult : h.perform request host with
  | ok a t =>
    rw [stateAfter_ok (perform_logged_ok hresult calls)]
    exact hcall calls _ hcalls
  | error e t =>
    rw [stateAfter_error (perform_logged_error hresult calls)]
    exact hcall calls _ hcalls

theorem Host.builds_quiet (request : Request) (hbuilds : request.builds = true) :
    Keeps (fun logged => Call.Quiet logged.2) (h.logged.perform request) :=
  perform_logged_keeps fun _ answer hquiet => hquiet.concat (Call.acts_of_builds hbuilds answer)

theorem Host.collects_inPhases (request : Request) (hcollects : request.collects = true) :
    Keeps (fun logged => Call.InPhases logged.2) (h.logged.perform request) :=
  perform_logged_keeps fun _ answer hphases =>
    hphases.concat (Call.shapes_of_collects hcollects answer)

end Logged

/-! ## What a run keeps -/

section Frame

variable {σ : Type} {h : Host σ} {P : σ → Prop}

theorem Session.buildAll_keeps {session : Session σ}
    (hkeep : ∀ request, request.builds = true → Keeps P (session.host.perform request))
    (spec : PipelineSpec) (assets : List String) :
    Keeps (fun bench : Workbench σ => P bench.host) (session.buildAll spec assets) := by
  induction assets with
  | nil => exact .pure []
  | cons asset rest ih =>
    unfold buildAll
    cases Substitutions.ofAsset asset with
    | error repeated => exact .throw _
    | ok subs => exact (build_keeps hkeep spec subs).bind fun _ => ih.bind fun _ => .pure _

namespace Hook

variable (hkeep : ∀ request, request.collects = true → Keeps P (h.perform request))

include hkeep

theorem reportPath_keeps_host (setting : Setting) (trigger : Trigger) :
    Keeps (fun stage => P stage.host) (reportPath h setting trigger) := by
  have hask := fun request hcollects =>
    onHost_keeps_host (Collect.ask_keeps hkeep request hcollects)
  refine (hask (.findParameter trigger.action.node setting.config.reportParameter) rfl).bind
    fun found => ?_
  cases found with
  | none => exact .throw _
  | some parameter => exact (hask (.parameterValue parameter) rfl).bind fun _ => .pure _

theorem writeReport_keeps_host (setting : Setting) (c : Chain) (trigger : Trigger) :
    Keeps (fun stage => P stage.host) (writeReport h setting c trigger) := by
  have hcollect := Collect.fromChain_keeps hkeep setting c trigger.position
  refine (reportPath_keeps_host hkeep setting trigger).bind fun path => ?_
  refine (onHost_keeps_host hcollect).bind fun report => ?_
  refine (onFiles_keeps_host _ P).bind fun _ => ?_
  split
  · exact (printReport_keeps_host report P).bind fun _ => .pure _
  · exact .pure _

end Hook

end Frame

/-- No call of the stage's host acts before one that shapes. -/
abbrev Stage.InPhases {σ : Type} (stage : Stage (σ × List Call)) : Prop :=
  Call.InPhases stage.host.2

namespace Session

variable {σ : Type} (session : Session σ)

theorem saveScene_inPhases : Keeps Stage.InPhases session.logged.saveScene := by
  rintro ⟨⟨host, calls⟩, files, out⟩ hphases
  unfold stateAfter saveScene logged
  dsimp only
  cases session.scene with
  | none => exact hphases
  | some path =>
    unfold Host.logged
    dsimp only
    cases session.host.saveScene path (host, files) with
    | ok _ after => exact Call.InPhases.concat hphases rfl
    | error e after => exact Call.InPhases.concat hphases rfl

theorem arrange_inPhases {stage : Stage (σ × List Call)} (hphases : stage.InPhases) :
    (session.logged.arrange stage).InPhases := by
  have hlayout : Keeps (fun logged => Call.InPhases logged.2)
      (session.host.logged.perform .layout) :=
    Host.perform_logged_keeps fun _ _ h => h.concat rfl
  have hafter := Hook.onHost_keeps_host hlayout stage hphases
  unfold stateAfter at hafter
  unfold arrange logged Host.layout
  cases hresult : Stage.onHost (session.host.logged.perform .layout) stage <;>
    rw [hresult] at hafter <;> exact hafter

theorem buildAll_quiet (spec : PipelineSpec) (assets : List String) (host : σ) :
    Call.Quiet (stateAfter (session.logged.buildAll spec assets) ⟨(host, []), 0⟩).host.2 :=
  buildAll_keeps (P := fun logged => Call.Quiet logged.2) Host.builds_quiet spec assets
    ⟨(host, []), 0⟩ Call.Quiet.nil

theorem stageAt_inPhases (built : List BuiltChain) {stage : Stage (σ × List Call)}
    (hphases : stage.InPhases) (i : Nat) : (session.logged.stageAt built stage i).InPhases := by
  refine Firing.stageAt_keeps (P := Stage.InPhases) (fun trigger _ stage hstage => ?_) hphases i
  have hpress : Keeps (fun logged => Call.InPhases logged.2)
      (session.host.logged.fireTrigger trigger.action) :=
    Host.perform_logged_keeps fun _ _ h => h.concat rfl
  exact Firing.attempt_keeps (P := Stage.InPhases) (Hook.onHost_keeps_host hpress)
    (fun c => Hook.writeReport_keeps_host Host.collects_inPhases _ c trigger) _ hstage

theorem quiet_of_buildAll_error {spec : PipelineSpec} {assets : List String} {stage : Stage σ}
    {e : BuildError} {bench : Workbench σ}
    (hbuild : session.buildAll spec assets ⟨stage.host, 0⟩ = .error e bench) :
    session.run spec assets stage = .error (.build e) { stage with host := bench.host } ∧
      Call.Quiet (session.calls spec assets stage) := by
  have hlogged := session.buildAll_logged spec assets ⟨(stage.host, []), 0⟩ ⟨stage.host, 0⟩
    ⟨rfl, rfl⟩
  rw [hbuild] at hlogged
  obtain ⟨bench', hleft, -⟩ := hlogged.exists_error
  have hquiet := session.buildAll_quiet spec assets stage.host
  rw [stateAfter_error hleft] at hquiet
  have hrun : session.logged.run spec assets stage.logged =
      .error (.build e) { stage.logged with host := bench'.host } := by
    unfold run Stage.logged
    rw [hleft]
  refine ⟨?_, ?_⟩
  · unfold run
    rw [hbuild]
  · unfold calls
    rw [stateAfter_error hrun]
    exact hquiet

theorem calls_inPhases (spec : PipelineSpec) (assets : List String) (stage : Stage σ) :
    Call.InPhases (session.calls spec assets stage) := by
  cases hbuild : session.buildAll spec assets ⟨stage.host, 0⟩ with
  | error e bench => exact (session.quiet_of_buildAll_error hbuild).2.inPhases
  | ok built bench =>
    have hlogged := session.buildAll_logged spec assets ⟨(stage.host, []), 0⟩ ⟨stage.host, 0⟩
      ⟨rfl, rfl⟩
    rw [hbuild] at hlogged
    obtain ⟨bench', hleft, -⟩ := hlogged.exists_ok
    have hquiet := session.buildAll_quiet spec assets stage.host
    rw [stateAfter_ok hleft] at hquiet
    -- None of the calls of building acts, and none of the calls from here on shapes.
    have hstart : Stage.InPhases { stage.logged with host := bench'.host } := hquiet.inPhases
    have hfired := session.stageAt_inPhases built hstart (built.flatMap (·.triggers)).length
    have hrun : session.logged.run spec assets stage.logged = _ := run_eq hleft
    unfold calls stateAfter
    rw [hrun]
    exact (session.saveScene_inPhases.bind fun _ => .pure _) _ (session.arrange_inPhases hfired)

/-- **Phases.** Keeping the calls of a run changes nothing else about it. No call presses a trigger,
cooks, arranges or saves before one that makes a node, sets a parameter or connects nodes. When the
chain of an asset cannot be built, then for this reason the run fails without any call that acts,
and leaves files and output as they are. -/
theorem run_in_phases (spec : PipelineSpec) (assets : List String) (stage : Stage σ) :
    SameResult (Stage.Beside Host.Behind) (session.logged.run spec assets stage.logged)
      (session.run spec assets stage) ∧
    Call.InPhases (session.calls spec assets stage) ∧
    ∀ earlier asset later subs built bench e bench', assets = earlier ++ asset :: later →
      session.buildAll spec earlier ⟨stage.host, 0⟩ = .ok built bench →
      Substitutions.ofAsset asset = .ok subs →
      build session.host spec subs bench = .error e bench' →
      session.run spec assets stage = .error (.build e) ⟨bench'.host, stage.files, stage.out⟩ ∧
      Call.Quiet (session.calls spec assets stage) := by
  refine ⟨?_, session.calls_inPhases spec assets stage, ?_⟩
  · exact session.run_logged spec assets stage.logged stage ⟨rfl, rfl, rfl⟩
  · rintro earlier asset later subs built bench e bench' rfl hearlier hsubs hbuild
    exact session.quiet_of_buildAll_error (buildAll_of_build_error hearlier hsubs hbuild)

end Session

def Host.limited (limit : Nat) : Host Scene :=
  { Scene.host with
    perform := fun
      | .createNode typeName => fun s =>
        if s.lastHandle < limit then Scene.host.createNode typeName s
        else .error (.failed "the scene is full") s
      | request => Scene.host.perform request }

def PipelineSpec.pressed : PipelineSpec := ⟨[⟨"file", []⟩, ⟨"report_json", [.press "write"]⟩]⟩

/-- There is room for the chain of one asset only, and its report is not written. -/
theorem run_in_phases_full_scene :
    let session : Session Scene := ⟨.limited 3, ⟨{}, ⟨"artist", "ws01"⟩, "08:00"⟩, some "scene"⟩
    let stage : Stage Scene := ⟨.standard, .empty ["work"], {}⟩
    (∃ s, session.run .pressed ["a.fbx", "b.fbx"] stage =
      .error (.build (.host (.failed "the scene is full"))) ⟨s, stage.files, stage.out⟩) ∧
    Call.Quiet (session.calls .pressed ["a.fbx", "b.fbx"] stage) ∧
    (session.calls .pressed ["a.fbx", "b.fbx"] stage).length = 7 := by
  intro session stage
  obtain ⟨first, hfirst, -⟩ := Substitutions.ofAsset_ok "a.fbx"
  obtain ⟨second, hsecond, -⟩ := Substitutions.ofAsset_ok "b.fbx"
  have hchain : session.buildAll .pressed ["a.fbx"] ⟨stage.host, 0⟩ = _ :=
    Session.buildAll_cons hfirst rfl rfl
  obtain ⟨-, -, hfailed⟩ := session.run_in_phases .pressed ["a.fbx", "b.fbx"] stage
  obtain ⟨hrun, hquiet⟩ := hfailed ["a.fbx"] "b.fbx" [] second _ _ _ _ rfl hchain hsecond rfl
  exact ⟨⟨_, hrun⟩, hquiet, by decide +kernel⟩

end AssetCheck
