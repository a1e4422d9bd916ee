import AssetCheck.Proofs.Run.Stages
import AssetCheck.Proofs.TwoRuns

/-!
# Two stages side by side

Where a relation of stages says the same of their files and output, and leaves open what these
become (`Stage.Abreast`), only the hosts can set two runs apart. A report is written alike if its
path is found alike and its chain is collected alike (`writeReport_alike`), and triggers in a row
come to the same if each of them does (`fireAll_alike`).
-/

namespace AssetCheck

variable {σ τ : Type} {S : Stage σ → Stage τ → Prop}

/-- Related stages have the same files and output, and stay related whatever these become. -/
structure Stage.Abreast (S : Stage σ → Stage τ → Prop) : Prop where
  files : ∀ {stage other}, S stage other → other.files = stage.files
  out : ∀ {stage other}, S stage other → other.out = stage.out
  withFiles : ∀ {stage other}, S stage other → ∀ files,
    S { stage with files } { other with files }
  withOut : ∀ {stage other}, S stage other → ∀ out, S { stage with out } { other with out }

/-! ## The hook of a report -/

namespace Hook

section Shared

variable (hS : Stage.Abreast S)

include hS

theorem onFiles_alike {ε α : Type} (step : EStateM ε FileTree α) :
    Alike S (Stage.onFiles step) (Stage.onFiles step) := by
  intro stage other hstage
  unfold Stage.onFiles
  rw [hS.files hstage]
  cases step stage.files with
  | ok a files => exact .ok (hS.withFiles hstage files)
  | error e files => exact .error (hS.withFiles hstage files)

theorem onOutput_alike {ε α : Type} (step : EStateM ε Output α) :
    Alike S (Stage.onOutput step) (Stage.onOutput step) := by
  intro stage other hstage
  unfold Stage.onOutput
  rw [hS.out hstage]
  cases step stage.out with
  | ok a out => exact .ok (hS.withOut hstage out)
  | error e out => exact .error (hS.withOut hstage out)

theorem printReport_alike (report : Report) :
    Alike S (printReport report) (printReport report) := by
  unfold printReport
  cases report.tree with
  | error e => exact .throw e
  | ok text => exact onOutput_alike hS _

/-- **Reports.** A report is written alike if it is collected alike for the same path. -/
theorem writeReport_alike {h : Host σ} {g : Host τ} {setting : Setting} {c : Chain}
    {trigger : Trigger}
    (hpath : Alike S (reportPath h setting trigger) (reportPath g setting trigger))
    (hcollect : Alike S (Stage.onHost (Collect.fromChain h setting c trigger.position))
      (Stage.onHost (Collect.fromChain g setting c trigger.position))) :
    Alike S (writeReport h setting c trigger) (writeReport g setting c trigger) := by
  refine hpath.bind fun path => hcollect.bind fun report => ?_
  refine (onFiles_alike hS (report.save path)).bind fun _ => ?_
  split
  · exact (printReport_alike hS report).bind fun _ => .pure _
  · exact .pure _

end Shared

end Hook

/-! ## Triggers -/

namespace Firing

variable {h : Host σ} {g : Host τ} {setting : Setting} {chains others : List Chain}
  {trigger : Trigger} {stage : Stage σ} {other : Stage τ}

theorem press_alike (hpress : SameResult S (Stage.onHost (h.fireTrigger trigger.action) stage)
      (Stage.onHost (g.fireTrigger trigger.action) other)) :
    (press h trigger stage).1 = (press g trigger other).1 ∧
      S (press h trigger stage).2 (press g trigger other).2 := by
  unfold press
  revert hpress
  generalize Stage.onHost (h.fireTrigger trigger.action) stage = left
  generalize Stage.onHost (g.fireTrigger trigger.action) other = right
  rintro (hafter | hafter) <;> exact ⟨rfl, hafter⟩

/-- An attempt comes to the same if the hook of its chain does, and if its press does. -/
theorem attempt_alike
    (hfind : others.find? (·.id = trigger.chain) = chains.find? (·.id = trigger.chain))
    (hhook : ∀ c, chains.find? (·.id = trigger.chain) = some c →
      SameResult S (Hook.writeReport h setting c trigger stage)
        (Hook.writeReport g setting c trigger other))
    (hpress : SameResult S (Stage.onHost (h.fireTrigger trigger.action) stage)
      (Stage.onHost (g.fireTrigger trigger.action) other))
    (hstage : S stage other) :
    (attempt h setting chains trigger stage).1 = (attempt g setting others trigger other).1 ∧
      S (attempt h setting chains trigger stage).2 (attempt g setting others trigger other).2 := by
  by_cases hreport : trigger.nodeType = setting.config.reportType ∧
      trigger.name = setting.config.reportTrigger
  · unfold attempt fire runHook
    rw [Hooks.get?_usual h hreport.1 hreport.2, Hooks.get?_usual g hreport.1 hreport.2, hfind]
    dsimp only
    cases hchain : chains.find? (·.id = trigger.chain) with
    | none => exact ⟨rfl, hstage⟩
    | some c =>
      have hresult := hhook c hchain
      dsimp only
      revert hresult
      generalize Hook.writeReport h setting c trigger stage = left
      generalize Hook.writeReport g setting c trigger other = right
      rintro (hafter | hafter) <;> exact ⟨rfl, hafter⟩
  · obtain ⟨houtcome, hafter⟩ := press_alike hpress
    rw [attempt_press h setting chains hreport, attempt_press g setting others hreport, houtcome]
    exact ⟨rfl, hafter⟩

/-- **Triggers in a row.** They come to the same if each of them does. -/
theorem fireAll_alike {triggers : List Trigger}
    (hattempt : ∀ trigger ∈ triggers, ∀ stage other, S stage other →
      (attempt h setting chains trigger stage).1 = (attempt g setting others trigger other).1 ∧
        S (attempt h setting chains trigger stage).2 (attempt g setting others trigger other).2)
    (hstage : S stage other) :
    let left := fireAll h (Hooks.usual h setting.config) setting chains triggers stage
    let right := fireAll g (Hooks.usual g setting.config) setting others triggers other
    left.1 = right.1 ∧ S left.2 right.2 := by
  induction triggers generalizing stage other with
  | nil => exact ⟨rfl, hstage⟩
  | cons trigger rest ih =>
    obtain ⟨hfirst, hrest⟩ := List.forall_mem_cons.1 hattempt
    obtain ⟨hrecord, hafter⟩ := hfirst stage other hstage
    obtain ⟨hrecords, hend⟩ := ih hrest hafter
    exact ⟨List.cons_eq_cons.2 ⟨hrecord, hrecords⟩, hend⟩

end Firing

end AssetCheck
