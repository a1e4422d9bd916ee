import AssetCheck.Proofs.Build.Shape
import AssetCheck.Proofs.Collect.Diagnosed
import AssetCheck.Proofs.Run.Checks

/-!
# The loader of a check

The pipeline of a check begins with a node of the first loader type of the configuration. A
configuration need not have one: then the pipeline begins with a node of the usual type, which the
same configuration does not take for a loader. So the reports of a check leave their loader out
exactly if the configuration has a loader type (`check_loader`).
-/

namespace AssetCheck

/-- The type that the pipeline of a check begins with is one of a loader, if there is any. -/
theorem Config.isLoader_first (config : Config) :
    config.isLoader (config.loaderTypes.head?.getD "file") = true ↔ config.loaderTypes ≠ [] := by
  unfold isLoader
  cases config.loaderTypes with
  | nil => simp
  | cons type rest => simp

/-- Only the last node of a check presses anything. -/
theorem PipelineSpec.position_ofChecks {checks : List String} {config : Config} {position : Nat}
    {spec : NodeSpec} {name : String}
    (hspec : (ofChecks checks config).nodes[position]? = some spec)
    (hname : name ∈ spec.triggers) : position = checks.length + 1 := by
  unfold ofChecks at hspec
  rw [List.getElem?_append] at hspec
  split at hspec
  · have hmem := List.mem_of_getElem? hspec
    rcases List.mem_cons.1 hmem with rfl | hcheck
    · cases hname
    · obtain ⟨check, -, rfl⟩ := List.mem_map.1 hcheck
      cases hname
  · next hlen =>
    rw [List.getElem?_singleton] at hspec
    split at hspec
    · simp only [List.length_cons, List.length_map] at *
      omega
    · cases hspec

namespace Session

variable {σ : Type} {session : Session σ} {checks assets : List String} {bench bench' : Workbench σ}
  {built : List BuiltChain}

/-- **The loader.** On any host, the reports of a check hold the diagnostics of its nodes in order,
but for those with a type of loaders. The node that loads the asset is among these exactly if the
configuration names any type of loaders; if it names none, each report diagnoses it. -/
theorem check_loader
    (hbuild : session.buildAll (.ofChecks checks session.setting.config) assets bench =
      .ok built bench')
    {b : BuiltChain} (hb : b ∈ built) :
    ∃ loader, b.chain.node? 0 = some loader ∧
      (session.setting.config.isLoader loader.typeName = true ↔
        session.setting.config.loaderTypes ≠ []) ∧
      ∀ trigger ∈ b.triggers, ∀ host report host',
        Collect.fromChain session.host session.setting b.chain trigger.position host =
            .ok report host' →
          report.diagnostics.map (·.nodeType) = (loader.typeName :: checks).filter
            (fun type => !session.setting.config.isLoader type) ∧
          ((∃ d ∈ report.diagnostics, d.nodeType = loader.typeName) ↔
            session.setting.config.loaderTypes = []) := by
  have hshaped := shaped_of_buildAll hbuild b hb
  have htypes := hshaped.types
  rw [PipelineSpec.types_ofChecks] at htypes
  obtain ⟨loader, rest, hnodes⟩ : ∃ loader rest, b.chain.nodes = loader :: rest := by
    cases hnodes : b.chain.nodes with
    | nil => rw [hnodes] at htypes; cases htypes
    | cons loader rest => exact ⟨loader, rest, rfl⟩
  have hloader : loader.typeName = session.setting.config.loaderTypes.head?.getD "file" := by
    rw [hnodes] at htypes
    exact (List.cons.inj htypes).1
  have hfirst := session.setting.config.isLoader_first
  rw [← hloader] at hfirst htypes
  refine ⟨loader, by unfold Chain.node?; rw [hnodes]; rfl, hfirst,
    fun trigger htrigger host report host' hcollect => ?_⟩
  obtain ⟨spec, hspec, hname⟩ := hshaped.triggers trigger htrigger
  have htake : (loader.typeName :: checks ++ [session.setting.config.reportType]).take
      trigger.position = loader.typeName :: checks := by
    rw [PipelineSpec.position_ofChecks hspec hname]
    exact List.take_left' (List.length_cons ..)
  have hdiagnosed := Collect.nodeTypes_of_fromChain hshaped.linear hcollect
  rw [htypes, htake] at hdiagnosed
  refine ⟨hdiagnosed, ?_⟩
  have hmem : (∃ d ∈ report.diagnostics, d.nodeType = loader.typeName) ↔
      loader.typeName ∈ report.diagnostics.map (·.nodeType) := List.mem_map.symm
  rw [hmem, hdiagnosed, List.mem_filter]
  constructor
  · rintro ⟨-, hother⟩
    by_contra hsome
    rw [hfirst.2 hsome] at hother
    cases hother
  · intro hnone
    refine ⟨List.mem_cons_self, ?_⟩
    rw [Bool.not_eq_true', ← Bool.not_eq_true, hfirst]
    exact fun hsome => hsome hnone

end Session

/-- The chain of an asset without checks. -/
def BuiltChain.unchecked : BuiltChain where
  chain := ⟨0, "a.fbx",
    [⟨⟨1⟩, "file", 0, none, [⟨"file", .text "a.fbx", .token "$ASSET_INPUT_PATH"⟩]⟩,
      ⟨⟨2⟩, "report_json", 1, some 0,
        [⟨"json_path", .text "reports/a.fbx.json", .token "$REPORT_PATH"⟩]⟩]⟩
  triggers := [⟨0, 1, "report_json", "write", ⟨⟨2⟩, "write"⟩⟩]

def Scene.unchecked : Scene := { standard with
  named := [("file", 1), ("report_json", 1)], lastHandle := 2
  nodes :=
    [(⟨1⟩, ⟨"file1", "file", [("file", .text "a.fbx")], none, false⟩),
      (⟨2⟩, ⟨"report_json1", "report_json", [("json_path", .text "reports/a.fbx.json")], some ⟨1⟩,
        false⟩)] }

/-- With the usual configuration nothing is diagnosed where nothing is checked. -/
theorem Session.check_loader_unchecked :
    buildAll ⟨Scene.host, .quiet, none⟩ (.ofChecks [] Setting.quiet.config) ["a.fbx"]
        ⟨.standard, 0⟩ = .ok [.unchecked] ⟨.unchecked, 1⟩ ∧
      ∃ report t, Collect.fromChain Scene.host .quiet BuiltChain.unchecked.chain 1 .unchecked =
          .ok report t ∧
        report.diagnostics.map (·.nodeType) = [] := by
  have hbuild : buildAll ⟨Scene.host, .quiet, none⟩ (.ofChecks [] Setting.quiet.config) ["a.fbx"]
      ⟨.standard, 0⟩ = .ok [.unchecked] ⟨.unchecked, 1⟩ := rfl
  obtain ⟨report, t, hcollect⟩ : ∃ report t, Collect.fromChain Scene.host .quiet
      BuiltChain.unchecked.chain 1 .unchecked = .ok report t := ⟨_, _, rfl⟩
  obtain ⟨loader, hloader, -, hreports⟩ := check_loader hbuild List.mem_cons_self
  cases hloader
  exact ⟨hbuild, report, t, hcollect,
    (hreports _ List.mem_cons_self _ report t hcollect).1⟩

/-- A configuration file that names no type of loaders is read, and with it the same chain is built.
Its report diagnoses the loader, and therefore fails. -/
theorem Session.check_diagnoses_loader :
    ∃ config, Config.read "\x7b\"loader_types\": []\x7d" = .ok config ∧
      let setting : Setting := { Setting.quiet with config }
      buildAll ⟨Scene.host, setting, none⟩ (.ofChecks [] config) ["a.fbx"] ⟨.standard, 0⟩ =
          .ok [.unchecked] ⟨.unchecked, 1⟩ ∧
        ∃ report t, Collect.fromChain Scene.host setting BuiltChain.unchecked.chain 1 .unchecked =
            .ok report t ∧
          report.diagnostics = [⟨Verdict.silence, "file1", "file", .error⟩] ∧
          report.passed = false :=
  ⟨{ loaderTypes := [] }, rfl, rfl, _, _, rfl, rfl, rfl⟩

end AssetCheck
