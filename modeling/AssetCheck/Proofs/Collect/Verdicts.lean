import AssetCheck.Proofs.Collect.Frame
import AssetCheck.Proofs.Scene.Cooking
import AssetCheck.Proofs.Traversal

/-!
# What is collected

On a scene that carries a chain, the report at a position of the chain is determined by what the
scene holds of the chain's nodes (`Scene.reportAt`), and collecting gives just this report and
leaves the chain cooked up to the position (`fromChain_eq`). Which nodes were cooked before does not
matter (`reportAt_marked`).
-/

namespace AssetCheck

/-- The nodes that give a diagnostic in the report at a position. -/
def Chain.diagnosed (c : Chain) (config : Config) (position : Nat) : List ChainNode :=
  (c.nodes.take position).filter fun node => !config.isLoader node.typeName

/-- Only the first warning of a node can be of no use. -/
theorem Verdict.exists_of_classify_error {name typeName : String} {warnings errors : List String}
    {config : Config} {e : ReportError}
    (h : classify name typeName warnings errors config = .error e) :
    ∃ warning others reason, warnings = warning :: others ∧
      e = .malformedWarning name warning reason := by
  unfold classify at h
  dsimp only at h
  split at h
  · cases h
  · split at h
    · next warning others =>
      split at h
      · cases h
      · cases h
        exact ⟨warning, others, _, rfl, rfl⟩
    · split at h <;> cases h

namespace Scene

/-- The verdict on a node by its name and by what its type says. -/
def verdict (s : Scene) (config : Config) (node : ChainNode) : Except ReportError Diagnostic := do
  let n ← (s.node node.handle).mapError .host
  let type ← (s.typeOf node.handle).mapError .host
  Verdict.classify n.name node.typeName type.warnings type.errors config

/-- The path that the first node before a position holds. -/
def assetPathAt (s : Scene) (config : Config) (c : Chain) (position : Nat) (terminal : NodeHandle) :
    Except ReportError String :=
  match (c.nodes.take position).head?.bind fun loader =>
      s.valueOf? loader.handle config.loaderParameter with
  | some value => .ok value.asPath
  | none => do
    let n ← (s.node terminal).mapError .host
    .error (.missingLoader n.name)

/-- The report at a position of a chain, by what the scene holds of the chain's nodes. -/
def reportAt (s : Scene) (setting : Setting) (c : Chain) (position : Nat) (terminal : NodeHandle) :
    Except ReportError Report := do
  let assetPath ← s.assetPathAt setting.config c position terminal
  let diagnostics ← (c.diagnosed setting.config position).mapM (s.verdict setting.config)
  return {
    assetPath, diagnostics
    cookSuccess := (c.handles.take (position + 1)).all fun handle => (s.failure? handle).isNone
    host := setting.identity.host
    timestamp := setting.now
    user := setting.identity.user
    version := Report.currentVersion }

theorem verdict_eq {s : Scene} {node : ChainNode} {n : SceneNode} {type : NodeType}
    (hn : s.nodes.get? node.handle = some n) (ht : s.types.get? n.typeName = some type)
    (config : Config) :
    s.verdict config node =
      Verdict.classify n.name node.typeName type.warnings type.errors config := by
  unfold verdict
  rw [node_of_get? hn, typeOf_of_get? hn ht]
  rfl

/-! ## What marks do not change -/

section Marked

variable (s : Scene) (handles : List NodeHandle)

theorem verdict_marked (config : Config) (node : ChainNode) :
    (s.marked handles).verdict config node = s.verdict config node := by
  unfold verdict
  rw [node_marked, typeOf_marked]
  cases s.node node.handle with
  | error e => rfl
  | ok n =>
    show ((s.typeOf node.handle).mapError .host >>= fun type =>
      Verdict.classify (markedNode handles node.handle n).name node.typeName type.warnings
        type.errors config) = _
    rw [name_markedNode]
    rfl

theorem valueOf?_marked (handle : NodeHandle) (name : String) :
    (s.marked handles).valueOf? handle name = s.valueOf? handle name := by
  unfold valueOf?
  rw [get?_marked]
  cases s.nodes.get? handle with
  | none => rfl
  | some n =>
    show (markedNode handles handle n).parameters.get? name = n.parameters.get? name
    rw [parameters_markedNode]

theorem assetPathAt_marked (config : Config) (c : Chain) (position : Nat) (terminal : NodeHandle) :
    (s.marked handles).assetPathAt config c position terminal =
      s.assetPathAt config c position terminal := by
  unfold assetPathAt
  simp only [valueOf?_marked, node_marked]
  cases (c.nodes.take position).head?.bind fun loader =>
      s.valueOf? loader.handle config.loaderParameter with
  | some value => rfl
  | none =>
    cases s.node terminal with
    | error e => rfl
    | ok n =>
      show Except.error (ReportError.missingLoader (markedNode handles terminal n).name) = _
      rw [name_markedNode]
      rfl

/-- **Reports and marks.** The report does not depend on which nodes have been cooked. -/
theorem reportAt_marked (setting : Setting) (c : Chain) (position : Nat) (terminal : NodeHandle) :
    (s.marked handles).reportAt setting c position terminal =
      s.reportAt setting c position terminal := by
  have hverdict : (s.marked handles).verdict setting.config = s.verdict setting.config :=
    funext (verdict_marked s handles setting.config)
  unfold reportAt
  simp only [assetPathAt_marked, hverdict, failure?_marked]

end Marked

/-- A node of a carried chain without a verdict has a warning that cannot be read. -/
theorem Carries.exists_of_verdict_error {s : Scene} {c : Chain} (h : s.Carries c) (hs : s.Sound)
    {config : Config} {node : ChainNode} (hnode : node ∈ c.nodes) {e : ReportError}
    (he : s.verdict config node = .error e) :
    ∃ n type warning others reason, s.nodes.get? node.handle = some n ∧
      s.types.get? node.typeName = some type ∧ type.warnings = warning :: others ∧
      e = .malformedWarning n.name warning reason := by
  obtain ⟨position, hposition⟩ := List.getElem?_of_mem hnode
  have hlink := h.link position node hposition
  obtain ⟨n, hn, hname, -⟩ := exists_get?_of_link? hlink
  obtain ⟨type, htype⟩ := hs.typed _ _ _ hlink
  rw [verdict_eq hn (hname ▸ htype)] at he
  obtain ⟨warning, others, reason, hwarnings, rfl⟩ := Verdict.exists_of_classify_error he
  exact ⟨n, type, warning, others, reason, hn, htype, hwarnings, rfl⟩

end Scene

/-! ## Collecting -/

namespace Collect

open Scene (host Carries Sound)

theorem cookSuccess_eq {s : Scene} {c : Chain} (h : s.Carries c) (hs : s.Sound) {position : Nat}
    {terminal : ChainNode} (hterminal : c.node? position = some terminal) :
    cookSuccess host terminal.handle s =
      .ok ((c.handles.take (position + 1)).all fun handle => (s.failure? handle).isNone)
        (s.marked (c.handles.take (position + 1))) := by
  have hcook : host.cook terminal.handle s = _ := h.cook_eq hs hterminal
  unfold cookSuccess
  rw [hcook]
  cases hfailed : (c.handles.take (position + 1)).findSome? s.failure? with
  | none =>
    have hall := List.findSome?_eq_none_iff.1 hfailed
    dsimp only
    rw [List.all_eq_true.2 fun handle hmem => by rw [hall handle hmem]; rfl]
  | some name =>
    obtain ⟨handle, hmem, hname⟩ := List.exists_of_findSome?_eq_some hfailed
    dsimp only
    rw [List.all_eq_false.2 ⟨handle, hmem, by rw [hname]; simp⟩]

section Nodes

variable {s : Scene} (hs : s.Sound) {handles : List NodeHandle} (setting : Setting)

theorem missingLoader_eq {α : Type} {terminal : NodeHandle} {n : SceneNode}
    (hn : s.nodes.get? terminal = some n) :
    (missingLoader host terminal : EStateM ReportError Scene α) s =
      .error (.missingLoader n.name) s := by
  have hname : nameOrLabel host terminal s = .ok n.name s := by
    unfold nameOrLabel
    rw [Scene.nodeName_eq hn]
  unfold missingLoader
  rw [bind_ok hname]
  rfl

theorem assetPath_eq {c : Chain} (position : Nat) {terminal : NodeHandle}
    (hterminal : terminal ∈ s.nodes.keys)
    (hlive : ∀ node ∈ c.nodes, node.handle ∈ s.nodes.keys) :
    assetPath host setting terminal
        ((c.nodes.take position).map fun node => (node.handle, node.typeName)) s =
      known (s.assetPathAt setting.config c position terminal) s := by
  obtain ⟨t, ht⟩ := Table.mem_keys_iff.1 hterminal
  unfold assetPath Scene.assetPathAt
  rw [Scene.node_of_get? ht]
  cases hnodes : c.nodes.take position with
  | nil => exact missingLoader_eq ht
  | cons loader rest =>
    have hmem : loader ∈ c.nodes.take position := hnodes ▸ List.mem_cons_self
    obtain ⟨n, hn⟩ := Table.mem_keys_iff.1 (hlive loader (List.mem_of_mem_take hmem))
    have hvalue : s.valueOf? loader.handle setting.config.loaderParameter =
        n.parameters.get? setting.config.loaderParameter := by
      unfold Scene.valueOf?
      rw [hn]
      rfl
    have hfind := ask_ok (Scene.findParameter_eq hn setting.config.loaderParameter)
    rw [List.head?_cons, Option.bind_some, hvalue, List.map_cons]
    dsimp only
    rw [bind_ok hfind]
    cases hv : n.parameters.get? setting.config.loaderParameter with
    | none =>
      rw [if_neg (Table.get?_eq_none_iff.1 hv)]
      exact missingLoader_eq ht
    | some value =>
      rw [if_pos (Table.mem_keys_iff.2 ⟨value, hv⟩)]
      dsimp only
      rw [bind_ok (ask_ok (Scene.parameterValue_eq hn hv))]
      rfl

include hs

theorem diagnostic_eq {node : ChainNode} (hlive : node.handle ∈ s.nodes.keys)
    (hmem : node.handle ∈ handles) :
    diagnostic host setting (node.handle, node.typeName) (s.marked handles) =
      known (s.verdict setting.config node) (s.marked handles) := by
  obtain ⟨n, hn⟩ := Table.mem_keys_iff.1 hlive
  obtain ⟨type, htype⟩ := hs.typed node.handle n.typeName n.input (Scene.link?_of_get? hn)
  have hmarked : (s.marked handles).nodes.get? node.handle =
      some (Scene.markedNode handles node.handle n) := by
    rw [Scene.get?_marked, hn]; rfl
  have htypes : (s.marked handles).types.get?
      (Scene.markedNode handles node.handle n).typeName = some type := by
    rw [Scene.typeName_markedNode]
    exact htype
  have hcooked := Scene.cooked_markedNode n hmem
  unfold diagnostic
  rw [bind_ok (ask_ok (Scene.nodeName_eq hmarked)),
    bind_ok (ask_ok (Scene.warnings_of_cooked hmarked htypes hcooked)),
    bind_ok (ask_ok (Scene.errors_of_cooked hmarked htypes hcooked)), Scene.name_markedNode,
    Scene.verdict_eq hn htype]
  cases Verdict.classify n.name node.typeName type.warnings type.errors setting.config <;> rfl

theorem diagnostics_eq (nodes : List ChainNode)
    (hnodes : ∀ node ∈ nodes, node.handle ∈ s.nodes.keys ∧ node.handle ∈ handles) :
    diagnostics host setting (nodes.map fun node => (node.handle, node.typeName))
        (s.marked handles) =
      known ((nodes.filter fun node => !setting.config.isLoader node.typeName).mapM
        (s.verdict setting.config)) (s.marked handles) := by
  induction nodes with
  | nil => rfl
  | cons node rest ih =>
    obtain ⟨⟨hlive, hmem⟩, hrest⟩ := List.forall_mem_cons.1 hnodes
    rw [List.map_cons]
    unfold diagnostics
    dsimp only
    by_cases hloader : setting.config.isLoader node.typeName = true
    · rw [if_pos hloader, List.filter_cons_of_neg (by simp [hloader]), ih hrest]
    · rw [if_neg hloader, List.filter_cons_of_pos (by simp [hloader]), List.mapM_cons]
      refine bind_known (diagnostic_eq hs setting hlive hmem) fun d => ?_
      exact bind_known (ih hrest) fun ds => rfl

end Nodes

/-- **Collecting.** The report at a position is the one that the scene determines; the chain is
cooked up to there, also if there is no report. -/
theorem fromChain_eq {s : Scene} {c : Chain} (h : s.Carries c) (hs : s.Sound) (setting : Setting)
    {position : Nat} {terminal : ChainNode} (hterminal : c.node? position = some terminal) :
    fromChain host setting c position s =
      known (s.reportAt setting c position terminal.handle)
        (s.marked (c.handles.take (position + 1))) := by
  have hlen := Chain.node?_lt hterminal
  have hlive : ∀ node ∈ c.nodes, node.handle ∈ s.nodes.keys := fun node hmem =>
    h.mem_keys (List.mem_map_of_mem hmem)
  have hbefore : ∀ node ∈ c.nodes.take position, node.handle ∈ s.nodes.keys ∧
      node.handle ∈ c.handles.take (position + 1) := by
    intro node hmem
    refine ⟨hlive node (List.mem_of_mem_take hmem), ?_⟩
    unfold Chain.handles
    rw [← List.map_take]
    exact List.mem_map_of_mem (List.take_subset_take_left c.nodes (Nat.le_succ position) hmem)
  have hmarked : ∀ node ∈ c.nodes,
      node.handle ∈ (s.marked (c.handles.take (position + 1))).nodes.keys := by
    rw [Scene.keys_marked]
    exact hlive
  have hpath := assetPath_eq setting position
    (hmarked terminal (List.mem_of_getElem? hterminal)) hmarked
  rw [Scene.assetPathAt_marked] at hpath
  unfold fromChain
  rw [hterminal, Chain.ancestors_of_linear h.linear hlen]
  show fromNodes host setting terminal.handle
    ((c.nodes.take position).map fun node => (node.handle, node.typeName)) s = _
  unfold fromNodes
  rw [bind_ok (cookSuccess_eq h hs hterminal)]
  refine bind_known hpath fun path => ?_
  exact bind_known (diagnostics_eq hs setting _ hbefore) fun ds => rfl

end Collect

end AssetCheck
