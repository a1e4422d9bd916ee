import AssetCheck.Host.Scene
import AssetCheck.Proofs.Step
import AssetCheck.Proofs.Table

/-!
# What can be done to a scene

A scene is reachable if registering types, answering requests and saving lead to it from the empty
one. Of a node the graph needs two things only, its type and its input (`Scene.link?`). Making,
removing and connecting nodes change the graph; all other requests leave it as it is, also those
that fail (`perform_sameGraph`). `Scene.Effect` lists what a move can do, so that an invariant has
to be looked at once for each of these effects (`effect_apply`).
-/

namespace AssetCheck

namespace Scene

/-- What is done to a scene from outside. -/
inductive Move
  | register (type : NodeType)
  | ask (request : Request)
  | save (path : String) (files : FileTree)

/-- The scene after a move, whether or not it went well. -/
def Move.apply (s : Scene) : Move → Scene
  | .register type => s.register type
  | .ask request => stateAfter (host.perform request) s
  | .save path files => (stateAfter (host.saveScene path) (s, files)).1

/-- The scenes that moves lead to from the empty one. -/
inductive Reachable : Scene → Prop
  | new : Reachable {}
  | move {s : Scene} (m : Move) : Reachable s → Reachable (m.apply s)

theorem Reachable.standard : Reachable standard :=
  .move
    (.register
      { name := "report_json", parameters := [("json_path", .text "")], triggers := ["write"] })
    (.move (.register { name := "file", parameters := [("file", .text "")] }) .new)

/-! ## Nodes -/

theorem node_of_get? {s : Scene} {handle : NodeHandle} {n : SceneNode}
    (h : s.nodes.get? handle = some n) : s.node handle = .ok n := by
  unfold node; rw [h]

theorem node_of_not_mem {s : Scene} {handle : NodeHandle} (h : handle ∉ s.nodes.keys) :
    s.node handle = .error (.unknownHandle handle.id) := by
  unfold node; rw [Table.get?_eq_none_iff.2 h]

theorem typeOf_of_get? {s : Scene} {handle : NodeHandle} {n : SceneNode} {type : NodeType}
    (hn : s.nodes.get? handle = some n) (ht : s.types.get? n.typeName = some type) :
    s.typeOf handle = .ok type := by
  unfold typeOf
  rw [except_bind_ok (node_of_get? hn), ht]

def link? (s : Scene) (handle : NodeHandle) : Option (String × Option NodeHandle) :=
  (s.nodes.get? handle).map fun n => (n.typeName, n.input)

theorem link?_of_get? {s : Scene} {handle : NodeHandle} {n : SceneNode}
    (h : s.nodes.get? handle = some n) : s.link? handle = some (n.typeName, n.input) := by
  unfold link?; rw [h]; rfl

theorem exists_get?_of_link? {s : Scene} {handle : NodeHandle} {typeName : String}
    {input : Option NodeHandle} (h : s.link? handle = some (typeName, input)) :
    ∃ n, s.nodes.get? handle = some n ∧ n.typeName = typeName ∧ n.input = input := by
  obtain ⟨n, hn, hl⟩ := Option.map_eq_some_iff.1 h
  exact ⟨n, hn, congrArg Prod.fst hl, congrArg Prod.snd hl⟩

theorem mem_keys_iff_link? {s : Scene} {handle : NodeHandle} :
    handle ∈ s.nodes.keys ↔ ∃ link, s.link? handle = some link := by
  rw [Table.mem_keys_iff]
  constructor
  · rintro ⟨n, hn⟩
    exact ⟨_, link?_of_get? hn⟩
  · rintro ⟨link, hl⟩
    obtain ⟨n, hn, _⟩ := exists_get?_of_link? hl
    exact ⟨n, hn⟩

/-! ## Operations that change the graph -/

def nextHandle (s : Scene) : NodeHandle := ⟨s.lastHandle + 1⟩

def counted (s : Scene) (typeName : String) : Scene :=
  { s with
    named := s.named.insert typeName ((s.named.get? typeName).getD 0 + 1)
    lastHandle := s.lastHandle + 1 }

/-- How many nodes of a type have been counted. -/
def count (s : Scene) (typeName : String) : Nat := (s.named.get? typeName).getD 0

theorem count_counted (s : Scene) (typeName other : String) :
    (s.counted typeName).count other = if typeName = other then s.count typeName + 1
      else s.count other := by
  show ((s.named.insert typeName _).get? other).getD 0 = _
  rw [Table.get?_insert]
  split <;> rfl

theorem count_le_counted (s : Scene) (typeName other : String) :
    s.count other ≤ (s.counted typeName).count other := by
  rw [count_counted]
  split
  case isTrue htype =>
    subst htype
    exact Nat.le_succ _
  case isFalse => exact Nat.le_refl _

def add (s : Scene) (handle : NodeHandle) (n : SceneNode) : Scene :=
  { s with nodes := s.nodes ++ [(handle, n)] }

/-- A node as a type makes it. -/
def newNode (s : Scene) (typeName : String) (type : NodeType) : SceneNode :=
  { name := typeName ++ toString ((s.named.get? typeName).getD 0 + 1)
    typeName
    parameters := Table.ofList type.parameters
    input := none
    cooked := false }

theorem createNode_of_none {s : Scene} {typeName : String} (h : s.types.get? typeName = none) :
    createNode typeName s = .error (.unknownNodeType typeName) s := by
  unfold createNode; rw [h]

theorem createNode_of_some {s : Scene} {typeName : String} {type : NodeType}
    (h : s.types.get? typeName = some type) :
    createNode typeName s =
      .ok s.nextHandle ((s.counted typeName).add s.nextHandle (s.newNode typeName type)) := by
  unfold createNode; rw [h]; rfl

theorem apply_createNode {s : Scene} {typeName : String} {type : NodeType}
    (h : s.types.get? typeName = some type) :
    Move.apply s (.ask (.createNode typeName)) =
      (s.counted typeName).add s.nextHandle (s.newNode typeName type) :=
  stateAfter_ok (createNode_of_some h)

def detached (handle : NodeHandle) (n : SceneNode) : SceneNode :=
  if n.input = some handle then { n with input := none } else n

def without (s : Scene) (handle : NodeHandle) : Scene :=
  { s with nodes := (s.nodes.erase handle).map fun entry => (entry.1, detached handle entry.2) }

theorem destroyNode_of_mem {s : Scene} {handle : NodeHandle} (h : handle ∈ s.nodes.keys) :
    destroyNode handle s = .ok () (s.without handle) := by
  obtain ⟨n, hn⟩ := Table.mem_keys_iff.1 h
  unfold destroyNode; rw [node_of_get? hn]; rfl

theorem destroyNode_of_not_mem {s : Scene} {handle : NodeHandle} (h : handle ∉ s.nodes.keys) :
    destroyNode handle s = .error (.unknownHandle handle.id) s := by
  unfold destroyNode; rw [node_of_not_mem h]

def connected (s : Scene) (handle source : NodeHandle) : Scene :=
  s.updateNode handle fun n => { n with input := some source }

theorem connectInput_of_mem {s : Scene} {handle source : NodeHandle} (hs : source ∈ s.nodes.keys)
    (h : handle ∈ s.nodes.keys) :
    connectInput handle source s = .ok () (s.connected handle source) := by
  obtain ⟨m, hm⟩ := Table.mem_keys_iff.1 hs
  obtain ⟨n, hn⟩ := Table.mem_keys_iff.1 h
  unfold connectInput; rw [node_of_get? hm, node_of_get? hn]; rfl

theorem stateAfter_connectInput_of_not_mem {s : Scene} {handle source : NodeHandle}
    (h : ¬ (source ∈ s.nodes.keys ∧ handle ∈ s.nodes.keys)) :
    stateAfter (connectInput handle source) s = s := by
  by_cases hs : source ∈ s.nodes.keys
  · obtain ⟨m, hm⟩ := Table.mem_keys_iff.1 hs
    refine stateAfter_error (e := .unknownHandle handle.id) ?_
    unfold connectInput
    rw [node_of_get? hm, node_of_not_mem fun hk => h ⟨hs, hk⟩]
  · refine stateAfter_error (e := .unknownHandle source.id) ?_
    unfold connectInput
    rw [node_of_not_mem hs]

/-! ## Operations on one node -/

theorem nodes_updateNode (s : Scene) (handle : NodeHandle) (change : SceneNode → SceneNode) :
    (s.updateNode handle change).nodes =
      s.nodes.map fun entry => (entry.1, if entry.1 = handle then change entry.2 else entry.2) := by
  unfold updateNode
  refine List.map_congr_left fun entry _ => ?_
  by_cases h : entry.1 = handle
  · rw [if_pos h, if_pos h]
  · rw [if_neg h, if_neg h]

@[simp] theorem keys_updateNode (s : Scene) (handle : NodeHandle) (change : SceneNode → SceneNode) :
    (s.updateNode handle change).nodes.keys = s.nodes.keys := by
  rw [nodes_updateNode]
  exact Table.keys_map_values s.nodes fun key n => if key = handle then change n else n

theorem get?_updateNode (s : Scene) (handle : NodeHandle) (change : SceneNode → SceneNode)
    (other : NodeHandle) :
    (s.updateNode handle change).nodes.get? other =
      (s.nodes.get? other).map fun n => if other = handle then change n else n := by
  rw [nodes_updateNode]
  exact Table.get?_map_values s.nodes (fun key n => if key = handle then change n else n) other

/-! ## The graph that stays -/

/-- Two scenes have the same nodes with the same types and inputs, and know the same types. -/
structure SameGraph (s t : Scene) : Prop where
  types : t.types = s.types
  named : t.named = s.named
  lastHandle : t.lastHandle = s.lastHandle
  keys : t.nodes.keys = s.nodes.keys
  link : ∀ handle, t.link? handle = s.link? handle

theorem SameGraph.refl (s : Scene) : SameGraph s s := ⟨rfl, rfl, rfl, rfl, fun _ => rfl⟩

theorem SameGraph.trans {s t u : Scene} (h : SameGraph s t) (h' : SameGraph t u) : SameGraph s u :=
  ⟨h'.types.trans h.types, h'.named.trans h.named, h'.lastHandle.trans h.lastHandle,
    h'.keys.trans h.keys, fun handle => (h'.link handle).trans (h.link handle)⟩

/-- A change to one node keeps the graph if it keeps the node's type and input. -/
theorem SameGraph.updateNode (s : Scene) (handle : NodeHandle) {change : SceneNode → SceneNode}
    (h : ∀ n, (change n).typeName = n.typeName ∧ (change n).input = n.input) :
    SameGraph s (s.updateNode handle change) := by
  refine ⟨rfl, rfl, rfl, keys_updateNode s handle change, fun other => ?_⟩
  unfold link?
  rw [get?_updateNode]
  cases s.nodes.get? other with
  | none => rfl
  | some n =>
    by_cases ho : other = handle
    · simp [ho, h n]
    · simp [ho]

theorem stateAfter_query {α : Type} (answer : Scene → Except HostError α) (s : Scene) :
    stateAfter (query answer) s = s := by
  unfold stateAfter query
  cases answer s <;> rfl

theorem setParameter_sameGraph (parameter : ParameterHandle) (value : ParamValue) (s : Scene) :
    SameGraph s (stateAfter (setParameter parameter value) s) := by
  unfold stateAfter setParameter
  cases s.parameterValue parameter with
  | error e => exact .refl s
  | ok old => exact SameGraph.updateNode s parameter.node fun n => ⟨rfl, rfl⟩

theorem fireTrigger_sameGraph (action : ActionHandle) (s : Scene) :
    SameGraph s (stateAfter (fireTrigger action) s) := by
  unfold stateAfter fireTrigger
  cases s.node action.node with
  | error e => exact .refl s
  | ok n => exact ⟨rfl, rfl, rfl, rfl, fun _ => rfl⟩

theorem markCooked_sameGraph (handles : List NodeHandle) (failed : Option String) (s : Scene) :
    SameGraph s (stateAfter (markCooked failed handles) s) := by
  induction handles generalizing failed s with
  | nil => exact .refl s
  | cons handle rest ih =>
    unfold stateAfter markCooked
    cases s.node handle with
    | error e => exact .refl s
    | ok n =>
      cases s.typeOf handle with
      | error e => exact .refl s
      | ok type =>
        have hmark : SameGraph s (s.updateNode handle fun n => { n with cooked := true }) :=
          .updateNode s handle fun n => ⟨rfl, rfl⟩
        exact hmark.trans (ih _ _)

theorem stateAfter_cook {s : Scene} {handle : NodeHandle} {handles : List NodeHandle}
    (h : s.supply handle = .ok handles) :
    stateAfter (cook handle) s = stateAfter (markCooked none handles) s := by
  unfold stateAfter cook
  rw [h]
  dsimp only
  cases markCooked none handles s with
  | error e t => rfl
  | ok failed t => cases failed <;> rfl

theorem cook_sameGraph (handle : NodeHandle) (s : Scene) :
    SameGraph s (stateAfter (cook handle) s) := by
  cases h : s.supply handle with
  | error e =>
    have hc : cook handle s = .error e s := by unfold cook; rw [h]
    rw [stateAfter_error hc]
    exact .refl s
  | ok handles =>
    rw [stateAfter_cook h]
    exact markCooked_sameGraph handles none s

theorem eq_of_save_ok {path : String} {s : Scene} {files : FileTree} {after : Scene × FileTree}
    (h : save path (s, files) = .ok () after) :
    after.1 = { s with saved := s.saved ++ [path] } := by
  unfold save at h
  dsimp only at h
  split at h <;> cases h
  rfl

theorem eq_of_save_error {path : String} {s : Scene} {files : FileTree} {e : HostError}
    {after : Scene × FileTree} (h : save path (s, files) = .error e after) : after.1 = s := by
  unfold save at h
  dsimp only at h
  split at h <;> cases h
  rfl

theorem save_sameGraph (path : String) (files : FileTree) (s : Scene) :
    SameGraph s (stateAfter (save path) (s, files)).1 := by
  cases h : save path (s, files) with
  | error e after =>
    rw [stateAfter_error h, eq_of_save_error h]
    exact .refl s
  | ok _ after =>
    rw [stateAfter_ok h, eq_of_save_ok h]
    exact ⟨rfl, rfl, rfl, rfl, fun _ => rfl⟩

/-- The request makes, removes or connects nodes. -/
def changesGraph : Request → Bool
  | .createNode _ | .destroyNode _ | .connectInput .. => true
  | _ => false

/-- **Frame.** A request that does not make, remove or connect nodes leaves the graph as it is. -/
theorem perform_sameGraph {request : Request} (h : changesGraph request = false) (s : Scene) :
    SameGraph s (stateAfter (perform request) s) := by
  cases request with
  | createNode typeName => cases h
  | destroyNode handle => cases h
  | connectInput handle source => cases h
  | setParameter parameter value => exact setParameter_sameGraph parameter value s
  | fireTrigger action => exact fireTrigger_sameGraph action s
  | cook handle => exact cook_sameGraph handle s
  | layout => exact ⟨rfl, rfl, rfl, rfl, fun _ => rfl⟩
  | nodeName handle | nodeType handle | inputs handle =>
    unfold perform; rw [stateAfter_query]; exact .refl s
  | findParameter handle name | findTrigger handle name =>
    unfold perform; rw [stateAfter_query]; exact .refl s
  | parameterValue parameter => unfold perform; rw [stateAfter_query]; exact .refl s
  | warnings handle | errors handle => unfold perform; rw [stateAfter_query]; exact .refl s

/-! ## What a move does -/

/-- What a move has made of a scene. -/
inductive Effect (s : Scene) : Move → Scene → Prop
  | still {m : Move} {t : Scene} : SameGraph s t → Effect s m t
  | registered (type : NodeType) : Effect s (.register type) (s.register type)
  | created {typeName : String} {type : NodeType} : s.types.get? typeName = some type →
      Effect s (.ask (.createNode typeName))
        ((s.counted typeName).add s.nextHandle (s.newNode typeName type))
  | removed {handle : NodeHandle} : handle ∈ s.nodes.keys →
      Effect s (.ask (.destroyNode handle)) (s.without handle)
  | connected {handle source : NodeHandle} : source ∈ s.nodes.keys → handle ∈ s.nodes.keys →
      Effect s (.ask (.connectInput handle source)) (s.connected handle source)

theorem effect_of_unchanged {s t : Scene} (m : Move) (h : t = s) : Effect s m t :=
  .still (h ▸ .refl s)

/-- **Inversion.** Every move has one of these effects. -/
theorem effect_apply (s : Scene) (m : Move) : Effect s m (m.apply s) := by
  cases m with
  | register type => exact .registered type
  | save path files => exact .still (save_sameGraph path files s)
  | ask request =>
    show Effect s (.ask request) (stateAfter (perform request) s)
    cases hr : changesGraph request with
    | false => exact .still (perform_sameGraph hr s)
    | true =>
      cases request with
      | createNode typeName =>
        cases ht : s.types.get? typeName with
        | none => exact effect_of_unchanged _ (stateAfter_error (createNode_of_none ht))
        | some type => exact (stateAfter_ok (createNode_of_some ht)).symm ▸ .created ht
      | destroyNode handle =>
        by_cases hm : handle ∈ s.nodes.keys
        · exact (stateAfter_ok (destroyNode_of_mem hm)).symm ▸ .removed hm
        · exact effect_of_unchanged _ (stateAfter_error (destroyNode_of_not_mem hm))
      | connectInput handle source =>
        by_cases hm : source ∈ s.nodes.keys ∧ handle ∈ s.nodes.keys
        · exact (stateAfter_ok (connectInput_of_mem hm.1 hm.2)).symm ▸ .connected hm.1 hm.2
        · exact effect_of_unchanged _ (stateAfter_connectInput_of_not_mem hm)
      | _ => cases hr

end Scene

end AssetCheck
