import AssetCheck.Proofs.Scene.Cooking
import AssetCheck.Proofs.Scene.Ways

/-!
# Handles and what they lead to

A handle is given out once. Over all that can be done to a scene, each new handle lies above those
given out before, also where nodes have been removed since (`Past`). A handle of a node that is
there leads to the node, to its type, and along inputs to nodes of the scene again, cycles included;
so a request is refused for a missing node or type only where one of its own is missing
(`missing_iff`). The laws together are `Lawful`, and each past leads to a scene that has them
(`lawful_of_past`).
-/

namespace AssetCheck

/-- The error says that a node or a type is not there. -/
def HostError.isMissing : HostError → Bool
  | .unknownNodeType _ | .unknownHandle _ => true
  | .failed _ | .cookFailed _ | .protocol _ | .io _ => false

namespace Request

/-- The nodes that a request is about. -/
def subjects : Request → List NodeHandle
  | .createNode _ | .layout => []
  | .connectInput node source => [source, node]
  | .setParameter parameter _ | .parameterValue parameter => [parameter.node]
  | .fireTrigger action => [action.node]
  | .destroyNode node | .nodeName node | .nodeType node | .findParameter node _
  | .findTrigger node _ | .cook node | .warnings node | .errors node | .inputs node => [node]

/-- A question about a node that has an answer for each node. -/
def isQuery : Request → Bool
  | .nodeName _ | .nodeType _ | .findParameter .. | .findTrigger .. | .warnings _ | .errors _
  | .inputs _ => true
  | _ => false

end Request

namespace Scene

/-- The scene has the type and the nodes that a request needs. -/
structure Has (s : Scene) (request : Request) : Prop where
  type : ∀ typeName, request = .createNode typeName →
    ∃ type, s.types.get? typeName = some type
  nodes : ∀ handle ∈ request.subjects, handle ∈ s.nodes.keys

/-! ## The past of a scene -/

/-- The handle that a move gives out. -/
def Move.given? (s : Scene) : Move → Option NodeHandle
  | .ask (.createNode typeName) =>
    match host.createNode typeName s with
    | .ok handle _ => some handle
    | .error _ _ => none
  | _ => none

/-- Moves lead to the scene from the empty one, and have given out these handles, in this order. -/
inductive Past : Scene → List NodeHandle → Prop
  | new : Past {} []
  | move {s : Scene} {given : List NodeHandle} (m : Move) : Past s given →
      Past (m.apply s) (given ++ (m.given? s).toList)

theorem given?_createNode {s : Scene} {typeName : String} {type : NodeType}
    (h : s.types.get? typeName = some type) :
    Move.given? s (.ask (.createNode typeName)) = some s.nextHandle := by
  have hcreate : host.createNode typeName s = _ := createNode_of_some h
  unfold Move.given?
  dsimp only
  rw [hcreate]

theorem exists_of_given? {s : Scene} {m : Move} {handle : NodeHandle}
    (h : m.given? s = some handle) :
    ∃ typeName type, m = .ask (.createNode typeName) ∧ s.types.get? typeName = some type ∧
      handle = s.nextHandle := by
  unfold Move.given? at h
  split at h
  · next typeName =>
    cases htype : s.types.get? typeName with
    | none =>
      have hcreate : host.createNode typeName s = _ := createNode_of_none htype
      rw [hcreate] at h
      cases h
    | some type =>
      have hcreate : host.createNode typeName s = _ := createNode_of_some htype
      rw [hcreate] at h
      cases h
      exact ⟨typeName, type, rfl, htype, rfl⟩
  · cases h

/-- The handles that were given out rise up to the counter, and nodes have handles that were. -/
structure GivenOut (s : Scene) (given : List NodeHandle) : Prop where
  rising : given.Pairwise (·.id < ·.id)
  le : ∀ handle ∈ given, handle.id ≤ s.lastHandle
  mem : ∀ handle ∈ s.nodes.keys, handle ∈ given

theorem GivenOut.lt_next {s : Scene} {given : List NodeHandle} (h : GivenOut s given) :
    ∀ earlier ∈ given, earlier.id < s.nextHandle.id :=
  fun earlier hmem => Nat.lt_succ_of_le (h.le earlier hmem)

/-- Every move keeps count of the handles that are given out. -/
theorem GivenOut.move {s : Scene} {given : List NodeHandle} (h : GivenOut s given) (m : Move) :
    GivenOut (m.apply s) (given ++ (m.given? s).toList) := by
  cases hgiven : m.given? s with
  | some handle =>
    obtain ⟨typeName, type, rfl, htype, rfl⟩ := exists_of_given? hgiven
    have hkeys := keys_add (s.counted typeName) s.nextHandle (s.newNode typeName type)
    rw [apply_createNode htype]
    refine ⟨?_, ?_, ?_⟩
    · exact List.pairwise_append.2 ⟨h.rising, List.pairwise_singleton _ _, fun earlier hmem =>
        List.forall_mem_singleton.2 (h.lt_next earlier hmem)⟩
    · refine List.forall_mem_append.2 ⟨fun handle hmem => ?_, List.forall_mem_singleton.2 ?_⟩
      · exact Nat.le_succ_of_le (h.le handle hmem)
      · exact Nat.le_refl _
    · rw [hkeys]
      refine List.forall_mem_append.2 ⟨fun handle hmem => ?_, List.forall_mem_singleton.2 ?_⟩
      · exact List.mem_append_left _ (h.mem handle hmem)
      · exact List.mem_append_right _ (List.mem_singleton.2 rfl)
  | none =>
    have heffect := effect_apply s m
    generalize m.apply s = t at heffect ⊢
    rw [Option.toList_none, List.append_nil]
    cases heffect with
    | still hgraph =>
      refine ⟨h.rising, ?_, ?_⟩
      · rw [hgraph.lastHandle]
        exact h.le
      · rw [hgraph.keys]
        exact h.mem
    | registered type => exact ⟨h.rising, h.le, h.mem⟩
    -- A node that is made gives out a handle, and none has been given out.
    | created htype =>
      rw [given?_createNode htype] at hgiven
      cases hgiven
    | removed _ =>
      refine ⟨h.rising, h.le, fun other hmem => ?_⟩
      rw [keys_without] at hmem
      exact h.mem other (List.mem_filter.1 hmem).1
    | connected _ _ =>
      refine ⟨h.rising, h.le, ?_⟩
      rw [keys_connected]
      exact h.mem

theorem Past.sound {s : Scene} {given : List NodeHandle} (h : Past s given) : Sound s := by
  induction h with
  | new => exact .empty
  | move m _ ih => exact ih.move m

theorem Past.givenOut {s : Scene} {given : List NodeHandle} (h : Past s given) :
    GivenOut s given := by
  induction h with
  | new => exact ⟨.nil, List.forall_mem_nil _, List.forall_mem_nil _⟩
  | move m _ ih => exact ih.move m

/-! ## What a node leads to -/

section Sound

variable {s : Scene} (hs : Sound s)

include hs

theorem Sound.exists_type {handle : NodeHandle} {n : SceneNode}
    (hn : s.nodes.get? handle = some n) : ∃ type, s.types.get? n.typeName = some type :=
  hs.typed handle n.typeName n.input (link?_of_get? hn)

theorem Sound.supply_live {handle : NodeHandle} (hmem : handle ∈ s.nodes.keys) :
    (∃ handles, s.supply handle = .ok handles ∧ ∀ other ∈ handles, other ∈ s.nodes.keys) ∨
    s.supply handle = .error (.failed ("cycle detected upstream of " ++ handle.label)) := by
  rcases hs.supply_cases hmem with ⟨handles, hway⟩ | ⟨-, hcycle⟩
  · exact .inl ⟨handles, hway.supply_eq, fun other => hway.mem_keys⟩
  · exact .inr hcycle

end Sound

/-! ## Requests -/

section Requests

variable {s : Scene} (hs : Sound s)

section Missing

variable {handle : NodeHandle} (hmem : handle ∉ s.nodes.keys)

include hmem

theorem query_of_not_mem {α : Type} (read : Scene → SceneNode → Except HostError α) :
    query (fun s => s.node handle >>= read s) s = .error (.unknownHandle handle.id) s := by
  unfold query
  dsimp only
  rw [node_of_not_mem hmem]
  rfl

theorem parameterValue_of_not_mem (name : String) :
    s.parameterValue ⟨handle, name⟩ = .error (.unknownHandle handle.id) := by
  unfold parameterValue
  dsimp only
  rw [node_of_not_mem hmem]
  rfl

theorem cook_of_not_mem : cook handle s = .error (.unknownHandle handle.id) s := by
  have hsupply : s.supply handle = .error (.unknownHandle handle.id) := by
    unfold supply
    rw [node_of_not_mem hmem]
    rfl
  unfold cook
  rw [hsupply]

end Missing

/-- A request about a node that is not there is refused for it. -/
theorem unknownHandle_of_not_mem {request : Request} {handle : NodeHandle}
    (hsubject : handle ∈ request.subjects) (hmem : handle ∉ s.nodes.keys) :
    ∃ id, host.perform request s = .error (.unknownHandle id) s := by
  have hnode := node_of_not_mem hmem
  show ∃ id, perform request s = _
  cases request with
  | createNode typeName | layout => cases hsubject
  -- The source is looked up first, so it is the one that is missed where both are missing.
  | connectInput node source =>
    by_cases hsource : source ∈ s.nodes.keys
    · obtain ⟨n, hn⟩ := Table.mem_keys_iff.1 hsource
      have hconnect : connectInput handle source s = .error (.unknownHandle handle.id) s := by
        unfold connectInput
        rw [node_of_get? hn, hnode]
      rcases List.mem_cons.1 hsubject with rfl | hsubject
      · exact absurd hsource hmem
      · cases List.mem_singleton.1 hsubject
        exact ⟨_, hconnect⟩
    · have hconnect : connectInput node source s = .error (.unknownHandle source.id) s := by
        unfold connectInput
        rw [node_of_not_mem hsource]
      exact ⟨_, hconnect⟩
  | destroyNode node =>
    cases List.mem_singleton.1 hsubject
    exact ⟨_, destroyNode_of_not_mem hmem⟩
  | setParameter parameter value =>
    cases List.mem_singleton.1 hsubject
    have hset : setParameter parameter value s = .error (.unknownHandle parameter.node.id) s := by
      unfold setParameter
      rw [parameterValue_of_not_mem hmem parameter.name]
    exact ⟨_, hset⟩
  | fireTrigger action =>
    cases List.mem_singleton.1 hsubject
    have hfire : fireTrigger action s = .error (.unknownHandle action.node.id) s := by
      unfold fireTrigger
      rw [hnode]
    exact ⟨_, hfire⟩
  | cook node =>
    cases List.mem_singleton.1 hsubject
    exact ⟨_, cook_of_not_mem hmem⟩
  | findTrigger node name =>
    cases List.mem_singleton.1 hsubject
    unfold perform typeOf
    simp only [bind_assoc]
    exact ⟨_, query_of_not_mem hmem _⟩
  | nodeName node | nodeType node | inputs node | findParameter node name | warnings node
  | errors node | parameterValue parameter =>
    cases List.mem_singleton.1 hsubject
    unfold perform
    exact ⟨_, query_of_not_mem hmem _⟩

theorem parameterValue_live {parameter : ParameterHandle}
    (hmem : parameter.node ∈ s.nodes.keys) :
    (∃ value, s.parameterValue parameter = .ok value) ∨
      ∃ reason, s.parameterValue parameter = .error (.failed reason) := by
  obtain ⟨n, hn⟩ := Table.mem_keys_iff.1 hmem
  unfold parameterValue
  rw [except_bind_ok (node_of_get? hn)]
  cases n.parameters.get? parameter.name with
  | some value => exact .inl ⟨value, rfl⟩
  | none => exact .inr ⟨_, rfl⟩

include hs

/-- A node of the scene has something to say, or nothing yet. -/
theorem Sound.exists_messages {handle : NodeHandle} (hmem : handle ∈ s.nodes.keys)
    (read : NodeType → List String) : ∃ lines, s.messages handle read = .ok lines := by
  obtain ⟨n, hn⟩ := Table.mem_keys_iff.1 hmem
  obtain ⟨type, htype⟩ := hs.exists_type hn
  unfold messages
  rw [except_bind_ok (node_of_get? hn)]
  by_cases hcooked : n.cooked = true
  · rw [if_pos hcooked, except_bind_ok (typeOf_of_get? hn htype)]
    exact ⟨_, rfl⟩
  · rw [if_neg hcooked]
    exact ⟨_, rfl⟩

/-- **Questions.** A question about a node of the scene is answered. -/
theorem Sound.exists_answer {request : Request} (hquery : request.isQuery = true)
    (hlive : ∀ handle ∈ request.subjects, handle ∈ s.nodes.keys) :
    ∃ a, host.perform request s = .ok a s := by
  show ∃ a, perform request s = _
  cases request with
  | nodeName node =>
    obtain ⟨n, hn⟩ := Table.mem_keys_iff.1 (hlive node (.head _))
    exact ⟨_, nodeName_eq hn⟩
  | nodeType node =>
    obtain ⟨n, hn⟩ := Table.mem_keys_iff.1 (hlive node (.head _))
    exact ⟨_, nodeType_eq hn⟩
  | inputs node =>
    obtain ⟨n, hn⟩ := Table.mem_keys_iff.1 (hlive node (.head _))
    exact ⟨_, inputs_eq hn⟩
  | findParameter node name =>
    obtain ⟨n, hn⟩ := Table.mem_keys_iff.1 (hlive node (.head _))
    exact ⟨_, findParameter_eq hn name⟩
  | findTrigger node name =>
    obtain ⟨n, hn⟩ := Table.mem_keys_iff.1 (hlive node (.head _))
    obtain ⟨type, htype⟩ := hs.exists_type hn
    exact ⟨_, findTrigger_eq hn htype name⟩
  | warnings node =>
    obtain ⟨lines, hlines⟩ := hs.exists_messages (hlive node (.head _)) (·.warnings)
    unfold perform
    exact ⟨lines, query_ok hlines⟩
  | errors node =>
    obtain ⟨lines, hlines⟩ := hs.exists_messages (hlive node (.head _)) (·.errors)
    unfold perform
    exact ⟨lines, query_ok hlines⟩
  | _ => cases hquery

/-- A request that has its nodes and its type is not refused for a missing one. -/
theorem Sound.not_missing {request : Request} (hhas : s.Has request) {e : HostError} {t : Scene}
    (herror : perform request s = .error e t) : e.isMissing = false := by
  cases request with
  | createNode typeName =>
    obtain ⟨type, htype⟩ := hhas.type typeName rfl
    cases (createNode_of_some htype).symm.trans herror
  | destroyNode node =>
    cases (destroyNode_of_mem (hhas.nodes node (.head _))).symm.trans herror
  | connectInput node source =>
    have hsource := hhas.nodes source (.head _)
    have hnode := hhas.nodes node (.tail _ (.head _))
    cases (connectInput_of_mem hsource hnode).symm.trans herror
  | fireTrigger action =>
    cases (fireTrigger_of_mem (hhas.nodes action.node (.head _))).symm.trans herror
  | layout => cases herror
  | setParameter parameter value =>
    have herror : setParameter parameter value s = .error e t := herror
    unfold setParameter at herror
    rcases parameterValue_live (hhas.nodes parameter.node (.head _)) with
      ⟨old, hold⟩ | ⟨reason, hreason⟩
    · rw [hold] at herror
      cases herror
    · rw [hreason] at herror
      cases herror
      rfl
  | parameterValue parameter =>
    unfold perform at herror
    rcases parameterValue_live (hhas.nodes parameter.node (.head _)) with
      ⟨value, hvalue⟩ | ⟨reason, hreason⟩
    · cases herror.symm.trans (query_ok hvalue)
    · cases herror.symm.trans (query_error hreason)
      rfl
  | cook node =>
    have herror : cook node s = .error e t := herror
    rcases hs.supply_live (hhas.nodes node (.head _)) with ⟨handles, hsupply, hlive⟩ | hcycle
    · rw [cook_eq hs hsupply hlive] at herror
      cases hfailed : (handles.filterMap s.failure?).getLast? <;>
        rw [hfailed] at herror <;> cases herror
      rfl
    · unfold cook at herror
      rw [hcycle] at herror
      cases herror
      rfl
  | nodeName node | nodeType node | inputs node | findParameter node name | findTrigger node name
  | warnings node | errors node =>
    obtain ⟨a, ha⟩ := hs.exists_answer rfl hhas.nodes
    cases ha.symm.trans herror

/-- **Missing.** A request is refused for a missing node or type just where it lacks one. -/
theorem Sound.missing_iff (request : Request) :
    (∃ e t, host.perform request s = .error e t ∧ e.isMissing = true) ↔ ¬ s.Has request := by
  constructor
  · rintro ⟨e, t, herror, hmissing⟩ hhas
    rw [hs.not_missing hhas herror] at hmissing
    cases hmissing
  · intro hhas
    by_cases hnodes : ∀ handle ∈ request.subjects, handle ∈ s.nodes.keys
    · by_cases htype : ∀ typeName, request = .createNode typeName →
          ∃ type, s.types.get? typeName = some type
      · exact absurd ⟨htype, hnodes⟩ hhas
      · obtain ⟨typeName, htype⟩ := Classical.not_forall.1 htype
        obtain ⟨rfl, hnone⟩ := Classical.not_imp.1 htype
        have htypes := Option.eq_none_iff_forall_ne_some.2 fun type h => hnone ⟨type, h⟩
        exact ⟨_, _, createNode_of_none htypes, rfl⟩
    · obtain ⟨handle, hnodes⟩ := Classical.not_forall.1 hnodes
      obtain ⟨hsubject, hmem⟩ := Classical.not_imp.1 hnodes
      obtain ⟨id, herror⟩ := unknownHandle_of_not_mem hsubject hmem
      exact ⟨_, _, herror, rfl⟩

end Requests

/-! ## The laws together -/

/-- The laws of a scene that has given out some handles. -/
structure Lawful (s : Scene) (given : List NodeHandle) : Prop where
  /-- No handle is given out twice. -/
  rising : given.Pairwise (·.id < ·.id)
  next : ∀ typeName handle, Move.given? s (.ask (.createNode typeName)) = some handle →
    ∀ earlier ∈ given, earlier.id < handle.id
  counted : ∀ handle ∈ s.nodes.keys, handle ∈ given ∧ 1 ≤ handle.id ∧ handle.id ≤ s.lastHandle
  inputs : ∀ handle input, s.Feeds handle input → input ∈ s.nodes.keys
  typed : ∀ handle n, s.nodes.get? handle = some n → ∃ type, s.types.get? n.typeName = some type
  missing : ∀ request, (∃ e t, host.perform request s = .error e t ∧ e.isMissing = true) ↔
    ¬ s.Has request
  answers : ∀ request, request.isQuery = true → s.Has request →
    ∃ a, host.perform request s = .ok a s
  /-- Along inputs, each step comes to a node that is found, and so is its type. -/
  steps : ∀ handle ∈ s.nodes.keys, ∀ other, Relation.ReflTransGen s.Feeds handle other →
    ∃ n type, s.node other = .ok n ∧ s.typeOf other = .ok type
  /-- The whole way is found, unless it is a cycle. -/
  supplies : ∀ handle ∈ s.nodes.keys,
    (∃ handles, s.supply handle = .ok handles ∧ ∀ other ∈ handles, other ∈ s.nodes.keys) ∨
    s.supply handle = .error (.failed ("cycle detected upstream of " ++ handle.label))

/-- **Handles.** Whatever has been done to a scene, it has the laws, with all the handles that were
given out on the way. -/
theorem lawful_of_past {s : Scene} {given : List NodeHandle} (h : Past s given) :
    s.Lawful given := by
  have hs := h.sound
  have hgiven := h.givenOut
  constructor
  case rising => exact hgiven.rising
  case next =>
    intro typeName handle hnext
    obtain ⟨_, _, _, _, rfl⟩ := exists_of_given? hnext
    exact hgiven.lt_next
  case counted => exact fun handle hmem => ⟨hgiven.mem handle hmem, hs.handles handle hmem⟩
  case inputs => exact fun handle input => hs.mem_of_feeds
  case typed => exact fun handle n => hs.exists_type
  case missing => exact hs.missing_iff
  case answers => exact fun request hquery hhas => hs.exists_answer hquery hhas.nodes
  case steps =>
    intro handle hmem other hsteps
    obtain ⟨n, hn⟩ := Table.mem_keys_iff.1 (hs.mem_of_feeds_star hmem hsteps)
    obtain ⟨type, htype⟩ := hs.exists_type hn
    exact ⟨n, type, node_of_get? hn, typeOf_of_get? hn htype⟩
  case supplies => exact fun handle => hs.supply_live

/-- Two nodes feed each other; one is removed, and the next one does not get its handle. -/
theorem lawful_after_removal :
    ∃ s given, Past s given ∧ given = [⟨1⟩, ⟨2⟩, ⟨3⟩] ∧ s.nodes.keys = [⟨2⟩, ⟨3⟩] ∧
      s.Lawful given := by
  have hpast := (((((Past.new.move (.register { name := "file" })).move
    (.ask (.createNode "file"))).move (.ask (.createNode "file"))).move
    (.ask (.connectInput ⟨1⟩ ⟨2⟩))).move (.ask (.connectInput ⟨2⟩ ⟨1⟩))).move
    (.ask (.destroyNode ⟨1⟩)) |>.move (.ask (.createNode "file"))
  exact ⟨_, _, hpast, by decide +kernel, by decide +kernel, lawful_of_past hpast⟩

end Scene

end AssetCheck
