import AssetCheck.Proofs.Build.Calls
import AssetCheck.Proofs.Chain.Carried
import AssetCheck.Proofs.Traversal

/-!
# What a build asks of a host

The host of a build can be anything: it can give out a handle twice, forget what it was asked, or
refuse to remove what it has made. Whatever it does, the build keeps to the handles that it was
given in its own course (`Call.Disciplined`), and its calls either set up the whole pipeline
(`Completed`), or come to the first call that fails and then only remove what was made
(`Abandoned`); its result tells which (`build_discipline`).

The invariant of the calls before the first failure is `Build.Orderly`; one that fails leaves them
`Build.Stopped`.
-/

namespace AssetCheck

/-! ## The discipline -/

/-- A request that a build may make after some calls: for a new node, for the parameters and
triggers of nodes that it has made, for links between these and for their removal, and to set a
parameter that it has found at one of them. -/
def Request.Allowed (past : List Call) : Request → Prop
  | .createNode _ => True
  | .destroyNode node | .findParameter node _ | .findTrigger node _ => node ∈ Call.made past
  | .connectInput node source => node ∈ Call.made past ∧ source ∈ Call.made past
  | .setParameter parameter _ =>
    ∃ node ∈ Call.made past, ∃ name, .asked (.findParameter node name) (.ok (some parameter)) ∈ past
  | .nodeName _ | .nodeType _ | .parameterValue _ | .fireTrigger _ | .cook _ | .warnings _
  | .errors _ | .inputs _ | .layout => False

namespace Call

/-- A call that a build may make after some calls. It never saves the scene. -/
def Allowed (past : List Call) : Call → Prop
  | .asked request _ => request.Allowed past
  | .saved .. => False

/-- Each call is allowed after those before it. -/
def Disciplined (calls : List Call) : Prop :=
  ∀ past call, past ++ [call] <+: calls → call.Allowed past

/-- A call with which the set-up of a node goes on: its answer is there and is not empty. -/
def carriesOn : Call → Bool
  | .asked (.createNode _) (.ok _) => true
  | .asked (.connectInput ..) (.ok _) => true
  | .asked (.findParameter ..) (.ok (some _)) => true
  | .asked (.setParameter ..) (.ok _) => true
  | .asked (.findTrigger ..) (.ok (some _)) => true
  | _ => false

/-- What is wrong with a pipeline or a host by a call for a node of some type. -/
def fault? (typeName : String) : Call → Option BuildError
  | .asked (.createNode _) (.error (.unknownNodeType _)) => some (.unknownNodeType typeName)
  | .asked (.findParameter _ name) (.ok none) => some (.unknownParameter typeName name)
  | .asked (.findTrigger _ name) (.ok none) => some (.unknownTrigger typeName name)
  | .asked _ (.error e) => some (.host e)
  | _ => none

/-- A call that asks for the removal of a node, whatever the answer. -/
def Removes (node : NodeHandle) (call : Call) : Prop :=
  ∃ answer, call = .asked (.destroyNode node) answer

end Call

open Call (Disciplined made typesAsked)

/-- The calls set up the nodes of a pipeline, and do nothing else. -/
def Completed (spec : PipelineSpec) (calls : List Call) : Prop :=
  (∀ call ∈ calls, call.carriesOn) ∧ typesAsked calls = spec.nodes.map (·.typeName)

/-- The calls set up the nodes of a pipeline until one of them fails for a reason. From there on
they remove the nodes made before, the last one first, and do nothing else. -/
def Abandoned (spec : PipelineSpec) (reason : BuildError) (calls : List Call) : Prop :=
  ∃ before failed undone done node rest,
    calls = before ++ failed :: undone ∧ spec.nodes = done ++ node :: rest ∧
    typesAsked (before ++ [failed]) = (done ++ [node]).map (·.typeName) ∧
    (∀ call ∈ before, call.carriesOn) ∧ failed.fault? node.typeName = some reason ∧
    List.Forall₂ Call.Removes (made before).reverse undone

namespace Call

variable {calls : List Call} {call : Call}

theorem made_append (calls later : List Call) : made (calls ++ later) = made calls ++ made later :=
  List.filterMap_append ..

theorem typesAsked_append (calls later : List Call) :
    typesAsked (calls ++ later) = typesAsked calls ++ typesAsked later :=
  List.filterMap_append ..

theorem Disciplined.nil : Disciplined [] := by
  intro past call hprefix
  have hlength := hprefix.length_le
  simp at hlength

theorem Disciplined.concat (h : Disciplined calls) (hcall : call.Allowed calls) :
    Disciplined (calls ++ [call]) := by
  intro past other hprefix
  rcases List.prefix_concat_iff.1 hprefix with heq | hbefore
  · obtain ⟨rfl, hlast⟩ := List.append_inj' heq rfl
    cases hlast
    exact hcall
  · exact h past other hbefore

end Call

/-- A request other than for a new node. -/
def Request.OfNodes : Request → Prop
  | .createNode _ => False
  | _ => True

section OfNodes

variable {request : Request} (h : request.OfNodes) (answer : Except HostError request.Answer)

include h

theorem Call.made?_of_nodes : (Call.asked request answer).made? = none := by
  cases request with
  | createNode typeName => exact h.elim
  | _ => rfl

theorem Call.typeAsked?_of_nodes : (Call.asked request answer).typeAsked? = none := by
  cases request with
  | createNode typeName => exact h.elim
  | _ => rfl

theorem Call.fault?_of_nodes (typeName : String) (e : HostError) :
    (Call.asked request (.error e)).fault? typeName = some (.host e) := by
  cases request with
  | createNode typeName => exact h.elim
  | _ => rfl

end OfNodes

namespace Build

/-! ## Before the first failure -/

/-- All calls so far went well: they asked for nodes of these types and made these nodes, which are
listed from the last one. -/
structure Orderly (types : List String) (created : List NodeHandle) (calls : List Call) : Prop where
  disciplined : Disciplined calls
  carried : ∀ call ∈ calls, call.carriesOn
  made_eq : made calls = created.reverse
  types_eq : typesAsked calls = types

/-- All calls but the last one went well, and that one gives a reason to stop. -/
def Stopped (types : List String) (typeName : String) (reason : BuildError)
    (created : List NodeHandle) (calls : List Call) : Prop :=
  ∃ before failed, calls = before ++ [failed] ∧ Disciplined calls ∧ typesAsked calls = types ∧
    (∀ call ∈ before, call.carriesOn) ∧ made before = created.reverse ∧
    failed.fault? typeName = some reason

namespace Orderly

variable {types : List String} {created : List NodeHandle} {calls : List Call}

theorem start : Orderly [] [] [] := ⟨.nil, List.forall_mem_nil _, rfl, rfl⟩

theorem mem_made (h : Orderly types created calls) {node : NodeHandle} (hnode : node ∈ created) :
    node ∈ made calls := by
  rw [h.made_eq]
  exact List.mem_reverse.2 hnode

theorem create (h : Orderly types created calls) (typeName : String) (node : NodeHandle) :
    Orderly (types ++ [typeName]) (node :: created)
      (calls ++ [.asked (.createNode typeName) (.ok node)]) where
  disciplined := h.disciplined.concat trivial
  carried := List.forall_mem_append.2 ⟨h.carried, List.forall_mem_singleton.2 rfl⟩
  made_eq := by
    rw [Call.made_append, h.made_eq, List.reverse_cons]
    rfl
  types_eq := by
    rw [Call.typesAsked_append, h.types_eq]
    rfl

variable {request : Request}

theorem ask (h : Orderly types created calls) (hnodes : request.OfNodes)
    (hallowed : request.Allowed calls) {a : request.Answer}
    (ha : (Call.asked request (.ok a)).carriesOn) :
    Orderly types created (calls ++ [.asked request (.ok a)]) where
  disciplined := h.disciplined.concat hallowed
  carried := List.forall_mem_append.2 ⟨h.carried, List.forall_mem_singleton.2 ha⟩
  made_eq := by
    rw [Call.made_append, h.made_eq]
    unfold Call.made
    rw [List.filterMap_cons_none (Call.made?_of_nodes hnodes _)]
    exact List.append_nil _
  types_eq := by
    rw [Call.typesAsked_append, h.types_eq]
    unfold Call.typesAsked
    rw [List.filterMap_cons_none (Call.typeAsked?_of_nodes hnodes _)]
    exact List.append_nil _

theorem stop (h : Orderly types created calls) (hnodes : request.OfNodes)
    (hallowed : request.Allowed calls) {answer : Except HostError request.Answer}
    {typeName : String} {reason : BuildError}
    (hfault : (Call.asked request answer).fault? typeName = some reason) :
    Stopped types typeName reason created (calls ++ [.asked request answer]) := by
  refine ⟨calls, _, rfl, h.disciplined.concat hallowed, ?_, h.carried, h.made_eq, hfault⟩
  rw [Call.typesAsked_append, h.types_eq]
  unfold Call.typesAsked
  rw [List.filterMap_cons_none (Call.typeAsked?_of_nodes hnodes _)]
  exact List.append_nil _

end Orderly

variable {σ : Type} (h : Host σ)

/-- A building site on which all went well, with some of the nodes that were made. -/
def InOrder (types : List String) (nodes : List NodeHandle) (b : Building (σ × List Call)) : Prop :=
  Orderly types b.created b.host.2 ∧ nodes ⊆ b.created

/-- A building site on which a call has failed. -/
def Halted (types : List String) (typeName : String) (reason : BuildError)
    (b : Building (σ × List Call)) : Prop :=
  Stopped types typeName reason b.created b.host.2

/-- A building site on which a request has just been answered. -/
def Answered (types : List String) (nodes : List NodeHandle) (request : Request)
    (a : request.Answer) (b : Building (σ × List Call)) : Prop :=
  ∃ calls, Orderly types b.created calls ∧ nodes ⊆ b.created ∧ request.Allowed calls ∧
    b.host.2 = calls ++ [.asked request (.ok a)]

section Steps

variable {types : List String} {nodes : List NodeHandle} {typeName : String}

/-- The host answers the request, or its refusal ends the build. -/
theorem ask_leads {P : Building (σ × List Call) → Prop} (request : Request)
    (hnodes : request.OfNodes)
    (hP : ∀ b, P b → InOrder types nodes b ∧ request.Allowed b.host.2) :
    Leads P (ask (h.logged.perform request)) (Answered types nodes request)
      (Halted types typeName) := by
  rintro ⟨⟨host, calls⟩, created⟩ hb
  obtain ⟨⟨horder, hsubset⟩, hallowed⟩ := hP _ hb
  unfold ask
  dsimp only
  cases hresult : h.perform request host with
  | ok a t =>
    rw [Host.perform_logged_ok hresult]
    exact ⟨calls, horder, hsubset, hallowed, rfl⟩
  | error e t =>
    rw [Host.perform_logged_error hresult]
    exact horder.stop hnodes hallowed (Call.fault?_of_nodes hnodes typeName e)

theorem Answered.inOrder {request : Request} {a : request.Answer} {b : Building (σ × List Call)}
    (hb : Answered types nodes request a b) (hnodes : request.OfNodes)
    (ha : (Call.asked request (.ok a)).carriesOn) : InOrder types nodes b := by
  obtain ⟨calls, horder, hsubset, hallowed, hcalls⟩ := hb
  refine ⟨?_, hsubset⟩
  rw [hcalls]
  exact horder.ask hnodes hallowed ha

theorem Answered.halted {request : Request} {a : request.Answer} {b : Building (σ × List Call)}
    (hb : Answered types nodes request a b) (hnodes : request.OfNodes) {reason : BuildError}
    (ha : (Call.asked request (.ok a)).fault? typeName = some reason) :
    Halted types typeName reason b := by
  obtain ⟨calls, horder, -, hallowed, hcalls⟩ := hb
  unfold Halted
  rw [hcalls]
  exact horder.stop hnodes hallowed ha

theorem createNode_leads :
    Leads (InOrder types nodes) (createNode h.logged typeName)
      (fun node => InOrder (types ++ [typeName]) (node :: nodes))
      (Halted (types ++ [typeName]) typeName) := by
  rintro ⟨⟨host, calls⟩, created⟩ ⟨horder, hsubset⟩
  unfold createNode Host.createNode
  dsimp only
  cases hresult : h.perform (.createNode typeName) host with
  | ok node t =>
    rw [Host.perform_logged_ok hresult]
    exact ⟨horder.create typeName node, List.cons_subset_cons node hsubset⟩
  | error e t =>
    rw [Host.perform_logged_error hresult]
    have hhalted : ∀ reason,
        (Call.asked (.createNode typeName) (.error e)).fault? typeName = some reason →
        Halted (types ++ [typeName]) typeName reason
          ⟨(t, calls ++ [.asked (.createNode typeName) (.error e)]), created⟩ := by
      intro reason hreason
      refine ⟨calls, _, rfl, horder.disciplined.concat trivial, ?_, horder.carried,
        horder.made_eq, hreason⟩
      rw [Call.typesAsked_append, horder.types_eq]
      rfl
    cases e <;> exact hhalted _ rfl

variable (subs : Substitutions) (chain position : Nat) {node : NodeHandle} (hnode : node ∈ nodes)

include hnode

theorem followDirective_leads (parts : NodeParts) (directive : Directive) :
    Leads (InOrder types nodes)
      (followDirective h.logged subs chain position typeName node parts directive)
      (fun _ => InOrder types nodes) (Halted types typeName) := by
  have hfind : ∀ b : Building (σ × List Call), InOrder types nodes b → node ∈ made b.host.2 :=
    fun b hb => hb.1.mem_made (hb.2 hnode)
  cases directive with
  | set name literal =>
    refine (ask_leads h (.findParameter node name) trivial
      fun b hb => ⟨hb, hfind b hb⟩).bind fun answer => ?_
    cases answer with
    | none => exact .throw fun b hb => hb.halted trivial rfl
    | some parameter =>
      refine (ask_leads h (.setParameter parameter _) trivial fun b hb => ?_).bind
        fun _ => .pure fun b hb => hb.inOrder trivial rfl
      have horder := hb.inOrder trivial rfl
      obtain ⟨calls, -, -, -, hcalls⟩ := hb
      refine ⟨horder, node, hfind b horder, name, ?_⟩
      rw [hcalls]
      exact List.mem_append_right _ (List.mem_singleton.2 rfl)
  | press name =>
    refine (ask_leads h (.findTrigger node name) trivial
      fun b hb => ⟨hb, hfind b hb⟩).bind fun answer => ?_
    cases answer with
    | none => exact .throw fun b hb => hb.halted trivial rfl
    | some action => exact .pure fun b hb => hb.inOrder trivial rfl

theorem followDirectives_leads (parts : NodeParts) (directives : List Directive) :
    Leads (InOrder types nodes)
      (followDirectives h.logged subs chain position typeName node parts directives)
      (fun _ => InOrder types nodes) (Halted types typeName) := by
  induction directives generalizing parts with
  | nil => exact .pure fun b hb => hb
  | cons directive rest ih =>
    exact (followDirective_leads h subs chain position hnode parts directive).bind ih

end Steps

/-- A node is set up, or a call for it ends the build. -/
theorem addNode_leads (subs : Substitutions) (types : List String) (built : BuiltChain)
    (spec : NodeSpec) :
    Leads (InOrder types built.chain.handles) (addNode h.logged subs built spec)
      (fun built' => InOrder (types ++ [spec.typeName]) built'.chain.handles)
      (Halted (types ++ [spec.typeName]) spec.typeName) := by
  refine (createNode_leads h).bind fun node => ?_
  refine (followDirectives_leads h subs _ _ (List.mem_cons_self ..) _ _).bind fun parts => ?_
  have hpush : ∀ b : Building (σ × List Call),
      InOrder (types ++ [spec.typeName]) (node :: built.chain.handles) b →
      InOrder (types ++ [spec.typeName])
        (built.chain.push node spec.typeName parts.assignments).handles b := by
    rintro b ⟨horder, hsubset⟩
    refine ⟨horder, ?_⟩
    rw [Chain.handles_push]
    intro handle hmem
    rcases List.mem_append.1 hmem with hold | hnew
    · exact hsubset (List.mem_cons_of_mem node hold)
    · exact hsubset (List.mem_singleton.1 hnew ▸ List.mem_cons_self ..)
  cases hlast : built.chain.nodes.getLast? with
  | none => exact hpush
  | some previous =>
    have hprevious : previous.handle ∈ built.chain.handles :=
      List.mem_map_of_mem (List.mem_of_getLast? hlast)
    refine (ask_leads h (.connectInput node previous.handle) trivial
      fun b hb => ⟨hb, ?_, ?_⟩).bind fun _ => .pure fun b hb => hpush b (hb.inOrder trivial rfl)
    · exact hb.1.mem_made (hb.2 (List.mem_cons_self ..))
    · exact hb.1.mem_made (hb.2 (List.mem_cons_of_mem node hprevious))

/-- All nodes are set up, or a call for one of them ends the build. -/
theorem addNodes_leads (subs : Substitutions) (done specs : List NodeSpec) (built : BuiltChain) :
    Leads (InOrder (done.map (·.typeName)) built.chain.handles) (addNodes h.logged subs built specs)
      (fun built' => InOrder ((done ++ specs).map (·.typeName)) built'.chain.handles)
      (fun reason b => ∃ before node rest, done ++ specs = before ++ node :: rest ∧
        Halted ((before ++ [node]).map (·.typeName)) node.typeName reason b) := by
  induction specs generalizing done built with
  | nil =>
    rw [List.append_nil]
    exact .pure fun b hb => hb
  | cons spec rest ih =>
    refine Leads.bind (Q := fun built' => InOrder ((done ++ [spec]).map (·.typeName))
      built'.chain.handles) ?_ fun built' => ?_
    · refine (addNode_leads h subs _ built spec).mono (fun b hb => hb) ?_ ?_
      · intro built' b hb
        rw [List.map_append]
        exact hb
      · intro reason b hb
        refine ⟨done, spec, rest, rfl, ?_⟩
        rw [List.map_append]
        exact hb
    · have hsplit : done ++ spec :: rest = done ++ [spec] ++ rest := List.append_cons ..
      rw [hsplit]
      exact ih (done ++ [spec]) built'

/-! ## After the first failure -/

theorem rollback_calls (nodes : List NodeHandle) (host : σ) (calls : List Call)
    (hnodes : ∀ node ∈ nodes, node ∈ made calls) (hcalls : Disciplined calls) :
    ∃ undone, (rollback h.logged nodes (host, calls)).2 = calls ++ undone ∧
      List.Forall₂ Call.Removes nodes undone ∧ Disciplined (calls ++ undone) := by
  induction nodes generalizing host calls with
  | nil =>
    refine ⟨[], (List.append_nil calls).symm, .nil, ?_⟩
    rw [List.append_nil]
    exact hcalls
  | cons node rest ih =>
    have hremoved : ∀ (answer : Except HostError Unit) (t : σ), ∃ undone,
        (rollback h.logged rest (t, calls ++ [.asked (.destroyNode node) answer])).2 =
          calls ++ undone ∧
        List.Forall₂ Call.Removes (node :: rest) undone ∧ Disciplined (calls ++ undone) := by
      intro answer t
      have hallowed : (Call.asked (.destroyNode node) answer).Allowed calls :=
        hnodes node (List.mem_cons_self ..)
      have hrest : ∀ other ∈ rest, other ∈ made (calls ++ [.asked (.destroyNode node) answer]) := by
        intro other hother
        rw [Call.made_append]
        exact List.mem_append_left _ (hnodes other (List.mem_cons_of_mem node hother))
      obtain ⟨undone, heq, hundone, hdisciplined⟩ := ih t _ hrest (hcalls.concat hallowed)
      rw [List.append_assoc] at heq hdisciplined
      exact ⟨_ :: undone, heq, .cons ⟨answer, rfl⟩ hundone, hdisciplined⟩
    unfold rollback Host.destroyNode
    cases hresult : h.perform (.destroyNode node) host with
    | ok a t =>
      rw [Host.perform_logged_ok hresult]
      exact hremoved (.ok a) t
    | error e t =>
      rw [Host.perform_logged_error hresult]
      exact hremoved (.error e) t

end Build

/-! ## The whole build -/

section Whole

variable {σ : Type} (h : Host σ) (spec : PipelineSpec) (subs : Substitutions) (bench : Workbench σ)

/-- The calls of a build on a host that keeps them, by the result of the build there. -/
theorem build_logged_leads :
    Leads (fun b : Workbench (σ × List Call) => b.host.2 = []) (build h.logged spec subs)
      (fun _ b => Disciplined b.host.2 ∧ Completed spec b.host.2)
      (fun reason b => Disciplined b.host.2 ∧ Abandoned spec reason b.host.2) := by
  rintro ⟨⟨host, calls⟩, id⟩ hstart
  cases hstart
  have hnodes := Build.addNodes_leads h subs [] spec.nodes
    ⟨.empty id ((subs.get? Substitutions.assetInput).getD ""), []⟩ ⟨(host, []), []⟩
    ⟨.start, List.nil_subset _⟩
  unfold build
  dsimp only
  revert hnodes
  generalize Build.addNodes h.logged subs _ spec.nodes _ = result
  cases result with
  | ok built b =>
    rintro ⟨horder, -⟩
    exact ⟨horder.disciplined, horder.carried, horder.types_eq⟩
  | error reason b =>
    obtain ⟨⟨t, calls⟩, created⟩ := b
    rintro ⟨done, node, rest, hspec, before, failed, rfl, hdisciplined, htypes, hcarried, hmade,
      hfault⟩
    have hcreated : ∀ node ∈ created, node ∈ made (before ++ [failed]) := by
      intro node hnode
      rw [Call.made_append, hmade]
      exact List.mem_append_left _ (List.mem_reverse.2 hnode)
    obtain ⟨undone, heq, hundone, hall⟩ :=
      Build.rollback_calls h created t (before ++ [failed]) hcreated hdisciplined
    rw [← heq] at hall
    refine ⟨hall, before, failed, undone, done, node, rest, ?_, hspec, htypes, hcarried, hfault,
      ?_⟩
    · rw [heq, List.append_assoc]
      rfl
    · rw [hmade, List.reverse_reverse]
      exact hundone

/-- **Discipline.** On any host a build makes no call but those for setting up and removing its own
nodes, and for setting parameters that the host has found at them. If it comes to a chain, its calls
have set up the pipeline, and none has removed a node. If it comes to an error, that is the reason of
the first call that failed; after that call it has asked once for the removal of each node that it had
made, the last one first, and for nothing else. -/
theorem build_discipline :
    Disciplined (buildCalls h spec subs bench) ∧
      match build h spec subs bench with
      | .ok _ _ => Completed spec (buildCalls h spec subs bench)
      | .error reason _ => Abandoned spec reason (buildCalls h spec subs bench) := by
  have hlogged := build_logged h spec subs ⟨(bench.host, []), bench.nextChain⟩ bench ⟨rfl, rfl⟩
  have hcalls := build_logged_leads h spec subs ⟨(bench.host, []), bench.nextChain⟩ rfl
  unfold buildCalls stateAfter
  revert hlogged hcalls
  generalize build h.logged spec subs _ = kept
  generalize build h spec subs bench = result
  rintro (_ | _) hcalls
  · exact hcalls
  · exact hcalls

end Whole

/-- A scene that finds every parameter at its first node, whichever node it is asked for. -/
def Host.straying : Host Scene :=
  { Scene.host with
    perform := fun
      | .findParameter _ name => fun s => .ok (some ⟨⟨1⟩, name⟩) s
      | request => Scene.host.perform request }

/-- **Stray parameters.** A build sets the parameter that the host has found for it, even if it is one
of a node that the build has not made. -/
theorem build_sets_stray_parameter :
    ∃ parameter value,
      let calls := buildCalls .straying ⟨[⟨"file", [.set "file" (.text "a.fbx")]⟩]⟩ .empty
        ⟨stateAfter (Scene.host.createNode "file") .standard, 0⟩
      .asked (.setParameter parameter value) (.ok ()) ∈ calls ∧ parameter.node ∉ made calls := by
  have hcalls : buildCalls .straying ⟨[⟨"file", [.set "file" (.text "a.fbx")]⟩]⟩ .empty
      ⟨stateAfter (Scene.host.createNode "file") .standard, 0⟩ =
        [.asked (.createNode "file") (.ok ⟨2⟩),
          .asked (.findParameter ⟨2⟩ "file") (.ok (some ⟨⟨1⟩, "file"⟩)),
          .asked (.setParameter ⟨⟨1⟩, "file"⟩ (.text "a.fbx")) (.ok ())] := rfl
  refine ⟨⟨⟨1⟩, "file"⟩, .text "a.fbx", ?_⟩
  rw [hcalls]
  exact ⟨by simp, by decide⟩

/-- A type that is not there is asked for, and the node made before it is removed. -/
example :
    buildCalls Scene.host ⟨[⟨"file", []⟩, ⟨"check_gone", []⟩]⟩ .empty ⟨.standard, 0⟩ =
      [.asked (.createNode "file") (.ok ⟨1⟩),
        .asked (.createNode "check_gone") (.error (.unknownNodeType "check_gone")),
        .asked (.destroyNode ⟨1⟩) (.ok ())] := rfl

end AssetCheck
