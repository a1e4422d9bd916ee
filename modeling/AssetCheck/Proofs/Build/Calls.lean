import AssetCheck.Chain.Build
import AssetCheck.Proofs.TwoRuns

/-!
# The calls of a host

A host that keeps the calls it gets, with its answers to them (`Host.logged`), answers as it did
before, and so a build on it comes to the same end (`build_logged`). The calls of a build are those
that such a host has kept (`buildCalls`).
-/

namespace AssetCheck

/-- A call of a host, with what came of it. -/
inductive Call
  | asked (request : Request) (answer : Except HostError request.Answer)
  | saved (path : String) (answer : Except HostError Unit)

namespace Call

def made? : Call → Option NodeHandle
  | .asked (.createNode _) (.ok node) => some node
  | _ => none

def typeAsked? : Call → Option String
  | .asked (.createNode typeName) _ => some typeName
  | _ => none

def made (calls : List Call) : List NodeHandle := calls.filterMap made?

def typesAsked (calls : List Call) : List String := calls.filterMap typeAsked?

end Call

variable {σ : Type}

/-- The host with the calls that it has been given. -/
def Host.logged (h : Host σ) : Host (σ × List Call) where
  perform := fun request (host, calls) =>
    match h.perform request host with
    | .ok a host => .ok a (host, calls ++ [.asked request (.ok a)])
    | .error e host => .error e (host, calls ++ [.asked request (.error e)])
  saveScene := fun path ((host, calls), files) =>
    match h.saveScene path (host, files) with
    | .ok () (host, files) => .ok () ((host, calls ++ [.saved path (.ok ())]), files)
    | .error e (host, files) => .error e ((host, calls ++ [.saved path (.error e)]), files)
  reach := fun (host, _) => h.reach host

section Logged

variable {h : Host σ} {request : Request} {host t : σ}

theorem Host.perform_logged_ok {a : request.Answer} (hok : h.perform request host = .ok a t)
    (calls : List Call) :
    h.logged.perform request (host, calls) = .ok a (t, calls ++ [.asked request (.ok a)]) := by
  unfold Host.logged
  dsimp only
  rw [hok]

theorem Host.perform_logged_error {e : HostError} (herror : h.perform request host = .error e t)
    (calls : List Call) :
    h.logged.perform request (host, calls) =
      .error e (t, calls ++ [.asked request (.error e)]) := by
  unfold Host.logged
  dsimp only
  rw [herror]

end Logged

def buildCalls (h : Host σ) (spec : PipelineSpec) (subs : Substitutions) (bench : Workbench σ) :
    List Call :=
  (stateAfter (build h.logged spec subs) ⟨(bench.host, []), bench.nextChain⟩).host.2

/-! ## Keeping calls changes nothing -/

namespace Build

/-- The same building site, but for the calls that one host keeps. -/
def SameSite (b : Building (σ × List Call)) (c : Building σ) : Prop :=
  b.host.1 = c.host ∧ b.created = c.created

variable (h : Host σ)

theorem ask_logged (request : Request) :
    Alike SameSite (ask (h.logged.perform request)) (ask (h.perform request)) := by
  rintro ⟨⟨host, calls⟩, created⟩ ⟨_, _⟩ ⟨rfl, rfl⟩
  unfold ask
  dsimp only
  cases hresult : h.perform request host with
  | ok a t =>
    rw [Host.perform_logged_ok hresult]
    exact .ok ⟨rfl, rfl⟩
  | error e t =>
    rw [Host.perform_logged_error hresult]
    exact .error ⟨rfl, rfl⟩

theorem createNode_logged (typeName : String) :
    Alike SameSite (createNode h.logged typeName) (createNode h typeName) := by
  rintro ⟨⟨host, calls⟩, created⟩ ⟨_, _⟩ ⟨rfl, rfl⟩
  unfold createNode Host.createNode
  dsimp only
  cases hresult : h.perform (.createNode typeName) host with
  | ok node t =>
    rw [Host.perform_logged_ok hresult]
    exact .ok ⟨rfl, rfl⟩
  | error e t =>
    rw [Host.perform_logged_error hresult]
    cases e <;> exact .error ⟨rfl, rfl⟩

variable (subs : Substitutions) (chain position : Nat) (typeName : String) (node : NodeHandle)

theorem followDirective_logged (parts : NodeParts) (directive : Directive) :
    Alike SameSite (followDirective h.logged subs chain position typeName node parts directive)
      (followDirective h subs chain position typeName node parts directive) := by
  cases directive with
  | set name literal =>
    refine (ask_logged h (.findParameter node name)).bind fun answer => ?_
    cases answer with
    | none => exact .throw _
    | some parameter => exact (ask_logged h (.setParameter parameter _)).bind fun _ => .pure _
  | press name =>
    refine (ask_logged h (.findTrigger node name)).bind fun answer => ?_
    cases answer with
    | none => exact .throw _
    | some action => exact .pure _

theorem followDirectives_logged (parts : NodeParts) (directives : List Directive) :
    Alike SameSite (followDirectives h.logged subs chain position typeName node parts directives)
      (followDirectives h subs chain position typeName node parts directives) := by
  induction directives generalizing parts with
  | nil => exact .pure _
  | cons directive rest ih =>
    exact (followDirective_logged h subs chain position typeName node parts directive).bind ih

theorem addNode_logged (built : BuiltChain) (spec : NodeSpec) :
    Alike SameSite (addNode h.logged subs built spec) (addNode h subs built spec) := by
  refine (createNode_logged h spec.typeName).bind fun node => ?_
  refine (followDirectives_logged h subs _ _ _ node _ _).bind fun parts => ?_
  cases built.chain.nodes.getLast? with
  | none => exact .bind (.pure ()) fun _ => .pure _
  | some previous =>
    exact (ask_logged h (.connectInput node previous.handle)).bind fun _ => .pure _

theorem addNodes_logged (built : BuiltChain) (specs : List NodeSpec) :
    Alike SameSite (addNodes h.logged subs built specs) (addNodes h subs built specs) := by
  induction specs generalizing built with
  | nil => exact .pure _
  | cons spec rest ih => exact (addNode_logged h subs built spec).bind ih

theorem rollback_logged (nodes : List NodeHandle) (host : σ) (calls : List Call) :
    (rollback h.logged nodes (host, calls)).1 = rollback h nodes host := by
  induction nodes generalizing host calls with
  | nil => rfl
  | cons node rest ih =>
    unfold rollback Host.destroyNode
    cases hresult : h.perform (.destroyNode node) host with
    | ok a t =>
      rw [Host.perform_logged_ok hresult]
      exact ih t _
    | error e t =>
      rw [Host.perform_logged_error hresult]
      exact ih t _

end Build

/-- A build on a host that keeps its calls comes to the same end as on the host itself. -/
theorem build_logged (h : Host σ) (spec : PipelineSpec) (subs : Substitutions) :
    Alike (fun (b : Workbench (σ × List Call)) c => b.host.1 = c.host ∧ b.nextChain = c.nextChain)
      (build h.logged spec subs) (build h spec subs) := by
  rintro ⟨⟨host, calls⟩, id⟩ ⟨_, _⟩ ⟨rfl, rfl⟩
  have hnodes := Build.addNodes_logged h subs
    ⟨.empty id ((subs.get? Substitutions.assetInput).getD ""), []⟩ spec.nodes
    ⟨(host, calls), []⟩ ⟨host, []⟩ ⟨rfl, rfl⟩
  unfold build
  dsimp only
  revert hnodes
  generalize Build.addNodes h.logged subs _ spec.nodes _ = left
  generalize Build.addNodes h subs _ spec.nodes _ = right
  rintro (hsite | hsite)
  · exact .ok ⟨hsite.1, rfl⟩
  · refine .error ⟨?_, rfl⟩
    rw [← hsite.2, ← hsite.1]
    exact Build.rollback_logged h _ _ _

end AssetCheck
