import AssetCheck.Host.Bridge
import AssetCheck.Proofs.Bridge.Replies
import AssetCheck.Proofs.File.Written
import AssetCheck.Proofs.Json.OneLine

/-!
# Requests and replies in step

Each call sends one line and reads one, so the call with a number reads the line with this number,
whatever the lines before it were (`InStep`). What the call comes to is decided by this one line: its
value or its error if it is a reply with the number of the call, and a breach of the protocol
otherwise (`reply_in_step`). A bridge that is out of step therefore brings no value of another
request, however long it goes on.
-/

namespace AssetCheck.Bridge

/-! ## One call -/

def lines (b : Bridge) : List ByteArray := b.unread ++ b.script.flatten

def nextLine? (b : Bridge) : Option ByteArray := (b.unread ++ b.script.headD []).head?

/-- The pipes of the bridge work for one more call: it takes the request, and the line that is read,
if there is one, is text. -/
structure Works (b : Bridge) : Prop where
  takes : b.hungUp = false
  gives : ∀ line, b.nextLine? = some line → ∃ text, String.fromUTF8? line = some text

/-- The bridge after it has heard a request and its next line has been read. -/
def answered (b : Bridge) (request : String) : Bridge where
  lastId := b.lastId + 1
  heard := b.heard ++ [request]
  script := b.script.tail
  unread := (b.unread ++ b.script.headD []).tail
  hungUp := b.script.isEmpty

/-- What a call comes to by its line. -/
def verdict (id : Nat) (operation : String) (line? : Option ByteArray) :
    Except HostError Json.Value :=
  match line? with
  | none => .error (.protocol ("bridge closed its output while handling '" ++ operation ++ "'"))
  | some line =>
    match String.fromUTF8? line with
    | none => .error (.io .notText)
    | some text => Wire.readReply id text

theorem hear_eq {b : Bridge} (h : b.hungUp = false) (request : String) :
    b.hear request =
      { lastId := b.lastId
        heard := b.heard ++ [request]
        script := b.script.tail
        unread := b.unread ++ b.script.headD []
        hungUp := b.script.isEmpty } := by
  obtain ⟨lastId, heard, script, unread, hungUp⟩ := b
  cases (h : hungUp = false)
  cases script with
  | nil =>
    rw [List.headD_nil, List.append_nil]
    rfl
  | cons more script => rfl

/-- **One call.** Its line decides what it comes to. -/
theorem call_eq {b : Bridge} (h : b.hungUp = false) (operation : String)
    (arguments : List (String × Json.Value)) :
    call operation arguments b =
      known (verdict (b.lastId + 1) operation b.nextLine?)
        (b.answered (Wire.requestLine (b.lastId + 1) operation arguments)) := by
  have hheard := hear_eq (b := { b with lastId := b.lastId + 1 }) h
    (Wire.requestLine (b.lastId + 1) operation arguments)
  unfold call
  dsimp only
  rw [if_neg (by rw [h]; exact Bool.false_ne_true), hheard]
  unfold verdict nextLine? answered
  cases b.unread ++ b.script.headD [] with
  | nil => rfl
  | cons line unread =>
    dsimp only [List.head?_cons, List.tail_cons]
    cases String.fromUTF8? line with
    | none => rfl
    | some text =>
      dsimp only
      generalize Wire.readReply (b.lastId + 1) text = result
      cases result <;> rfl

/-! ## Operations -/

inductive Operation
  | ask (request : Request)
  | save (path : String) (files : FileTree)

namespace Operation

def name : Operation → String
  | .ask request => Wire.operation request
  | .save _ _ => "save_scene"

def arguments : Operation → List (String × Json.Value)
  | .ask request => Wire.arguments request
  | .save path _ => [("path", .string (Text.replaceChar '\\' '/' path))]

def call (op : Operation) : EStateM HostError Bridge Json.Value := Bridge.call op.name op.arguments

def after (b : Bridge) : Operation → Bridge
  | .ask request => stateAfter (host.perform request) b
  | .save path files => (stateAfter (host.saveScene path) (b, files)).1

end Operation

theorem perform_eq {request : Request} {b c : Bridge} {result : Except HostError Json.Value}
    (h : (Operation.ask request).call b = known result c) :
    host.perform request b = known (result >>= Wire.answer request) c := by
  refine bind_known h fun v => ?_
  cases Wire.answer request v <;> rfl

/-- Saving waits for the value of its call. -/
theorem saveScene_eq {path : String} {files : FileTree} {b c : Bridge}
    {result : Except HostError Json.Value}
    (h : (Operation.save path files).call b = known result c) :
    host.saveScene path (b, files) = known (result.map fun _ => ()) (c, files) := by
  have hcall : Bridge.call "save_scene" [("path", .string (Text.replaceChar '\\' '/' path))] b = _ := h
  show save path (b, files) = _
  unfold save
  dsimp only
  rw [hcall]
  cases result <;> rfl

theorem Operation.after_eq {op : Operation} {b c : Bridge}
    {result : Except HostError Json.Value} (h : op.call b = known result c) : op.after b = c := by
  cases op with
  | ask request => exact stateAfter_known (perform_eq h)
  | save path files => exact congrArg Prod.fst (stateAfter_known (saveScene_eq h))

/-- The operation gives what it makes of the value of its call, or the error of its call. -/
def Operation.Passes (b : Bridge) : Operation → Prop
  | .ask request =>
    resultOf (host.perform request) b =
      resultOf (Operation.ask request).call b >>= Wire.answer request
  | .save path files =>
    resultOf (host.saveScene path) (b, files) =
      (resultOf (Operation.save path files).call b).map fun _ => ()

theorem Operation.passes {op : Operation} {b c : Bridge} {result : Except HostError Json.Value}
    (h : op.call b = known result c) : op.Passes b := by
  cases op with
  | ask request =>
    show _ = resultOf (Operation.ask request).call b >>= Wire.answer request
    rw [resultOf_known h, resultOf_known (perform_eq h)]
  | save path files =>
    show _ = (resultOf (Operation.save path files).call b).map fun _ => ()
    rw [resultOf_known h, resultOf_known (saveScene_eq h)]

/-! ## Many calls -/

/-- The output ends once: where fewer lines have been given than requests were heard, a request has
found the output at its end, and a pipe that has come to its end brings nothing more. -/
def EndsOnce (script : List (List ByteArray)) : Prop :=
  ∀ count, (script.take count).flatten.length < count → (script.drop count).flatten = []

/-- A bridge may give any lines, all at once, and take any number of requests after that. -/
theorem endsOnce_atOnce (stream : List ByteArray) (requests : Nat) :
    EndsOnce (stream :: List.replicate requests []) := by
  intro count hfew
  cases count with
  | zero => exact absurd hfew (Nat.not_lt_zero _)
  | succ count => rw [List.drop_succ_cons, List.drop_replicate, List.flatten_replicate_nil]

/-- Operations, one after the other, have led from the start of the bridge to here, and its pipes
have worked for them. -/
inductive Run (script : List (List ByteArray)) : List Operation → Bridge → Prop
  | start : Run script [] { script }
  | step {ops : List Operation} {b : Bridge} (op : Operation) : Run script ops b → b.Works →
      Run script (ops ++ [op]) (op.after b)

/-- After a number of calls, this number of requests has been heard, and this number of lines has
been read. -/
structure InStep (script : List (List ByteArray)) (count : Nat) (b : Bridge) : Prop where
  lastId : b.lastId = count
  heard : b.heard.length = count
  rest : b.script = script.drop count
  unread : b.unread = (script.take count).flatten.drop count
  hungUp : b.hungUp = decide (script.length < count)

theorem InStep.start (script : List (List ByteArray)) : InStep script 0 { script } :=
  ⟨rfl, rfl, rfl, rfl, rfl⟩

theorem drop_append_of_ends {α : Type} {xs ys : List α} {count : Nat}
    (h : xs.length < count → ys = []) : xs.drop count ++ ys = (xs ++ ys).drop count := by
  by_cases hfew : xs.length < count
  · rw [h hfew, List.append_nil, List.append_nil]
  · rw [List.drop_append_of_le_length (Nat.le_of_not_lt hfew)]

section InStep

variable {script : List (List ByteArray)} (hends : EndsOnce script) {count : Nat} {b : Bridge}
  (h : InStep script count b)

include hends h

theorem InStep.lines_eq : b.lines = script.flatten.drop count := by
  unfold lines
  rw [h.unread, h.rest, drop_append_of_ends (hends count), ← List.flatten_append,
    List.take_append_drop]

theorem InStep.pending :
    b.unread ++ b.script.headD [] = (script.take (count + 1)).flatten.drop count := by
  have hends := hends count
  rw [h.unread, h.rest, List.take_add, List.flatten_append]
  cases hdrop : script.drop count with
  -- The bridge closes its output; what is left was there before.
  | nil => simp
  | cons chunk rest =>
    rw [hdrop, List.flatten_cons] at hends
    have hchunk : [chunk].flatten = chunk := List.append_nil chunk
    rw [List.headD_cons, List.take_succ_cons, List.take_zero, hchunk]
    exact drop_append_of_ends fun hfew => (List.append_eq_nil_iff.1 (hends hfew)).1

theorem InStep.nextLine?_eq : b.nextLine? = script.flatten[count]? := by
  have hsplit : script.flatten =
      (script.take (count + 1)).flatten ++ (script.drop (count + 1)).flatten := by
    rw [← List.flatten_append, List.take_append_drop]
  unfold nextLine?
  rw [h.pending hends, List.head?_drop, hsplit]
  by_cases hfew : (script.take (count + 1)).flatten.length < count + 1
  · rw [hends _ hfew, List.append_nil]
  · rw [List.getElem?_append_left (by omega)]

theorem InStep.answered (request : String) : InStep script (count + 1) (b.answered request) where
  lastId := congrArg (· + 1) h.lastId
  heard := List.length_append.trans (congrArg (· + 1) h.heard)
  rest := by
    show b.script.tail = _
    rw [h.rest, List.tail_drop]
  unread := by
    show (b.unread ++ b.script.headD []).tail = _
    rw [h.pending hends, List.tail_drop]
  hungUp := by
    show b.script.isEmpty = _
    rw [h.rest, Bool.eq_iff_iff, List.isEmpty_iff, List.drop_eq_nil_iff, decide_eq_true_eq,
      Nat.lt_succ_iff]

end InStep

section Run

variable {script : List (List ByteArray)} (hends : EndsOnce script)

include hends

/-- **Runs.** After its calls, a bridge is in step. -/
theorem Run.inStep {ops : List Operation} {b : Bridge} (h : Run script ops b) :
    InStep script ops.length b := by
  -- Each call leaves a bridge that is in step with one request more, whatever came of the call.
  induction h with
  | start => exact .start script
  | step op _ hworks ih =>
    rw [List.length_append, op.after_eq (call_eq hworks.takes op.name op.arguments)]
    exact ih.answered hends _

/-- The pipes work as long as there are requests that the bridge takes, if all its lines are text. -/
theorem Run.works {ops : List Operation} {b : Bridge} (h : Run script ops b)
    (hfew : ops.length ≤ script.length)
    (htexts : ∀ line ∈ script.flatten, ∃ text, String.fromUTF8? line = some text) : b.Works where
  takes := (h.inStep hends).hungUp.trans (decide_eq_false (Nat.not_lt.2 hfew))
  gives := fun line hline => htexts line
    (List.mem_of_getElem? (((h.inStep hends).nextLine?_eq hends).symm.trans hline))

end Run

/-! ## What each call comes to -/

/-- There is a line, and it is a reply. -/
def Says (line? : Option ByteArray) (reply : Wire.Reply) : Prop :=
  ∃ line text, line? = some line ∧ String.fromUTF8? line = some text ∧ Wire.IsReply text reply

section Verdict

variable {line? : Option ByteArray} (id : Nat) (operation : String)

theorem verdict_reply {reply : Wire.Reply} (h : Says line? reply) :
    verdict id operation line? = reply.outcome id := by
  obtain ⟨line, text, rfl, htext, hreply⟩ := h
  unfold verdict
  dsimp only
  rw [htext]
  exact Wire.readReply_eq hreply id

theorem verdict_unreadable
    (hgives : ∀ line, line? = some line → ∃ text, String.fromUTF8? line = some text)
    (h : ∀ reply, ¬ Says line? reply) :
    ∃ reason, verdict id operation line? = .error (.protocol reason) := by
  cases line? with
  | none => exact ⟨_, rfl⟩
  | some line =>
    obtain ⟨text, htext⟩ := hgives line rfl
    obtain ⟨reason, hreason⟩ := Wire.readReply_unreadable
      (fun reply hreply => h reply ⟨line, text, rfl, htext, hreply⟩) id
    refine ⟨reason, ?_⟩
    unfold verdict
    dsimp only
    rw [htext]
    exact hreason

end Verdict

/-- The line with a number is a reply. -/
def Replies (script : List (List ByteArray)) (number : Nat) (reply : Wire.Reply) : Prop :=
  Says script.flatten[number - 1]? reply

/-- The call with a number sends its line, reads the line with its number, and comes to what this
line says. -/
structure CallInStep (script : List (List ByteArray)) (number : Nat) (b : Bridge) (op : Operation) :
    Prop where
  /-- One line is sent, with the number of the call. -/
  sends : (op.after b).heard = b.heard ++ [Wire.requestLine number op.name op.arguments] ∧
    '\n' ∉ (Wire.requestLine number op.name op.arguments).toList
  /-- The lines before the one with this number have been read, and this one is. -/
  reads : b.lines = script.flatten.drop (number - 1) ∧
    (op.after b).lines = script.flatten.drop number
  /-- A value comes from a reply with the number of the call and without an error, and from no
  other. -/
  value : ∀ v, resultOf op.call b = .ok v ↔ ∃ reply, Replies script number reply ∧
    reply.id = number ∧ reply.refusal = none ∧ v = reply.value.getD .null
  /-- An error of the reply is reported for what it means, whether or not there is a value too. -/
  refusal : ∀ reply refusal, Replies script number reply → reply.id = number →
    reply.refusal = some refusal → ∀ e, resultOf op.call b = .error e ↔ refusal.Means e
  /-- All else breaks the protocol. -/
  breach : (∀ reply, Replies script number reply → reply.id ≠ number) →
    ∃ reason, resultOf op.call b = .error (.protocol reason)
  /-- The operation gives what it makes of the value of its call, or the error of its call. -/
  answer : op.Passes b

/-- **Replies in step.** Whatever lines a bridge gives, each call reads the line with its number, and
gets nothing but what this line says to it. -/
theorem reply_in_step {script : List (List ByteArray)} (hends : EndsOnce script)
    {ops : List Operation} {b : Bridge} (hrun : Run script ops b) (hworks : b.Works)
    (op : Operation) : CallInStep script (ops.length + 1) b op := by
  have hstep := hrun.inStep hends
  have hline := hstep.nextLine?_eq hends
  have hcall := call_eq hworks.takes op.name op.arguments
  rw [hstep.lastId, hline] at hcall
  have hafter := op.after_eq hcall
  have hresult : resultOf op.call b = _ := resultOf_known hcall
  -- The line settles the call, whether it is a reply or not.
  have hreply : ∀ reply, Replies script (ops.length + 1) reply →
      resultOf op.call b = reply.outcome (ops.length + 1) := fun reply h =>
    hresult.trans (verdict_reply _ _ h)
  have hnone : (∀ reply, ¬ Replies script (ops.length + 1) reply) →
      ∃ reason, resultOf op.call b = .error (.protocol reason) := by
    rw [hresult]
    exact verdict_unreadable _ _ fun line h => hworks.gives line (hline.trans h)
  exact {
    sends := ⟨congrArg heard hafter, Json.newline_not_mem_compact _⟩
    reads := by
      rw [hafter]
      exact ⟨hstep.lines_eq hends, (hstep.answered hends _).lines_eq hends⟩
    value := by
      refine fun v => ⟨fun hok => ?_, fun ⟨reply, h, hsays⟩ => ?_⟩
      · by_cases hsome : ∃ reply, Replies script (ops.length + 1) reply
        · obtain ⟨reply, h⟩ := hsome
          exact ⟨reply, h, Wire.Reply.outcome_eq_ok_iff.1 ((hreply reply h).symm.trans hok)⟩
        · obtain ⟨reason, hreason⟩ := hnone (not_exists.1 hsome)
          cases hreason.symm.trans hok
      · exact (hreply reply h).trans (Wire.Reply.outcome_eq_ok_iff.2 hsays)
    refusal := by
      intro reply refusal h hid hrefused e
      rw [hreply reply h]
      exact Wire.Reply.outcome_refused hid hrefused
    breach := by
      intro hother
      by_cases hsome : ∃ reply, Replies script (ops.length + 1) reply
      · obtain ⟨reply, h⟩ := hsome
        rw [hreply reply h]
        exact Wire.Reply.outcome_other (hother reply h)
      · exact hnone (not_exists.1 hsome)
    answer := op.passes hcall }

def second : Wire.Reply := ⟨2, some (.nat 5), none⟩

/-- A value for the third request, and an error. -/
def third : Wire.Reply := ⟨3, some (.nat 1), some ⟨"unknown_handle", " +07 "⟩⟩

/-- The lines of a bridge that answers before it is asked, the second request twice. -/
def early : List (List ByteArray) :=
  [second.line.toUTF8, second.line.toUTF8, third.line.toUTF8] :: List.replicate 2 []

def fresh : Bridge := { script := early }

def laidOut : Bridge := Operation.after fresh (.ask .layout)

def created : Bridge := Operation.after laidOut (.ask (.createNode "file"))

theorem reply_in_step_early :
    EndsOnce early ∧ fresh.Works ∧ laidOut.Works ∧ created.Works ∧
      Run early [.ask .layout, .ask (.createNode "file")] created ∧
      (∃ reason, resultOf (Operation.ask .layout).call fresh = .error (.protocol reason)) ∧
      resultOf (Operation.ask (.createNode "file")).call laidOut = .ok (.nat 5) ∧
      resultOf (Operation.ask (.cook ⟨7⟩)).call created = .error (.unknownHandle 7) := by
  have hends : EndsOnce early := endsOnce_atOnce _ 2
  have hdecoded : ∀ s : String, String.fromUTF8? s.toUTF8 = some s := FileTree.fromUTF8?_toUTF8
  have htexts : ∀ line ∈ early.flatten, ∃ text, String.fromUTF8? line = some text := by
    have hflatten : early.flatten =
        [second.line.toUTF8, second.line.toUTF8, third.line.toUTF8] := rfl
    rw [hflatten]
    exact List.forall_mem_cons.2 ⟨⟨_, hdecoded _⟩, List.forall_mem_cons.2
      ⟨⟨_, hdecoded _⟩, List.forall_mem_singleton.2 ⟨_, hdecoded _⟩⟩⟩
  have hsecond : Wire.IsReply second.line second :=
    Wire.isReply_line (by decide) fun v hv => by
      cases hv
      exact .whole _ (by decide) (by decide)
  have hthird : Wire.IsReply third.line third :=
    Wire.isReply_line (by decide) fun v hv => by
      cases hv
      exact .whole _ (by decide) (by decide)
  have hspells : Wire.SpellsHandle (Text.trim " +07 ") 7 :=
    .inr ⟨['0', '7'], by decide, by decide, 1, by decide⟩
  have hstart : Run early [] fresh := .start
  have hfresh := hstart.works hends (by decide) htexts
  have hlaidOut := Run.step (.ask .layout) .start hfresh
  have hworks := hlaidOut.works hends (by decide) htexts
  have hcreated := Run.step (.ask (.createNode "file")) hlaidOut hworks
  have hworks' := hcreated.works hends (by decide) htexts
  refine ⟨hends, hfresh, hworks, hworks', hcreated, ?_, ?_, ?_⟩
  · refine (reply_in_step hends .start hfresh (.ask .layout)).breach ?_
    rintro reply ⟨line, text, hline, htext, his⟩ hid
    cases hline
    cases (hdecoded _).symm.trans htext
    cases hsecond.unique his
    cases hid
  · exact ((reply_in_step hends hlaidOut hworks (.ask (.createNode "file"))).value _).2
      ⟨second, ⟨_, _, rfl, hdecoded _, hsecond⟩, rfl, rfl, rfl⟩
  · exact ((reply_in_step hends hcreated hworks' (.ask (.cook ⟨7⟩))).refusal third _
      ⟨_, _, rfl, hdecoded _, hthird⟩ rfl rfl _).2 (.handle rfl hspells)

end AssetCheck.Bridge
