import AssetCheck.Host.Wire
import AssetCheck.Proofs.Bridge.Refusals
import AssetCheck.Proofs.Json.RecordTexts
import AssetCheck.Proofs.Json.Shapes

/-!
# What a reply says

A line is a reply if it is a record of a number, a value and an error, with nothing but blanks
around it (`IsReply`). The number has to be given, the others may be left out, none of them comes
twice, and null is no error; what else the record has is passed over. These are the lines that the
reader of replies reads (`isReply_iff`). The request with the number of a reply gets its error if
there is one, whether or not there is a value too, and the value otherwise (`readReply_eq`). All
other lines break the protocol (`readReply_unreadable`), and no line says two things
(`IsReply.unique`).

What a reply says can be printed, and is read from its own line (`isReply_line`).
-/

namespace AssetCheck.Wire

open Json (Field Gives Layout OfFields Reads RecordTexts Shrinks Slot Value scalarTexts)

structure Reply where
  id : Nat
  value : Option Value
  refusal : Option Refusal

/-- The value says why a request is refused; a message that is left out is empty. -/
structure Refusal.Of (refusal : Refusal) (v : Value) : Prop where
  kind : v.member? "kind" = some (.string refusal.kind)
  message : v.member? "message" = some (.string refusal.message) ∨
    (v.member? "message" = none ∧ refusal.message = "")

/-- The value says what a reply says. -/
structure Reply.Of (reply : Reply) (v : Value) : Prop where
  id : v.member? "id" = some (.nat reply.id)
  value : v.member? "ok" = reply.value
  refusal :
    match reply.refusal with
    | none => v.member? "error" = none ∨ v.member? "error" = some .null
    | some refusal => ∃ e, v.member? "error" = some e ∧ refusal.Of e

/-- What an error is made of: the name of its kind and a message. -/
def errorSlots : List Slot :=
  [⟨"kind", false, scalarTexts fun v => ∃ s, v = .string s⟩,
   ⟨"message", true, scalarTexts fun v => ∃ s, v = .string s⟩]

/-- What a reply is made of: a number, a value in which lists and objects nest to a depth, and an
error or null. -/
def replySlots (depth : Nat) : List Slot :=
  [⟨"id", false, scalarTexts fun v => ∃ n : Nat, v = .nat n⟩,
   ⟨"ok", true, fun cs v rest => Json.scanValue depth cs = .ok (v, rest)⟩,
   ⟨"error", true, fun cs v rest => scalarTexts (· = .null) cs v rest ∨
     ∃ ms, v = .object ms ∧ RecordTexts errorSlots cs ms rest⟩]

/-- The line is a reply: one record, with nothing but blanks around it. -/
def IsReply (line : String) (reply : Reply) : Prop :=
  ∃ ms rest, RecordTexts (replySlots (Json.depthLimit - 1)) (Text.trim line).toList ms rest ∧
    Json.skipSpace rest = [] ∧ reply.Of (.object ms)

/-! ## Replies are what the reader of replies reads -/

def errorFields : List Field := [.required "kind" Json.text, .optionally "message" Json.text]

def replyFields : List Field :=
  [.required "id" Json.natural, .optionally "ok" Json.anything,
   .optionally "error" (Json.nullOr errorReader)]

theorem map_slot_errorFields (depth : Nat) : errorFields.map (·.slot depth) = errorSlots := by
  have htext : ∀ (name : String) (optional : Bool),
      (Json.Field.mk name optional Json.text).slot depth = _ :=
    fun _ _ => Json.Field.slot_eq fun _ _ _ => Json.text_eq_ok_iff depth
  exact congrArg₂ List.cons (htext "kind" false) (congrArg ([·]) (htext "message" true))

theorem errorFields_shrink (depth : Nat) : ∀ field ∈ errorFields, Shrinks (field.reader depth) :=
  List.forall_mem_cons.2 ⟨Json.text_shrinks depth,
    List.forall_mem_singleton.2 (Json.text_shrinks depth)⟩

theorem map_slot_replyFields (depth : Nat) :
    replyFields.map (·.slot (depth + 1)) = replySlots (depth + 1) := by
  have hid : (Json.Field.required "id" Json.natural).slot (depth + 1) = _ :=
    Json.Field.slot_eq fun _ _ _ => Json.natural_eq_ok_iff (depth + 1)
  have herror : (Json.Field.optionally "error" (Json.nullOr errorReader)).slot (depth + 1) =
      ⟨"error", true, fun cs v rest => scalarTexts (· = .null) cs v rest ∨
        ∃ ms, v = .object ms ∧ RecordTexts (errorFields.map (·.slot depth)) cs ms rest⟩ :=
    Json.Field.slot_eq fun _ _ _ =>
      Json.nullOr_record_eq_ok_iff (by decide) (errorFields_shrink depth) "WireError"
  rw [map_slot_errorFields] at herror
  exact congrArg₂ List.cons hid (congrArg (_ :: [·]) herror)

theorem replyFields_shrink (depth : Nat) :
    ∀ field ∈ replyFields, Shrinks (field.reader (depth + 1)) :=
  have herror : Shrinks (Json.nullOr errorReader (depth + 1)) :=
    Json.nullOr_shrinks (Json.record_shrinks (by decide) (errorFields_shrink depth) "WireError")
  List.forall_mem_cons.2 ⟨Json.natural_shrinks (depth + 1), List.forall_mem_cons.2
    ⟨Json.scanValue_shrinks (depth + 1), List.forall_mem_singleton.2 herror⟩⟩

/-- **Reply lines.** The replies are the lines that the reader of replies reads. -/
theorem isReply_iff {line : String} {reply : Reply} :
    IsReply line reply ↔ ∃ v, replyReader.read (Text.trim line) = .ok v ∧ reply.Of v := by
  have hrecord : ∀ v rest,
      replyReader Json.depthLimit (Text.trim line).toList = .ok (v, rest) ↔
        ∃ ms, v = .object ms ∧ RecordTexts (replySlots (Json.depthLimit - 1))
          (Text.trim line).toList ms rest := by
    intro v rest
    show _ ↔ ∃ ms, v = .object ms ∧ RecordTexts (replySlots (125 + 1)) _ ms rest
    rw [← map_slot_replyFields 125]
    exact Json.record_eq_ok_iff (by decide) (replyFields_shrink 125) "WireResponse"
  constructor
  · rintro ⟨ms, rest, htexts, hrest, hof⟩
    refine ⟨.object ms, Json.readAll_eq_ok_iff.2 ⟨rest, (hrecord _ _).2 ⟨ms, rfl, htexts⟩, ?_⟩, hof⟩
    exact Json.scanEnd_eq_ok_iff.2 hrest
  · rintro ⟨v, hread, hof⟩
    obtain ⟨rest, hscan, hend⟩ := Json.readAll_eq_ok_iff.1 hread
    obtain ⟨ms, rfl, htexts⟩ := (hrecord v rest).1 hscan
    exact ⟨ms, rest, htexts, Json.scanEnd_eq_ok_iff.1 hend, hof⟩

/-! ## Each readable line is a reply -/

theorem Refusal.Of.isSome {refusal : Refusal} {v : Value} (h : refusal.Of v) :
    v.asObject?.isSome = true := by
  obtain ⟨ms, hms, -⟩ := Option.bind_eq_some_iff.1 h.kind
  rw [hms]
  rfl

theorem errorReader_gives (depth : Nat) :
    Gives (fun v => ∃ refusal : Refusal, refusal.Of v) (errorReader depth) := by
  intro cs v rest h
  obtain ⟨ms, rfl, hms⟩ := Json.record_gives (P := fun _ v => ∃ s, v = .string s) (by decide)
    (fun depth => List.forall_mem_cons.2 ⟨Json.text_gives depth,
      List.forall_mem_singleton.2 (Json.text_gives depth)⟩) _ _ _ _ _ _ h
  obtain ⟨kind, hkind⟩ := Table.mem_keys_iff.1 (hms.given _ (.head _) rfl)
  obtain ⟨kind, rfl⟩ := hms.distinct.2 _ (Table.mem_of_get? hkind)
  cases hmessage : ms.get? "message" with
  | none => exact ⟨⟨kind, ""⟩, hkind, .inr ⟨hmessage, rfl⟩⟩
  | some message =>
    obtain ⟨message, rfl⟩ := hms.distinct.2 _ (Table.mem_of_get? hmessage)
    exact ⟨⟨kind, message⟩, hkind, .inl hmessage⟩

/-- The shapes of the members of a reply. -/
def Shape (key : String) (v : Value) : Prop :=
  (key = "id" → ∃ n : Nat, v = .nat n) ∧
    (key = "error" → v = .null ∨ ∃ refusal : Refusal, refusal.Of v)

theorem replyReader_gives (depth : Nat) :
    Gives (fun v => ∃ reply : Reply, reply.Of v) (replyReader depth) := by
  have hid : ∀ depth, Gives (Shape "id") (Json.natural depth) := fun depth cs v rest h =>
    ⟨fun _ => Json.natural_gives depth cs v rest h, fun h => absurd h (by decide)⟩
  have hok : ∀ depth, Gives (Shape "ok") (Json.anything depth) := fun _ _ _ _ _ =>
    ⟨fun h => absurd h (by decide), fun h => absurd h (by decide)⟩
  have herror : ∀ depth, Gives (Shape "error") (Json.nullOr errorReader depth) :=
    fun depth cs v rest h =>
      ⟨fun h => absurd h (by decide),
        fun _ => Json.nullOr_gives (errorReader_gives depth) cs v rest h⟩
  intro cs v rest h
  obtain ⟨ms, rfl, hms⟩ := Json.record_gives (P := Shape) (by decide)
    (fun depth => List.forall_mem_cons.2 ⟨hid depth, List.forall_mem_cons.2 ⟨hok depth,
      List.forall_mem_singleton.2 (herror depth)⟩⟩) _ _ _ _ _ _ h
  obtain ⟨id, hid⟩ := Table.mem_keys_iff.1 (hms.given _ (.head _) rfl)
  obtain ⟨id, rfl⟩ := (hms.distinct.2 _ (Table.mem_of_get? hid)).1 rfl
  cases herror : ms.get? "error" with
  | none => exact ⟨⟨id, _, none⟩, hid, rfl, .inl herror⟩
  | some e =>
    rcases (hms.distinct.2 _ (Table.mem_of_get? herror)).2 rfl with rfl | ⟨refusal, hrefusal⟩
    · exact ⟨⟨id, _, none⟩, hid, rfl, .inr herror⟩
    · exact ⟨⟨id, _, some refusal⟩, hid, rfl, e, herror, hrefusal⟩

theorem exists_reply {line : String} {v : Value} (h : replyReader.read (Text.trim line) = .ok v) :
    ∃ reply, IsReply line reply := by
  obtain ⟨reply, hreply⟩ := (replyReader_gives Json.depthLimit).readAll h
  exact ⟨reply, isReply_iff.2 ⟨v, h, hreply⟩⟩

/-! ## A line says one thing -/

theorem Refusal.Of.unique {r q : Refusal} {v : Value} (hr : r.Of v) (hq : q.Of v) : r = q := by
  obtain ⟨kind, message⟩ := r
  obtain ⟨kind', message'⟩ := q
  cases hr.kind.symm.trans hq.kind
  rcases hr.message with hsome | ⟨hnone, rfl⟩
  · rcases hq.message with hsome' | ⟨hnone', -⟩
    · cases hsome.symm.trans hsome'
      rfl
    · cases hsome.symm.trans hnone'
  · rcases hq.message with hsome' | ⟨-, rfl⟩
    · cases hnone.symm.trans hsome'
    · rfl

theorem Reply.Of.reports {id : Nat} {value : Option Value} {refusal : Refusal} {v : Value}
    (h : (Reply.mk id value (some refusal)).Of v) :
    ¬ (v.member? "error" = none ∨ v.member? "error" = some .null) := by
  obtain ⟨e, he, hof⟩ := h.refusal
  rw [he]
  rintro (hnone | hnull)
  · cases hnone
  · cases hnull
    cases hof.isSome

theorem Reply.Of.unique {r q : Reply} {v : Value} (hr : r.Of v) (hq : q.Of v) : r = q := by
  obtain ⟨id, value, refusal⟩ := r
  obtain ⟨id', value', refusal'⟩ := q
  cases hr.id.symm.trans hq.id
  cases hr.value.symm.trans hq.value
  cases refusal with
  | none =>
    cases refusal' with
    | none => rfl
    | some refusal' => exact absurd hr.refusal hq.reports
  | some refusal =>
    obtain ⟨e, he, hof⟩ := hr.refusal
    cases refusal' with
    | none => exact absurd hq.refusal hr.reports
    | some refusal' =>
      obtain ⟨e', he', hof'⟩ := hq.refusal
      cases he.symm.trans he'
      rw [hof.unique hof']

theorem IsReply.unique {line : String} {r q : Reply} (hr : IsReply line r) (hq : IsReply line q) :
    r = q := by
  obtain ⟨v, hread, hr⟩ := isReply_iff.1 hr
  obtain ⟨w, hread', hq⟩ := isReply_iff.1 hq
  cases hread.symm.trans hread'
  exact hr.unique hq

/-! ## What a request gets -/

/-- What the request with a number gets from a reply. -/
def Reply.outcome (reply : Reply) (id : Nat) : Except HostError Value :=
  if reply.id ≠ id then
    .error (.protocol ("reply id " ++ toString reply.id ++ " does not match request id " ++
      toString id))
  else
    match reply.refusal with
    | some refusal => .error (errorOf refusal.kind refusal.message)
    | none => .ok (reply.value.getD .null)

theorem Reply.outcome_eq_ok_iff {reply : Reply} {id : Nat} {v : Value} :
    reply.outcome id = .ok v ↔
      reply.id = id ∧ reply.refusal = none ∧ v = reply.value.getD .null := by
  unfold outcome
  by_cases hid : reply.id = id
  · rw [if_neg (not_not_intro hid)]
    cases reply.refusal with
    | none =>
      rw [Except.ok.injEq, eq_comm (b := v)]
      exact ⟨fun hv => ⟨hid, rfl, hv⟩, fun h => h.2.2⟩
    | some refusal => exact ⟨nofun, fun h => nomatch h.2.1⟩
  · rw [if_pos hid]
    exact ⟨nofun, fun h => absurd h.1 hid⟩

theorem Reply.outcome_refused {reply : Reply} {id : Nat} {refusal : Refusal} (hid : reply.id = id)
    (h : reply.refusal = some refusal) {e : HostError} :
    reply.outcome id = .error e ↔ refusal.Means e := by
  unfold outcome
  rw [if_neg (not_not_intro hid), h, refusal.means_iff]
  exact ⟨fun he => (Except.error.inj he).symm, fun he => congrArg Except.error he.symm⟩

theorem Reply.outcome_other {reply : Reply} {id : Nat} (h : reply.id ≠ id) :
    ∃ reason, reply.outcome id = .error (.protocol reason) :=
  ⟨_, if_pos h⟩

/-- **Replies.** The request with a number gets what the reply says. -/
theorem readReply_eq {line : String} {reply : Reply} (h : IsReply line reply) (id : Nat) :
    readReply id line = reply.outcome id := by
  obtain ⟨v, hread, hid, hvalue, hrefusal⟩ := isReply_iff.1 h
  have hresult : (replyReader.read (Text.trim line)).mapError
      (fun e => HostError.protocol ("invalid bridge reply: " ++ e.message)) = .ok v := by
    rw [hread]
    rfl
  unfold readReply Reply.outcome
  rw [except_bind_ok hresult, hid, hvalue]
  show (if reply.id ≠ id then _ else _) = _
  by_cases hother : reply.id ≠ id
  · rw [if_pos hother, if_pos hother]
    rfl
  · rw [if_neg hother, if_neg hother]
    cases hkind : reply.refusal with
    | none =>
      rw [hkind] at hrefusal
      rcases hrefusal with hnone | hnull
      · rw [hnone]
        rfl
      · rw [hnull]
        rfl
    | some refusal =>
      rw [hkind] at hrefusal
      obtain ⟨e, he, hof⟩ := hrefusal
      have hmessage : e.stringAt "message" "" = refusal.message := by
        unfold Value.stringAt
        rcases hof.message with hsome | ⟨hnone, hempty⟩
        · rw [hsome]
          rfl
        · rw [hnone, hempty]
          rfl
      have hname : e.stringAt "kind" "" = refusal.kind := by
        unfold Value.stringAt
        rw [hof.kind]
        rfl
      have hkept : (some e).filter (fun v => v.asObject?.isSome) = some e := if_pos hof.isSome
      rw [he, hkept]
      dsimp only
      rw [hmessage, hname]

theorem readReply_unreadable {line : String} (h : ∀ reply, ¬ IsReply line reply) (id : Nat) :
    ∃ reason, readReply id line = .error (.protocol reason) := by
  cases hread : replyReader.read (Text.trim line) with
  | ok v =>
    obtain ⟨reply, hreply⟩ := exists_reply hread
    exact absurd hreply (h reply)
  | error e =>
    unfold readReply
    rw [hread]
    exact ⟨_, rfl⟩

/-! ## Replies as they are printed -/

def Refusal.toJson (refusal : Refusal) : Value :=
  .object [("kind", .string refusal.kind), ("message", .string refusal.message)]

/-- The members of a reply; what it does not say is left out. -/
def Reply.members (reply : Reply) : List (String × Value) :=
  ("id", .nat reply.id) :: ((reply.value.map fun v => ("ok", v)).toList ++
    (reply.refusal.map fun refusal => ("error", refusal.toJson)).toList)

def Reply.line (reply : Reply) : String :=
  (Value.object reply.members).compact

theorem Refusal.of_toJson (refusal : Refusal) : refusal.Of refusal.toJson := ⟨rfl, .inl rfl⟩

theorem Refusal.reads (l : Layout) (depth inside : Nat) (refusal : Refusal) :
    Reads (errorReader (depth + 1)) (refusal.toJson.spelled l inside) refusal.toJson := by
  have htext := Json.text_reads l depth (inside + 1)
  refine Json.record_reads l "WireError" false (by simp) ?_ (by simp)
  refine List.forall_mem_cons.2 ⟨⟨_, rfl, htext refusal.kind⟩, ?_⟩
  exact List.forall_mem_singleton.2 ⟨_, rfl, htext refusal.message⟩

theorem Reply.nodup_keys (reply : Reply) : (reply.members.map Prod.fst).Nodup := by
  unfold members
  cases reply.value <;> cases reply.refusal <;> simp

theorem Reply.of_members (reply : Reply) : reply.Of (.object reply.members) := by
  obtain ⟨id, value, refusal⟩ := reply
  cases refusal with
  | none => cases value <;> exact ⟨rfl, rfl, .inl rfl⟩
  | some refusal => cases value <;> exact ⟨rfl, rfl, _, rfl, refusal.of_toJson⟩

/-- A text in braces has no blanks at its ends. -/
theorem trim_braces {s : String} {cs : List Char} (h : s.toList = '{' :: (cs ++ ['}'])) :
    Text.trim s = s := by
  have hback : (cs ++ ['}']).reverse = '}' :: cs.reverse := List.reverse_concat
  have htrim : Text.trimList s.toList = s.toList := by
    unfold Text.trimList
    rw [h, List.dropWhile_cons_of_neg (by decide), List.reverse_cons, hback, List.cons_append,
      List.dropWhile_cons_of_neg (by decide)]
    simp
  unfold Text.trim
  rw [htrim, String.ofList_toList]

theorem Reply.reads (l : Layout) (depth inside : Nat) {reply : Reply} (hid : reply.id < 2 ^ 64)
    (hvalue : ∀ v ∈ reply.value, v.Plain (depth + 1)) :
    Reads (replyReader (depth + 2)) ((Value.object reply.members).spelled l inside)
      (.object reply.members) := by
  refine Json.record_reads l "WireResponse" false reply.nodup_keys ?_ (by simp [Reply.members])
  refine List.forall_mem_cons.2 ⟨⟨_, rfl, Json.natural_reads l (depth + 1) _ hid⟩, ?_⟩
  refine List.forall_mem_append.2 ⟨fun m hm => ?_, fun m hm => ?_⟩
  · obtain ⟨v, hv, rfl⟩ := Option.mem_map.1 (Option.mem_toList.1 hm)
    exact ⟨_, rfl, (hvalue v hv).reads l _⟩
  · obtain ⟨refusal, -, rfl⟩ := Option.mem_map.1 (Option.mem_toList.1 hm)
    have hbrace : ∀ rest, (Json.skipSpace (refusal.toJson.spelled l (inside + 1) ++ rest)).head? ≠
        some 'n' := fun rest => by
      unfold Refusal.toJson
      rw [Value.spelled, List.cons_append, Json.skipSpace_cons rfl, List.head?_cons]
      exact fun h => absurd (Option.some.inj h) (by decide)
    exact ⟨_, rfl, Json.nullOr_reads (refusal.reads l depth _) hbrace⟩

/-- **Printed replies.** What a reply says is read from its line. -/
theorem isReply_line {reply : Reply} (hid : reply.id < 2 ^ 64)
    (hvalue : ∀ v ∈ reply.value, v.Plain (Json.depthLimit - 1)) : IsReply reply.line reply := by
  have htext : reply.line.toList = (Value.object reply.members).spelled .oneLine 0 :=
    Value.toList_compact 0 _
  have hbraces : Text.trim reply.line = reply.line :=
    trim_braces (htext.trans (congrArg (List.cons '{') (List.append_assoc _ _ _).symm))
  refine isReply_iff.2 ⟨_, ?_, reply.of_members⟩
  rw [hbraces]
  exact (Reply.reads .oneLine 125 0 hid hvalue).readAll (List.forall_mem_nil _)
    (htext.trans (List.append_nil _).symm)

end AssetCheck.Wire
