import AssetCheck.Proofs.Bridge.InStep
import AssetCheck.Proofs.Pipeline.RoundTrip

/-!
# Requests are framed and can be read back

Whatever an operation is asked with, its line holds no byte that ends a line, so each request is one
line (`newline_not_mem_toUTF8`). Where no double is sent, the line is read as the number, the name
and the arguments that it was made from (`parse_line`), and these tell the operation: `Wire.asked?`
finds it again. So no two requests have one line (`requests_framed`).
-/

namespace AssetCheck

open Json (Value)

/-! ## Bytes of a line -/

theorem toList_toUTF8 (s : String) :
    s.toUTF8.data.toList = s.toList.flatMap String.utf8EncodeChar := by
  obtain ⟨cs, rfl⟩ : ∃ cs, s = String.ofList cs := ⟨s.toList, String.ofList_toList.symm⟩
  rw [String.toList_ofList]
  show (cs.flatMap String.utf8EncodeChar).toByteArray.data.toList = _
  rw [List.data_toByteArray]

/-- A byte of a character is its code, or lies above all codes of one byte. -/
theorem byte_cases {c : Char} {b : UInt8} (h : b ∈ String.utf8EncodeChar c) :
    b.toNat = c.toNat ∨ 128 ≤ b.toNat := by
  have hcode : c.val.toNat = c.toNat := rfl
  grind [String.utf8EncodeChar, UInt8.toNat_ofNat']

theorem newline_not_mem_toUTF8 {s : String} (h : '\n' ∉ s.toList) :
    (10 : UInt8) ∉ s.toUTF8.data.toList := by
  rw [toList_toUTF8, List.mem_flatMap]
  rintro ⟨c, hc, hbyte⟩
  have hcode : c.toNat = 10 := by
    rcases byte_cases hbyte with heq | hhigh
    · exact heq.symm
    · exact absurd hhigh (by decide)
  have hnewline : c = '\n' := Char.toNat_inj.1 hcode
  exact h (hnewline ▸ hc)

/-! ## Reading a request -/

namespace Wire

def node? (args : Table String Value) : Option NodeHandle :=
  ((args.get? "node").bind (·.asNat?)).map NodeHandle.mk

def text? (key : String) (args : Table String Value) : Option String :=
  (args.get? key).bind (·.asString?)

/-- What a request asks for: something about the graph, or to save the scene at a path. -/
abbrev Asked := Request ⊕ String

def parameter? (args : Table String Value) : Option ParameterHandle := do
  return ⟨← node? args, ← text? "name" args⟩

/-- What the name and the arguments of an operation ask for. -/
def asked? (operation : String) (args : Table String Value) : Option Asked :=
  match operation with
  | "create_node" => (text? "type_name" args).map (.inl ∘ .createNode)
  | "destroy_node" => (node? args).map (.inl ∘ .destroyNode)
  | "connect_input" => do
    let source ← (args.get? "upstream").bind (·.asNat?)
    return .inl (.connectInput (← node? args) ⟨source⟩)
  | "node_name" => (node? args).map (.inl ∘ .nodeName)
  | "node_type" => (node? args).map (.inl ∘ .nodeType)
  | "get_parameter" => (parameter? args).map fun p => .inl (.findParameter p.node p.name)
  | "set_parameter" => do
    let value ← (args.get? "value").bind ParamValue.ofJson?
    return .inl (.setParameter (← parameter? args) value)
  | "parameter_value" => (parameter? args).map (.inl ∘ .parameterValue)
  | "get_trigger" => (parameter? args).map fun p => .inl (.findTrigger p.node p.name)
  | "fire_trigger" => (parameter? args).map fun p => .inl (.fireTrigger ⟨p.node, p.name⟩)
  | "cook" => (node? args).map (.inl ∘ .cook)
  | "warnings" => (node? args).map (.inl ∘ .warnings)
  | "errors" => (node? args).map (.inl ∘ .errors)
  | "inputs" => (node? args).map (.inl ∘ .inputs)
  | "layout" => some (.inl .layout)
  | "save_scene" => (text? "path" args).map .inr
  | _ => none

end Wire

namespace Bridge.Operation

/-- What an operation asks the bridge for. A path is sent with forward slashes. -/
def asked : Operation → Wire.Asked
  | .ask request => .inl request
  | .save path _ => .inr (Text.replaceChar '\\' '/' path)

/-- No double is sent. -/
def FloatFree : Operation → Prop
  | .ask (.setParameter _ value) => value.isFloat = false
  | _ => True

def handles : Operation → List NodeHandle
  | .ask (.connectInput node source) => [node, source]
  | .ask (.setParameter parameter _) | .ask (.parameterValue parameter) => [parameter.node]
  | .ask (.fireTrigger action) => [action.node]
  | .ask (.destroyNode node) | .ask (.nodeName node) | .ask (.nodeType node)
  | .ask (.findParameter node _) | .ask (.findTrigger node _) | .ask (.cook node)
  | .ask (.warnings node) | .ask (.errors node) | .ask (.inputs node) => [node]
  | .ask (.createNode _) | .ask .layout | .save _ _ => []

/-- The handles fit 64 bits. -/
def Sized (op : Operation) : Prop := ∀ node ∈ op.handles, node.id < 2 ^ 64

/-- **Arguments.** The name and the arguments tell what is asked for. -/
theorem asked?_eq {op : Operation} (h : op.FloatFree) :
    Wire.asked? op.name op.arguments = some op.asked := by
  cases op with
  | save path files => rfl
  | ask request =>
    cases request with
    | setParameter parameter value =>
      have hread : Wire.asked? "set_parameter" (Wire.arguments (.setParameter parameter value)) =
          (ParamValue.ofJson? value.toJson).bind fun value =>
            some (.inl (.setParameter parameter value)) := rfl
      rw [ParamValue.ofJson?_toJson (ParamValue.isFinite_of_isFloat_eq_false h)] at hread
      exact hread
    | _ => rfl

theorem plain_nat {n : Nat} (h : n < 2 ^ 64) (depth : Nat) : (Value.nat n).Plain depth :=
  .whole depth (by omega) (by exact_mod_cast h)

theorem arguments_nodup (op : Operation) : (op.arguments.map Prod.fst).Nodup := by
  cases op with
  | save path files => exact List.pairwise_singleton _ _
  | ask request => cases request <;> simp [arguments, Wire.arguments, Wire.node, Wire.name]

theorem plain_arguments {op : Operation} (hfree : op.FloatFree) (hsized : op.Sized) (depth : Nat) :
    (Value.object op.arguments).Plain (depth + 1) := by
  refine .object op.arguments_nodup ?_
  cases op with
  | save path files => exact List.forall_mem_singleton.2 (.string depth _)
  | ask request =>
    have hnode : ∀ node ∈ (ask request).handles, (Value.nat node.id).Plain depth := fun node h =>
      plain_nat (hsized node h) depth
    have hslot : (Value.nat 0).Plain depth := plain_nat (by decide) depth
    have hstring := Value.Plain.string depth
    cases request with
    | setParameter parameter value =>
      have hvalue : value.toJson.Plain depth := value.plain_toJson hfree depth
      simp_all [arguments, Wire.arguments, Wire.node, Wire.name, handles]
    | _ => simp_all [arguments, Wire.arguments, Wire.node, Wire.name, handles]

/-! ## Lines -/

def line (op : Operation) (id : Nat) : String := Wire.requestLine id op.name op.arguments

theorem plain_line {op : Operation} {id : Nat} (hfree : op.FloatFree) (hsized : op.Sized)
    (hid : id < 2 ^ 64) :
    (Value.object [("id", .nat id), ("op", .string op.name),
      ("args", .object op.arguments)]).Plain Json.depthLimit := by
  refine .object (show ["id", "op", "args"].Nodup by decide) ?_
  refine List.forall_mem_cons.2 ⟨plain_nat hid _, List.forall_mem_cons.2 ⟨.string _ _, ?_⟩⟩
  exact List.forall_mem_singleton.2 (plain_arguments hfree hsized _)

theorem parse_line {op : Operation} {id : Nat} (hfree : op.FloatFree) (hsized : op.Sized)
    (hid : id < 2 ^ 64) :
    Json.parse (op.line id) =
      .ok (.object [("id", .nat id), ("op", .string op.name), ("args", .object op.arguments)]) :=
  Json.parse_compact (plain_line hfree hsized hid)

theorem line_inj {op other : Operation} {id otherId : Nat} (hfree : op.FloatFree)
    (hsized : op.Sized) (hid : id < 2 ^ 64) (hfree' : other.FloatFree) (hsized' : other.Sized)
    (hid' : otherId < 2 ^ 64) (hline : op.line id = other.line otherId) :
    id = otherId ∧ op.asked = other.asked := by
  have hread := parse_line hfree hsized hid
  rw [hline, parse_line hfree' hsized' hid'] at hread
  simp only [Except.ok.injEq, Value.object.injEq, List.cons.injEq, Prod.mk.injEq, true_and,
    Value.number.injEq, Json.Number.int.injEq, Value.string.injEq, and_true, Int.natCast_inj]
    at hread
  obtain ⟨rfl, hname, harguments⟩ := hread
  have hasked := asked?_eq hfree'
  rw [hname, harguments, asked?_eq hfree] at hasked
  exact ⟨rfl, Option.some.inj hasked⟩

/-- **Framed and reversible.** The line of an operation holds no byte that ends a line, and is what
a bridge that listens hears. Where no double is sent, it is read as its number, its name and its
arguments; numbers and handles are of 64 bits. So no line asks for two things. -/
theorem requests_framed (op : Operation) :
    (∀ id, (10 : UInt8) ∉ (op.line id).toUTF8.data.toList) ∧
    (∀ b : Bridge, b.hungUp = false →
      (op.after b).heard = b.heard ++ [op.line (b.lastId + 1)]) ∧
    (op.FloatFree → op.Sized → ∀ id < 2 ^ 64,
      Json.parse (op.line id) =
        .ok (.object [("id", .nat id), ("op", .string op.name), ("args", .object op.arguments)]) ∧
      ∀ other : Operation, other.FloatFree → other.Sized → ∀ otherId < 2 ^ 64,
        op.line id = other.line otherId → id = otherId ∧ op.asked = other.asked) := by
  refine ⟨fun id => ?_, fun b h => ?_, fun hfree hsized id hid => ⟨?_, ?_⟩⟩
  · exact newline_not_mem_toUTF8 (Json.newline_not_mem_compact _)
  · rw [op.after_eq (call_eq h op.name op.arguments)]
    rfl
  · exact parse_line hfree hsized hid
  · exact fun other hfree' hsized' otherId hid' => line_inj hfree hsized hid hfree' hsized' hid'

/-- A path with a backslash, a quote and a line feed. -/
def awkward : Operation := .save "a\\\"b\n" (.empty ["work"])

theorem requests_framed_awkward :
    ((awkward.after ⟨6, [], [], [], false⟩).heard = [awkward.line 7] ∧
      (10 : UInt8) ∉ (awkward.line 7).toUTF8.data.toList) ∧
    Json.parse (awkward.line 7) =
      .ok (.object [("id", .nat 7), ("op", .string "save_scene"),
        ("args", .object [("path", .string "a/\"b\n")])]) ∧
    awkward.line 7 ≠ (ask (.createNode "a/\"b\n")).line 7 := by
  have hsized : awkward.Sized := List.forall_mem_nil _
  obtain ⟨hframed, hheard, hread⟩ := requests_framed awkward
  obtain ⟨hparse, hother⟩ := hread trivial hsized 7 (by decide)
  refine ⟨⟨hheard ⟨6, [], [], [], false⟩ rfl, hframed 7⟩, hparse, fun hline => ?_⟩
  obtain ⟨-, hasked⟩ := hother (.ask (.createNode "a/\"b\n")) trivial (List.forall_mem_nil _) 7
    (by decide) hline
  cases hasked

end Bridge.Operation

end AssetCheck
