import AssetCheck.Proofs.Json.Refusals
import AssetCheck.Proofs.Pipeline.Grammar
import AssetCheck.Proofs.Report.RoundTrip
import AssetCheck.Verdict

/-!
# Verdicts come through

The warning by which a node gives a verdict is read as that verdict, whatever the message holds
(`read_named`); one that names no verdict is refused (`read_unnamed`). Errors count before all
warnings, unless all of them together are an empty text, and of the warnings only the first one
counts (`classify_errors`, `classify_warning`).
-/

namespace AssetCheck.Verdict

open Json (Layout Value)

/-! ## Warnings -/

def toJson (status message : String) : Value :=
  .object [("status", .string status), ("message", .string message)]

theorem after?_warning (status message : String) :
    Text.after? lead (warning status message) = some (toJson status message).pretty :=
  Text.after?_eq_some_iff.2 rfl

theorem toList_pretty (v : Value) : v.pretty.toList = v.spelled .indented 0 :=
  Value.toList_prettyAt 0 v

theorem read_named (s : Status) (message : String) :
    read (toJson s.name message).pretty = .ok (s, message) := by
  have hreads : Json.Reads (reader Json.depthLimit)
      ((toJson s.name message).spelled .indented 0) (toJson s.name message) := by
    refine Json.record_reads .indented "WarningRecord" false (by simp) ?_ (by simp)
    refine List.forall_mem_cons.2 ⟨⟨_, rfl, Status.reader_reads .indented 126 1 s⟩, ?_⟩
    exact List.forall_mem_singleton.2 ⟨_, rfl, Json.text_reads .indented 126 1 message⟩
  have hread : reader.read (toJson s.name message).pretty = .ok (toJson s.name message) :=
    hreads.readAll (List.forall_mem_nil _) (by rw [List.append_nil, toList_pretty])
  have hstatus : (toJson s.name message).stringAt "status" "" = s.name := rfl
  unfold read
  rw [hread]
  show Except.ok ((Status.ofName? _).getD .error, message) = _
  rw [hstatus, Status.ofName?_name]
  rfl

theorem not_mem_names {status : String} (h : ∀ s : Status, s.name ≠ status) :
    status ∉ Status.all.map Status.name := by
  intro hmem
  obtain ⟨s, -, hs⟩ := List.mem_map.1 hmem
  exact h s hs

/-- What is no verdict is refused by its name. -/
theorem read_unnamed {status : String} (h : ∀ s : Status, s.name ≠ status) (message : String) :
    ∃ position, read (toJson status message).pretty =
      .error ⟨.unknownVariant status (Status.all.map Status.name), some position⟩ := by
  have hstatus := Json.oneOf_refuses .indented 126 1 (not_mem_names h)
  have hrefuses : Json.Refuses (reader Json.depthLimit)
      ((toJson status message).spelled .indented 0)
      (.unknownVariant status (Status.all.map Status.name)) :=
    @Json.record_refuses .indented "WarningRecord" false _ 126 0 ("status", .string status)
      (.required "status" Status.reader) _ rfl hstatus _
  obtain ⟨position, hread⟩ := hrefuses.readAll (toList_pretty (toJson status message))
  refine ⟨position, ?_⟩
  have hread : reader.read (toJson status message).pretty = _ := hread
  unfold read
  rw [hread]
  rfl

/-! ## Errors -/

/-- Errors together are an empty text if there is none, or a single empty one. -/
theorem intercalate_ne_empty_iff {errors : List String} :
    String.intercalate "\n" errors ≠ "" ↔
      2 ≤ errors.length ∨ ∃ e, errors = [e] ∧ e ≠ "" := by
  match errors with
  | [] => simp
  | [e] => simp
  | first :: second :: rest => simp [String.intercalate_cons_cons]

/-! ## Classification -/

variable (name typeName : String) {errors : List String} (config : Config)

theorem classify_errors (h : String.intercalate "\n" errors ≠ "") (warnings : List String) :
    classify name typeName warnings errors config =
      .ok ⟨String.intercalate "\n" errors, name, typeName, .error⟩ :=
  if_pos h

theorem classify_warning (h : String.intercalate "\n" errors = "") (status message : String)
    (further : List String) :
    classify name typeName (warning status message :: further) errors config =
      match read (toJson status message).pretty with
      | .ok (status, message) => .ok ⟨message, name, typeName, status⟩
      | .error e => .error (.malformedWarning name (warning status message) e.message) := by
  refine (if_neg (not_not_intro h)).trans ?_
  cases hread : read (toJson status message).pretty with
  | ok verdict => simp only [after?_warning, Option.getD_some, hread]
  | error e => simp only [after?_warning, Option.getD_some, hread]

/-- **Classification.** Unless there are errors, a node has the verdict and the message of the
warning that gives them, and one that names no verdict is reported with the warning; further
warnings do not matter. Errors count whatever the warnings are: two of them, or one that is not
empty. -/
theorem classify_follows (errors : List String) :
    (String.intercalate "\n" errors = "" → ∀ status message,
      (∀ s : Status, s.name = status → ∀ further,
        classify name typeName (warning status message :: further) errors config =
          .ok ⟨message, name, typeName, s⟩) ∧
      ((∀ s : Status, s.name ≠ status) → ∃ position : Json.Position, ∀ further,
        classify name typeName (warning status message :: further) errors config =
          .error (.malformedWarning name (warning status message)
            (Json.Error.message
              ⟨.unknownVariant status (Status.all.map Status.name), some position⟩)))) ∧
    (String.intercalate "\n" errors ≠ "" ↔ 2 ≤ errors.length ∨ ∃ e, errors = [e] ∧ e ≠ "") ∧
    (String.intercalate "\n" errors ≠ "" → ∀ warnings,
      classify name typeName warnings errors config =
        .ok ⟨String.intercalate "\n" errors, name, typeName, .error⟩) := by
  refine ⟨fun hnone status message => ⟨?_, fun hunnamed => ?_⟩, intercalate_ne_empty_iff,
    classify_errors name typeName config⟩
  · rintro s rfl further
    rw [classify_warning name typeName config hnone, read_named]
  · obtain ⟨position, hread⟩ := read_unnamed hunnamed message
    refine ⟨position, fun further => ?_⟩
    rw [classify_warning name typeName config hnone, hread]

/-- A message that looks like a warning, a verdict that there is none of, and an error behind an
empty one. -/
theorem classify_follows_awkward :
    classify "uv1" "check_uv" [warning "warn" "Vex error: \x7b\"status\": \"fail\"\x7d\n\\\x01",
        warning "fail" ""] [""] {} =
      .ok ⟨"Vex error: \x7b\"status\": \"fail\"\x7d\n\\\x01", "uv1", "check_uv", .warn⟩ ∧
    (∃ reason, classify "uv1" "check_uv" [warning "Pass" "", warning "pass" ""] [] {} =
      .error (.malformedWarning "uv1" (warning "Pass" "") reason)) ∧
    classify "uv1" "check_uv" ["no verdict"] ["", "open edge"] {} =
      .ok ⟨"\nopen edge", "uv1", "check_uv", .error⟩ := by
  have hunnamed : ∀ s : Status, s.name ≠ "Pass" := by
    intro s
    cases s <;> decide
  obtain ⟨position, hmalformed⟩ :=
    ((classify_follows "uv1" "check_uv" {} []).1 rfl "Pass" "").2 hunnamed
  refine ⟨?_, ⟨_, hmalformed [warning "pass" ""]⟩, ?_⟩
  · exact ((classify_follows "uv1" "check_uv" {} [""]).1 rfl "warn" _).1 .warn rfl _
  · exact (classify_follows "uv1" "check_uv" {} ["", "open edge"]).2.2 (by decide) _

end AssetCheck.Verdict
