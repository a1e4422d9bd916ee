import AssetCheck.Json.Printer
import AssetCheck.Json.Scan

/-!
# Layouts

Compact and indented text of a value differ in the blanks between its parts only. `Value.spelled` is
the text in any layout; what is proved of it holds for both ways to print.
-/

namespace AssetCheck.Json

/-- The blanks in front of an element, a member or a closing bracket at some depth, and behind a
colon. -/
structure Layout where
  line : Nat → List Char
  gap : List Char
  blank_line : ∀ depth, ∀ c ∈ line depth, isSpace c = true
  blank_gap : ∀ c ∈ gap, isSpace c = true

/-- No blanks. -/
def Layout.oneLine : Layout where
  line := fun _ => []
  gap := []
  blank_line := by intro depth c h; cases h
  blank_gap := by intro c h; cases h

@[simp] theorem Layout.oneLine_line (depth : Nat) : oneLine.line depth = [] := rfl

@[simp] theorem Layout.oneLine_gap : oneLine.gap = [] := rfl

/-- Each part on a line of its own. -/
def Layout.indented : Layout where
  line := fun depth => '\n' :: List.replicate (2 * depth) ' '
  gap := [' ']
  blank_line := by
    intro depth c h
    rcases List.mem_cons.1 h with rfl | h
    · rfl
    · rw [List.eq_of_mem_replicate h]
      rfl
  blank_gap := by intro c h; rw [List.mem_singleton.1 h]; rfl

/-- Parts with commas between them, and what closes them. -/
def Layout.enclosed (l : Layout) (depth : Nat) (close : Char) (parts : List (List Char)) :
    List Char :=
  [','].intercalate parts ++ ((if parts = [] then [] else l.line depth) ++ [close])

theorem Layout.enclosed_cons (l : Layout) (depth : Nat) (close : Char) (part : List Char)
    (parts : List (List Char)) :
    l.enclosed depth close (part :: parts) =
      part ++ (parts.flatMap (',' :: ·) ++ (l.line depth ++ [close])) := by
  unfold enclosed
  rw [if_neg (List.cons_ne_nil _ _), ← List.append_assoc part]
  congr 1
  induction parts generalizing part with
  | nil => simp
  | cons next parts ih => rw [List.intercalate_cons_cons, ih, List.flatMap_cons]; simp

mutual

def Value.spelled (l : Layout) (depth : Nat) : Value → List Char
  | .null => "null".toList
  | .bool true => "true".toList
  | .bool false => "false".toList
  | .number n => n.write.toList
  | .string s => (writeString s).toList
  | .array vs => '[' :: l.enclosed depth ']' (spelledElements l (depth + 1) vs)
  | .object ms => '{' :: l.enclosed depth '}' (spelledMembers l (depth + 1) ms)

def spelledElements (l : Layout) (depth : Nat) : List Value → List (List Char)
  | [] => []
  | v :: vs => (l.line depth ++ v.spelled l depth) :: spelledElements l depth vs

def spelledMembers (l : Layout) (depth : Nat) : List (String × Value) → List (List Char)
  | [] => []
  | (k, v) :: ms =>
    (l.line depth ++ ((writeString k).toList ++ ':' :: (l.gap ++ v.spelled l depth))) ::
      spelledMembers l depth ms

end

theorem spelledElements_eq_map (l : Layout) (depth : Nat) (vs : List Value) :
    spelledElements l depth vs = vs.map fun v => l.line depth ++ v.spelled l depth := by
  induction vs with
  | nil => rfl
  | cons v vs ih => rw [spelledElements, ih]; rfl

theorem spelledMembers_eq_map (l : Layout) (depth : Nat) (ms : List (String × Value)) :
    spelledMembers l depth ms = ms.map fun m =>
      l.line depth ++ ((writeString m.1).toList ++ ':' :: (l.gap ++ m.2.spelled l depth)) := by
  induction ms with
  | nil => rfl
  | cons m ms ih => rw [spelledMembers, ih]; rfl

mutual

/-- **Compact.** -/
theorem Value.toList_compact (depth : Nat) :
    (v : Value) → v.compact.toList = v.spelled .oneLine depth
  | .null => rfl
  | .bool true => rfl
  | .bool false => rfl
  | .number n => rfl
  | .string s => rfl
  | .array vs => by
    rw [Value.compact, Value.spelled, Layout.enclosed]
    simp only [String.toList_append, String.toList_intercalate, toList_compactElements (depth + 1),
      List.append_assoc]
    cases vs <;> rfl
  | .object ms => by
    rw [Value.compact, Value.spelled, Layout.enclosed]
    simp only [String.toList_append, String.toList_intercalate, toList_compactMembers (depth + 1),
      List.append_assoc]
    cases ms <;> rfl

theorem toList_compactElements (depth : Nat) : (vs : List Value) →
    (compactElements vs).map String.toList = spelledElements .oneLine depth vs
  | [] => rfl
  | v :: vs => by
    rw [compactElements, spelledElements, List.map_cons, v.toList_compact depth,
      toList_compactElements depth vs, Layout.oneLine_line, List.nil_append]

theorem toList_compactMembers (depth : Nat) : (ms : List (String × Value)) →
    (compactMembers ms).map String.toList = spelledMembers .oneLine depth ms
  | [] => rfl
  | (k, v) :: ms => by
    rw [compactMembers, spelledMembers, List.map_cons, toList_compactMembers depth ms]
    simp only [String.toList_append, v.toList_compact depth, List.append_assoc, Layout.oneLine_line,
      Layout.oneLine_gap, List.nil_append]
    rfl

end

theorem toList_newLine (depth : Nat) : (newLine depth).toList = Layout.indented.line depth := by
  unfold newLine
  rw [String.toList_ofList]
  rfl

mutual

/-- **Indented.** -/
theorem Value.toList_prettyAt (depth : Nat) :
    (v : Value) → (v.prettyAt depth).toList = v.spelled .indented depth
  | .null => rfl
  | .bool true => rfl
  | .bool false => rfl
  | .number n => rfl
  | .string s => rfl
  | .array [] => show "[]".toList = ['[', ']'] by decide
  | .array (v :: vs) => by
    have hne : spelledElements .indented (depth + 1) (v :: vs) ≠ [] := List.cons_ne_nil _ _
    rw [Value.prettyAt, Value.spelled, Layout.enclosed, if_neg hne]
    simp only [String.toList_append, String.toList_intercalate, toList_prettyElements,
      toList_newLine, List.append_assoc]
    rfl
  | .object [] => show "\x7b\x7d".toList = ['{', '}'] by decide
  | .object (m :: ms) => by
    have hne : spelledMembers .indented (depth + 1) (m :: ms) ≠ [] := List.cons_ne_nil _ _
    rw [Value.prettyAt, Value.spelled, Layout.enclosed, if_neg hne]
    simp only [String.toList_append, String.toList_intercalate, toList_prettyMembers,
      toList_newLine, List.append_assoc]
    rfl

theorem toList_prettyElements (depth : Nat) : (vs : List Value) →
    (prettyElements depth vs).map String.toList = spelledElements .indented depth vs
  | [] => rfl
  | v :: vs => by
    rw [prettyElements, spelledElements, List.map_cons, String.toList_append, toList_newLine,
      v.toList_prettyAt depth, toList_prettyElements depth vs]

theorem toList_prettyMembers (depth : Nat) : (ms : List (String × Value)) →
    (prettyMembers depth ms).map String.toList = spelledMembers .indented depth ms
  | [] => rfl
  | (k, v) :: ms => by
    rw [prettyMembers, spelledMembers, List.map_cons, toList_prettyMembers depth ms]
    simp only [String.toList_append, toList_newLine, v.toList_prettyAt depth, List.append_assoc]
    rfl

end

end AssetCheck.Json
