/-!
Lines of a text. A line ends at a line feed, or at a carriage return followed by a line feed; the end
of the text ends a last line that holds a character. A carriage return elsewhere belongs to its line.
-/

namespace AssetCheck.Text

def consLine (c : Char) : List (List Char) → List (List Char)
  | [] => [[c]]
  | line :: rest => (c :: line) :: rest

/-- The lines of a sequence of characters, without their ends. -/
def linesOf : List Char → List (List Char)
  | [] => []
  | '\r' :: '\n' :: rest => [] :: linesOf rest
  | '\n' :: rest => [] :: linesOf rest
  | c :: rest => consLine c (linesOf rest)

def lines (s : String) : List String := (linesOf s.toList).map String.ofList

@[simp] theorem linesOf_nil : linesOf [] = [] := rfl

theorem consLine_ne_nil (c : Char) (lines : List (List Char)) : consLine c lines ≠ [] := by
  cases lines <;> exact List.cons_ne_nil _ _

/-- Only the empty text has no line. -/
theorem linesOf_eq_nil_iff {cs : List Char} : linesOf cs = [] ↔ cs = [] := by
  fun_cases linesOf cs with
  | case1 => simp
  | case2 rest => simp
  | case3 rest => simp
  | case4 c rest => simp [consLine_ne_nil]

theorem lineFeed_not_mem_consLine {c : Char} {lines : List (List Char)} (hc : c ≠ '\n')
    (h : ∀ line ∈ lines, '\n' ∉ line) : ∀ line ∈ consLine c lines, '\n' ∉ line := by
  cases lines with
  | nil => simp [consLine, hc.symm]
  | cons first others =>
    obtain ⟨hfirst, hothers⟩ := List.forall_mem_cons.1 h
    refine List.forall_mem_cons.2 ⟨fun hmem => ?_, hothers⟩
    rcases List.mem_cons.1 hmem with heq | hmem
    · exact hc heq.symm
    · exact hfirst hmem

theorem lineFeed_not_mem_linesOf (cs : List Char) : ∀ line ∈ linesOf cs, '\n' ∉ line := by
  fun_induction linesOf cs with
  | case1 => exact List.forall_mem_nil _
  | case2 rest ih => exact List.forall_mem_cons.2 ⟨List.not_mem_nil, ih⟩
  | case3 rest ih => exact List.forall_mem_cons.2 ⟨List.not_mem_nil, ih⟩
  | case4 c rest _ hc ih => exact lineFeed_not_mem_consLine hc ih

end AssetCheck.Text
