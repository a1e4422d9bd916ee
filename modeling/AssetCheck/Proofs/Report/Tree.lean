import Mathlib.Data.List.Basic
import AssetCheck.Proofs.Step
import AssetCheck.Report.Tree

/-!
# Trees can be read back

Two reports on one asset with the same nodes have the same tree exactly if each node has the same
verdict and the same lines of its message (`tree_eq_iff`). No message can be taken for a verdict or
for the message of another node: its lines stand behind an indent, and what comes after them does
not (`Unindented`). So the lines of a message can be told from what follows them
(`below_append_inj`), and the branches from each other, from the first to the last
(`branches_inj`).
-/

namespace AssetCheck

/-! ## Parts of a branch -/

namespace Branch

/-- What leads to the name of a node. -/
def twig (isLast : Bool) : List Char := (if isLast then "└── " else "├── ").toList

/-- What stands in front of the lines under the name of a node. -/
def indent (isLast : Bool) : List Char := (if isLast then "    " else "│   ").toList

/-- What leads to a verdict, by the message that comes under it. -/
def corner (message : String) : List Char := (if message = "" then "└── " else "├── ").toList

def led (lead line : List Char) : List Char := lead ++ (line ++ ['\n'])

/-- The lines of a message behind an indent. -/
def below (indent : List Char) : List (List Char) → List Char
  | [] => []
  | first :: others =>
    led (indent ++ "└── ".toList) first ++ others.flatMap (led (indent ++ "    ".toList))

end Branch

open Branch

theorem toList_textLine (parts : List String) :
    (textLine parts).toList = parts.flatMap String.toList ++ ['\n'] := by
  unfold textLine
  rw [String.toList_append, String.toList_join]
  rfl

theorem toList_messageLines (lead : String) (lines : List (List Char)) :
    (messageLines lead (lines.map String.ofList)).toList = below lead.toList lines := by
  cases lines with
  | nil => rfl
  | cons first others =>
    have hled : ∀ corner line, (textLine [lead, corner, String.ofList line]).toList =
        led (lead.toList ++ corner.toList) line := by
      simp [toList_textLine, led]
    rw [List.map_cons, messageLines, below, String.toList_append, String.toList_join, List.map_map,
      List.flatMap_map, hled]
    exact congrArg _ (List.flatMap_congr fun line _ => hled _ line)

/-- **A branch.** The name of its node, its verdict, and the lines of its message. -/
theorem Diagnostic.toList_branch (d : Diagnostic) (isLast : Bool) :
    (d.branch isLast).toList =
      (twig isLast ++ (d.nodeName.toList ++ ('\n' :: indent isLast))) ++
        (corner d.message ++ (d.status.capitals.toList ++ ((" | ".toList ++
          (d.nodeType.toList ++ ['\n'])) ++
            below (indent isLast) (Text.linesOf d.message.toList)))) := by
  have hbranch : d.branch isLast = textLine [if isLast then "└── " else "├── ", d.nodeName] ++
      (textLine [if isLast then "    " else "│   ", if d.message = "" then "└── " else "├── ",
          d.status.capitals, " | ", d.nodeType] ++
        messageLines (if isLast then "    " else "│   ") (Text.lines d.message)) := by
    unfold Diagnostic.branch
    by_cases h : d.message = "" <;> cases isLast <;> simp [h, Text.lines, messageLines]
  rw [hbranch, Text.lines]
  simp [toList_textLine, toList_messageLines, twig, indent, corner]

/-! ## Lines of a message -/

/-- The text does not begin with what is under a branch. -/
def Unindented (isLast : Bool) (cs : List Char) : Prop := ¬ indent isLast <+: cs

/-- What stands before the first separator is told from what stands behind it. -/
theorem append_cons_inj {α : Type} {sep : α} {front other x y : List α} (hfront : sep ∉ front)
    (hother : sep ∉ other) :
    front ++ sep :: x = other ++ sep :: y ↔ front = other ∧ x = y := by
  induction front generalizing other with
  | nil =>
    cases other with
    | nil => simp
    | cons c other =>
      refine ⟨fun h => ?_, fun h => nomatch h.1⟩
      exact absurd (List.cons.inj h).1 (List.ne_of_not_mem_cons hother)
  | cons c front ih =>
    have hc := List.ne_of_not_mem_cons hfront
    cases other with
    | nil => exact ⟨fun h => absurd (List.cons.inj h).1.symm hc, fun h => nomatch h.1⟩
    | cons d other =>
      rw [List.cons_append, List.cons_append, List.cons.injEq, List.cons.injEq,
        ih (List.not_mem_of_not_mem_cons hfront) (List.not_mem_of_not_mem_cons hother), and_assoc]

theorem led_append_inj {lead line other x y : List Char} (hline : '\n' ∉ line)
    (hother : '\n' ∉ other) :
    led lead line ++ x = led lead other ++ y ↔ line = other ∧ x = y := by
  unfold led
  simp only [List.append_assoc, List.append_cancel_left_eq, List.singleton_append]
  exact append_cons_inj hline hother

section Below

variable {isLast : Bool} {x y : List Char} (hx : Unindented isLast x) (hy : Unindented isLast y)

include hx

/-- What follows a message is none of its lines. -/
theorem ne_led_append (lead line rest : List Char) :
    x ≠ led (indent isLast ++ lead) line ++ rest := by
  rintro rfl
  refine hx ⟨lead ++ (line ++ ['\n']) ++ rest, ?_⟩
  unfold led
  simp only [List.append_assoc]

include hy

theorem flatMap_led_append_inj {lead : List Char} {lines others : List (List Char)}
    (hlines : ∀ line ∈ lines, '\n' ∉ line) (hothers : ∀ line ∈ others, '\n' ∉ line) :
    lines.flatMap (led (indent isLast ++ lead)) ++ x =
      others.flatMap (led (indent isLast ++ lead)) ++ y ↔ lines = others ∧ x = y := by
  induction lines generalizing others with
  | nil =>
    cases others with
    | nil => simp
    | cons other others =>
      rw [List.flatMap_cons, List.append_assoc]
      exact ⟨fun h => (ne_led_append hx _ _ _ h).elim, fun h => nomatch h.1⟩
  | cons line lines ih =>
    obtain ⟨hline, hlines⟩ := List.forall_mem_cons.1 hlines
    rw [List.flatMap_cons, List.append_assoc]
    cases others with
    | nil => exact ⟨fun h => (ne_led_append hy _ _ _ h.symm).elim, fun h => nomatch h.1⟩
    | cons other others =>
      obtain ⟨hother, hothers⟩ := List.forall_mem_cons.1 hothers
      rw [List.flatMap_cons, List.append_assoc, led_append_inj hline hother, ih hlines hothers,
        List.cons.injEq, and_assoc]

/-- **Messages.** The lines of a message can be told from what follows them. -/
theorem below_append_inj {lines others : List (List Char)}
    (hlines : ∀ line ∈ lines, '\n' ∉ line) (hothers : ∀ line ∈ others, '\n' ∉ line) :
    below (indent isLast) lines ++ x = below (indent isLast) others ++ y ↔
      lines = others ∧ x = y := by
  cases lines with
  | nil =>
    cases others with
    | nil => simp [below]
    | cons other others =>
      rw [below, below, List.append_assoc]
      exact ⟨fun h => (ne_led_append hx _ _ _ h).elim, fun h => nomatch h.1⟩
  | cons line lines =>
    obtain ⟨hline, hlines⟩ := List.forall_mem_cons.1 hlines
    rw [below, List.append_assoc]
    cases others with
    | nil => exact ⟨fun h => (ne_led_append hy _ _ _ h.symm).elim, fun h => nomatch h.1⟩
    | cons other others =>
      obtain ⟨hother, hothers⟩ := List.forall_mem_cons.1 hothers
      rw [below, List.append_assoc, led_append_inj hline hother,
        flatMap_led_append_inj hx hy hlines hothers, List.cons.injEq, and_assoc]

end Below

/-! ## Branches -/

def Diagnostic.node (d : Diagnostic) : String × String := (d.nodeName, d.nodeType)

/-- The same verdict and the same lines of a message. -/
structure Diagnostic.Agrees (d e : Diagnostic) : Prop where
  status : d.status = e.status
  lines : Text.lines d.message = Text.lines e.message

theorem Text.lines_eq_iff {s t : String} :
    Text.lines s = Text.lines t ↔ Text.linesOf s.toList = Text.linesOf t.toList := by
  unfold lines
  exact (List.map_injective_iff.2 fun _ _ => String.ofList_inj.1).eq_iff

/-- Where the lines are the same, both messages are empty or none is. -/
theorem corner_eq {s t : String} (h : Text.linesOf s.toList = Text.linesOf t.toList) :
    corner s = corner t := by
  have hempty : s = "" ↔ t = "" := by
    rw [← String.toList_eq_nil_iff, ← Text.linesOf_eq_nil_iff, h, Text.linesOf_eq_nil_iff,
      String.toList_eq_nil_iff]
  unfold corner
  rw [if_congr hempty rfl rfl]

theorem length_corner (s : String) : (corner s).length = 4 := by
  unfold corner
  split <;> rfl

theorem Status.capitals_append_inj {s t : Status} {x y : List Char} :
    s.capitals.toList ++ x = t.capitals.toList ++ y ↔ s = t ∧ x = y := by
  cases s <;> cases t <;> simp [capitals]

/-- **Verdicts.** A branch tells its verdict and its message, and where it ends. -/
theorem branch_append_inj {d e : Diagnostic} (hnode : d.node = e.node) {isLast : Bool}
    {x y : List Char} (hx : Unindented isLast x) (hy : Unindented isLast y) :
    (d.branch isLast).toList ++ x = (e.branch isLast).toList ++ y ↔ d.Agrees e ∧ x = y := by
  obtain ⟨hname, htype⟩ := Prod.mk.inj hnode
  have hbelow := below_append_inj hx hy (Text.lineFeed_not_mem_linesOf d.message.toList)
    (Text.lineFeed_not_mem_linesOf e.message.toList)
  rw [d.toList_branch, e.toList_branch, hname, htype]
  simp only [List.append_assoc]
  rw [List.append_cancel_left_eq, List.append_cancel_left_eq]
  constructor
  · intro h
    have hcorners := (length_corner d.message).trans (length_corner e.message).symm
    obtain ⟨-, hrest⟩ := List.append_inj (List.append_cancel_left h) hcorners
    obtain ⟨hstatus, hrest⟩ := Status.capitals_append_inj.1 hrest
    simp only [List.append_cancel_left_eq] at hrest
    obtain ⟨hlines, hrest⟩ := hbelow.1 hrest
    exact ⟨⟨hstatus, Text.lines_eq_iff.2 hlines⟩, hrest⟩
  · rintro ⟨h, rfl⟩
    rw [corner_eq (Text.lines_eq_iff.1 h.lines), h.status, Text.lines_eq_iff.1 h.lines]

theorem toList_branches_cons (d : Diagnostic) (ds : List Diagnostic) :
    (branches (d :: ds)).toList = (d.branch ds.isEmpty).toList ++ (branches ds).toList := by
  cases ds with
  | nil => exact (List.append_nil _).symm
  | cons next ds => exact String.toList_append

/-- What stands below a branch is the next branch, or nothing. -/
theorem unindented_branches (ds : List Diagnostic) :
    Unindented ds.isEmpty (branches ds).toList := by
  cases ds with
  | nil => exact fun h => nomatch List.prefix_nil.1 h
  | cons d ds =>
    intro h
    rw [toList_branches_cons, d.toList_branch] at h
    cases hlast : ds.isEmpty <;> simp [indent, twig, hlast] at h

/-- **Branches.** The branches of the same nodes tell all verdicts and messages. -/
theorem branches_inj {ds es : List Diagnostic}
    (hnodes : ds.map Diagnostic.node = es.map Diagnostic.node) :
    (branches ds).toList = (branches es).toList ↔ List.Forall₂ Diagnostic.Agrees ds es := by
  induction ds generalizing es with
  | nil =>
    cases List.map_eq_nil_iff.1 hnodes.symm
    simp
  | cons d ds ih =>
    obtain ⟨e, es, rfl⟩ := List.exists_cons_of_ne_nil fun h : es = [] => by cases h; cases hnodes
    obtain ⟨hnode, hnodes⟩ := List.cons.inj hnodes
    have hempty : ds.isEmpty = es.isEmpty := by
      rw [← List.isEmpty_map, hnodes, List.isEmpty_map]
    rw [toList_branches_cons, toList_branches_cons, List.forall₂_cons, ← ih hnodes, ← hempty]
    exact branch_append_inj hnode (unindented_branches ds) (hempty ▸ unindented_branches es)

/-! ## Reports -/

theorem Report.tree_eq {r : Report} (h : r.version = currentVersion) :
    r.tree = .ok (r.headline ++ branches r.diagnostics) := by
  have hcheck : r.checkVersion = .ok () := if_pos h
  exact except_bind_ok hcheck

theorem Report.headline_append_inj {r s : Report} (hpath : r.assetPath = s.assetPath)
    (hcook : r.cookSuccess = s.cookSuccess) {x y : List Char} :
    r.headline.toList ++ x = s.headline.toList ++ y ↔ r.passed = s.passed ∧ x = y := by
  unfold headline
  rw [toList_textLine, toList_textLine, hpath, hcook]
  cases r.passed <;> cases s.passed <;> simp

theorem passed_eq_of_agrees {ds es : List Diagnostic}
    (h : List.Forall₂ Diagnostic.Agrees ds es) :
    ds.all (·.status = .pass) = es.all (·.status = .pass) := by
  induction h with
  | nil => rfl
  | cons hd _ ih => rw [List.all_cons, List.all_cons, ih, hd.status]

/-- **Read back.** Two reports on one asset with the same nodes are shown by the same tree exactly
if their nodes agree in verdicts and in the lines of their messages. -/
theorem Report.tree_eq_iff {r s : Report} (hr : r.version = currentVersion)
    (hs : s.version = currentVersion) (hpath : r.assetPath = s.assetPath)
    (hcook : r.cookSuccess = s.cookSuccess)
    (hnodes : r.diagnostics.map Diagnostic.node = s.diagnostics.map Diagnostic.node) :
    ∃ text other, r.tree = .ok text ∧ s.tree = .ok other ∧
      (text = other ↔ List.Forall₂ Diagnostic.Agrees r.diagnostics s.diagnostics) := by
  refine ⟨_, _, tree_eq hr, tree_eq hs, ?_⟩
  rw [← String.toList_inj, String.toList_append, String.toList_append,
    headline_append_inj hpath hcook, branches_inj hnodes]
  exact ⟨And.right, fun h => ⟨passed_eq_of_agrees h, h⟩⟩

/-- A report on two checks, the first of which fails with a message. -/
def Report.failing (message : String) : Report :=
  { assetPath := "a.fbx"
    cookSuccess := true
    diagnostics :=
      [⟨message, "check_faces1", "check_faces", .fail⟩, ⟨"", "check_uv1", "check_uv", .pass⟩]
    host := "ws01"
    timestamp := "08:00"
    user := "artist"
    version := currentVersion }

/-- A message that goes on like the tree does is still a message; only ends of lines do not show. -/
theorem Report.tree_eq_iff_forged :
    (failing "x\n├── uv").tree ≠ (failing "x").tree ∧
      (failing "x\r\n│\r").tree = (failing "x\n│\r\r\n").tree := by
  constructor
  · obtain ⟨text, other, htext, hother, hiff⟩ := tree_eq_iff (r := failing "x\n├── uv")
      (s := failing "x") rfl rfl rfl rfl rfl
    rw [htext, hother]
    intro h
    have hagrees := hiff.1 (Except.ok.inj h)
    cases hagrees with
    | cons hfirst _ => exact absurd hfirst.lines (by decide)
  · obtain ⟨text, other, htext, hother, hiff⟩ := tree_eq_iff (r := failing "x\r\n│\r")
      (s := failing "x\n│\r\r\n") rfl rfl rfl rfl rfl
    rw [htext, hother]
    exact congrArg Except.ok (hiff.2 (.cons ⟨rfl, by decide⟩ (.cons ⟨rfl, rfl⟩ .nil)))

end AssetCheck
