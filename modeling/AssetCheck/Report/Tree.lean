import AssetCheck.Report.Error
import AssetCheck.Text.Lines

/-!
Reports as trees of text: a line for the asset, and for each diagnostic a branch with its verdict and the
lines of its message.
-/

namespace AssetCheck

/-- A line of text with its end. -/
def textLine (parts : List String) : String := String.join parts ++ "\n"

/-- The lines of a message: the first one closes the branch, the others stand below it. -/
def messageLines (indent : String) : List String → String
  | [] => ""
  | first :: others =>
    textLine [indent, "└── ", first] ++
      String.join (others.map fun line => textLine [indent, "    ", line])

def Diagnostic.branch (d : Diagnostic) (isLast : Bool) : String :=
  let (twig, indent) := if isLast then ("└── ", "    ") else ("├── ", "│   ")
  textLine [twig, d.nodeName] ++
    if d.message = "" then textLine [indent, "└── ", d.status.capitals, " | ", d.nodeType]
    else
      textLine [indent, "├── ", d.status.capitals, " | ", d.nodeType] ++
        messageLines indent (Text.lines d.message)

def branches : List Diagnostic → String
  | [] => ""
  | [d] => d.branch true
  | d :: ds => d.branch false ++ branches ds

def Report.headline (r : Report) : String :=
  textLine
    ["[", if r.passed then "PASS" else "FAIL", "] Checks for ", r.assetPath,
     if r.cookSuccess then "" else " (cook failed)"]

def Report.tree (r : Report) : Except ReportError String := do
  r.checkVersion
  return r.headline ++ branches r.diagnostics

end AssetCheck
