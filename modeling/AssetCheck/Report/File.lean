import AssetCheck.Report.Error
import AssetCheck.Report.Json

/-!
Report files.
-/

namespace AssetCheck.Report

/-- The text of a report goes to its file through a buffer of this many bytes. -/
def bufferSize : Nat := 8192

/-- Why a report is not written. What does not fit the buffer goes to the file while the report is still
being printed, and an early fault is then one of printing. -/
def writeError (r : Report) : FileTree.WriteError → ReportError
  | .refused e => .io e
  | .broken fault =>
    if fault.early ∧ bufferSize < r.toJson.pretty.utf8ByteSize then .json ⟨.io fault.error, none⟩
    else .io fault.error

/-- Writes a report, in the place of what the file held, and makes the directories around the file. -/
def save (r : Report) (path : String) : EStateM ReportError FileTree Unit :=
  EStateM.adaptExcept r.writeError (FileTree.createFile path r.fileText.toUTF8)

def load (files : FileTree) (path : String) : Except ReportError Report := do
  let text ← (files.readText path).mapError .io
  let r ← (Report.read text).mapError .json
  r.checkVersion
  return r

end AssetCheck.Report
