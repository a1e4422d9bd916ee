import AssetCheck.CommandLine.Execute
import AssetCheck.Moment
import Std.Time.Format

/-!
The program: it takes in its environment and the files below the working directory, carries out the
command, and puts out what came of it. The host is a recording: the command that starts one is the name of
a file with a reply on each line.
-/

namespace AssetCheck.CommandLine

/-- Directories nested deeper than this are not looked into. -/
def deepest : Nat := 64

def addEntries : Nat → Place → Array IO.FS.DirEntry → FileTree → IO FileTree
  | 0, _, _, files => return files
  | depth + 1, outer, entries, files => do
    let mut files := files
    for entry in entries do
      let place := outer ++ [entry.fileName]
      if ← entry.path.isDir then
        files ← addEntries depth place (← entry.path.readDir) (files.put place .directory)
      else
        files := files.put place (.file (← IO.FS.readBinFile entry.path))
    return files

/-- The files below the working directory. -/
def readFiles : IO FileTree := do
  let here ← IO.currentDir
  let home := (Path.ofText here.toString).names
  addEntries deepest home (← here.readDir) (FileTree.empty home)

def writeFiles (before after : FileTree) : IO Unit := do
  for (place, entry) in after.entries do
    let path := "/" ++ String.intercalate "/" place
    match entry, before.contentAt? place with
    | .directory, some .directory => pure ()
    | .directory, _ => IO.FS.createDirAll path
    | .file bytes, some (.file old) => if bytes.data ≠ old.data then IO.FS.writeBinFile path bytes
    | .file bytes, _ => IO.FS.writeBinFile path bytes

def textOf? (path : String) : BaseIO (Option String) := do
  match ← (IO.FS.readFile path).toBaseIO with
  | .ok text => return some text
  | .error _ => return none

def now : IO Moment := do
  let d := Std.Time.DateTime.ofTimestamp (← Std.Time.Timestamp.now) .UTC
  return {
    year := d.year.toInt.toNat, month := d.month.val.toNat, day := d.day.val.toNat
    hour := d.hour.val.toNat, minute := d.minute.val.toNat, second := d.second.val.toNat
    nanosecond := d.nanosecond.val.toNat }

/-- The variables that the program looks at. -/
def variableNames : List String := ["USER", "USERNAME", "HOSTNAME", "COMPUTERNAME", "QA_HOST"]

/-- What the program finds when it is started. -/
def surroundings : IO Surroundings := do
  let files ← readFiles
  let values ← variableNames.mapM fun name => return (name, ← IO.getEnv name)
  let machineNames ← ["/etc/hostname", "/proc/sys/kernel/hostname"].filterMapM (textOf? ·)
  let now ← now
  return {
    env := fun name => (values.lookup name).join
    machineNames
    now := now.text
    files
    connect := fun command => .ofRecording ((files.readFile command).toOption.getD .empty) }

end AssetCheck.CommandLine

/-- Carries out the command that the arguments give. -/
def main (args : List String) : IO UInt32 := do
  let surroundings ← AssetCheck.CommandLine.surroundings
  let completion := AssetCheck.CommandLine.run surroundings args
  AssetCheck.CommandLine.writeFiles surroundings.files completion.files
  IO.print completion.stdout
  IO.eprint completion.stderr
  return completion.code.toUInt32
