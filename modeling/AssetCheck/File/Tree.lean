import AssetCheck.File.Error
import AssetCheck.File.Path
import AssetCheck.Table

/-!
A tree of files. A place is the list of names from the root down; a tree holds each place at most once.
A path is followed name by name, and each name but the last has to be a directory.
-/

namespace AssetCheck

/-- The names from the root down to a file or directory. -/
abbrev Place := List String

/-- What is at a place. -/
inductive Entry
  | file (bytes : ByteArray)
  | directory

/-- What goes wrong while an open file is written: `taken` bytes of its text are in it, and no more.
An early fault shows while the text is still being handed over, a late one when all of it has been. -/
structure WriteFault where
  error : IoError
  taken : Nat
  early : Bool

/-- The device that takes no text. -/
def fullDevice : Place := ["dev", "full"]

/-- The device that takes no text refuses every text, and nothing else is refused. -/
def usualFaults (_ : Nat) (place : Place) (_ : ByteArray) : Option WriteFault :=
  if place = fullDevice then some ⟨.noSpace, 0, true⟩ else none

/-- Files and directories, and the working directory, from which relative paths start. What goes wrong
when an open file is written may depend on how many files were opened before, on its place, and on all
that is to be written. -/
structure FileTree where
  entries : Table Place Entry
  home : Place
  distinct : entries.keys.Nodup
  opened : Nat := 0
  faults : Nat → Place → ByteArray → Option WriteFault := usualFaults

namespace FileTree

/-- What is at a place; the root is a directory. -/
def contentAt? (t : FileTree) (place : Place) : Option Entry :=
  if place = [] then some .directory else t.entries.get? place

def isDirectoryAt (t : FileTree) (place : Place) : Bool :=
  match t.contentAt? place with
  | some .directory => true
  | _ => false

theorem isDirectoryAt_iff {t : FileTree} {place : Place} :
    t.isDirectoryAt place = true ↔ t.contentAt? place = some .directory := by
  unfold isDirectoryAt
  split
  · next h => simp [h]
  · next h => simpa using h

def put (t : FileTree) (place : Place) (entry : Entry) : FileTree :=
  { t with
    entries := t.entries.insert place entry
    distinct := Table.nodup_keys_insert t.distinct place entry }

theorem contentAt?_put (t : FileTree) {place : Place} (h : place ≠ []) (entry : Entry) (other : Place) :
    (t.put place entry).contentAt? other = if place = other then some entry else t.contentAt? other := by
  by_cases ho : other = []
  · subst ho
    simp [contentAt?, h]
  · simp [contentAt?, put, ho, Table.get?_insert]

/-- A tree whose only content is the working directory and the directories around it. -/
def empty (home : Place) : FileTree :=
  (List.range home.length).foldl (fun t n => t.put (home.take (n + 1)) .directory)
    { entries := [], home, distinct := by simp [Table.keys] }

/-! ## Following paths -/

def start (t : FileTree) (p : Path) : Place := if p.absolute then [] else t.home

/-- Follows names from a place. -/
def descend (t : FileTree) : Place → List String → Except IoError Place
  | place, [] => .ok place
  | place, name :: rest =>
    if ¬ t.isDirectoryAt place then .error .notDirectory
    else if name = "." then t.descend place rest
    else if name = ".." then t.descend place.dropLast rest
    else if name.utf8ByteSize > nameLimit then .error .nameTooLong
    else
      match t.contentAt? (place ++ [name]) with
      | none => .error .notFound
      | some _ => t.descend (place ++ [name]) rest

/-- Texts that name no path at all. -/
def checkText (s : String) : Except IoError Unit :=
  if '\x00' ∈ s.toList then .error .nullInPath
  else if s.toList = [] then .error .notFound
  else if s.utf8ByteSize ≥ pathLimit then .error .nameTooLong
  else .ok ()

/-- The place of what a path names. A closed path names a directory. -/
def find (t : FileTree) (s : String) : Except IoError Place := do
  checkText s
  let p := Path.ofText s
  let place ← t.descend (t.start p) p.names
  if p.closed ∧ ¬ t.isDirectoryAt place then .error .notDirectory else .ok place

/-- The place that the last of some names has in the directory that the others lead to; `special` is the
answer where the last name is no name of its own. -/
def placeFor (t : FileTree) (start : Place) (names : List String) (special : IoError) :
    Except IoError Place := do
  match names.getLast? with
  | none => .error special
  | some name =>
    let outer ← t.descend start names.dropLast
    if ¬ t.isDirectoryAt outer then .error .notDirectory
    else if name = "." ∨ name = ".." then .error special
    else if name.utf8ByteSize > nameLimit then .error .nameTooLong
    else .ok (outer ++ [name])

/-! ## Reading -/

def readFile (t : FileTree) (s : String) : Except IoError ByteArray := do
  match t.contentAt? (← t.find s) with
  | some (.file bytes) => .ok bytes
  | _ => .error .isDirectory

def readText (t : FileTree) (s : String) : Except IoError String := do
  match String.fromUTF8? (← t.readFile s) with
  | some text => .ok text
  | none => .error .notText

/-- The files below a place, by the names from there down. -/
def filesBelow (t : FileTree) (place : Place) : List Place :=
  t.entries.filterMap fun
    | (found, .file _) => (place.isPrefixOf? found).filter (· ≠ [])
    | (_, .directory) => none

/-! ## Writing -/

/-- The place that the names of a directory lead to is a directory. -/
def leadsToDirectory (t : FileTree) (start : Place) (names : List String) : Bool :=
  match t.descend start names with
  | .ok place => t.isDirectoryAt place
  | .error _ => false

def makeDirectory (t : FileTree) (start : Place) (names : List String) : Except IoError FileTree := do
  checkText (String.intercalate "/" names)
  let place ← t.placeFor start names .alreadyExists
  match t.contentAt? place with
  | some _ => .error .alreadyExists
  | none => .ok (t.put place .directory)

/-- Makes a directory and those around it that are missing. The names are given from the last to the
first. An error leaves the directories that were made before it. -/
def makeDirectories (start : Place) : List String → EStateM IoError FileTree Unit
  | [] => pure ()
  | name :: outer => fun t =>
    let names := (name :: outer).reverse
    match t.makeDirectory start names with
    | .ok t => .ok () t
    | .error .notFound =>
      match makeDirectories start outer t with
      | .error e t => .error e t
      | .ok () t =>
        match t.makeDirectory start names with
        | .ok t => .ok () t
        | .error e => if t.leadsToDirectory start names then .ok () t else .error e t
    | .error e => if t.leadsToDirectory start names then .ok () t else .error e t

/-- The place of a file that is opened for writing. A closed path names a directory there, whatever its last
name is. -/
def placeToWrite (t : FileTree) (s : String) : Except IoError Place := do
  checkText s
  let p := Path.ofText s
  let names := if p.closed then p.names.dropLast ++ ["."] else p.names
  let place ← t.placeFor (t.start p) names .isDirectory
  if t.isDirectoryAt place then .error .isDirectory else .ok place

/-- Why a file is not written: it is not opened, or it is and then something goes wrong. -/
inductive WriteError
  | refused (error : IoError)
  | broken (fault : WriteFault)

def WriteError.io : WriteError → IoError
  | .refused error => error
  | .broken fault => fault.error

/-- The tree after one more file was opened. -/
def counted (t : FileTree) : FileTree := { t with opened := t.opened + 1 }

/-- The tree with a file opened at a place and these bytes written to it. -/
def fill (t : FileTree) (place : Place) (bytes : ByteArray) : FileTree :=
  (t.put place (.file bytes)).counted

/-- Opens a file, which empties it, and writes to it. -/
def writeFile (s : String) (bytes : ByteArray) : EStateM WriteError FileTree Unit := fun t =>
  match t.placeToWrite s with
  | .error e => .error (.refused e) t
  | .ok place =>
    match t.faults t.opened place bytes with
    | none => .ok () (t.fill place bytes)
    | some fault => .error (.broken fault) (t.fill place (bytes.extract 0 fault.taken))

/-- Makes the directories around a file and writes it. -/
def createFile (s : String) (bytes : ByteArray) : EStateM WriteError FileTree Unit := do
  let t ← get
  let p := Path.ofText s
  EStateM.adaptExcept .refused (makeDirectories (t.start p) p.parentNames.reverse)
  writeFile s bytes

/-- Makes the directories around a file and writes it; the error does not tell how far that went. -/
def writeWithParents (s : String) (bytes : ByteArray) : EStateM IoError FileTree Unit :=
  EStateM.adaptExcept WriteError.io (createFile s bytes)

end FileTree

end AssetCheck
