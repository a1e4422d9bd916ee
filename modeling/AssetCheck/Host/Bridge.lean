import AssetCheck.Host.Wire

/-!
A host behind a bridge. The bridge is a program that takes a request on each line and answers it with
lines of its own; replies are read one line for each request. A bridge that has come to its end takes one
more request, closes its output without an answer, and hears nothing after that.
-/

namespace AssetCheck

/-- A bridge as it is seen from this side. -/
structure Bridge where
  /-- The number of the last request. -/
  lastId : Nat := 0
  /-- The requests that the bridge has heard, in order. -/
  heard : List String := []
  /-- What the bridge will answer to the requests to come: the lines for each. -/
  script : List (List ByteArray)
  /-- Lines that have been answered and not read. -/
  unread : List ByteArray := []
  hungUp : Bool := false

namespace Bridge

/-- The bridge that gives replies in order; a reply is a line, or several if it holds line feeds. -/
def ofReplies (replies : List ByteArray) : Bridge :=
  { script := replies.map fun reply =>
      (Text.pieces 10 reply.data.toList).map fun line => ⟨line.toArray⟩ }

/-- The bridge whose replies are the lines of a recording. A line feed at the end begins no line. -/
def ofRecording (recording : ByteArray) : Bridge :=
  let lines := Text.pieces 10 recording.data.toList
  let lines := if lines.getLast? = some [] then lines.dropLast else lines
  ofReplies (lines.map fun line => ⟨line.toArray⟩)

def hear (b : Bridge) (line : String) : Bridge :=
  let b := { b with heard := b.heard ++ [line] }
  match b.script with
  | [] => { b with hungUp := true }
  | lines :: script => { b with script, unread := b.unread ++ lines }

/-- Sends a request and reads a reply. -/
def call (operation : String) (arguments : List (String × Json.Value)) :
    EStateM HostError Bridge Json.Value := fun b =>
  let id := b.lastId + 1
  let b := { b with lastId := id }
  if b.hungUp then .error (.io .brokenPipe) b
  else
    let b := b.hear (Wire.requestLine id operation arguments)
    match b.unread with
    | [] => .error (.protocol ("bridge closed its output while handling '" ++ operation ++ "'")) b
    | line :: unread =>
      let b := { b with unread }
      match String.fromUTF8? line with
      | none => .error (.io .notText) b
      | some text =>
        match Wire.readReply id text with
        | .ok v => .ok v b
        | .error e => .error e b

def perform (request : Request) : EStateM HostError Bridge request.Answer := do
  let v ← call (Wire.operation request) (Wire.arguments request)
  match Wire.answer request v with
  | .ok a => pure a
  | .error e => throw e

/-- Asks the other side to save the scene. -/
def save (path : String) : EStateM HostError (Bridge × FileTree) Unit := fun (b, files) =>
  match call "save_scene" [("path", .string (Text.replaceChar '\\' '/' path))] b with
  | .ok _ b => .ok () (b, files)
  | .error e b => .error e (b, files)

def linesLeft (b : Bridge) : Nat := b.unread.length + b.script.flatten.length

def host : Host Bridge := ⟨perform, save, fun b => b.linesLeft + 1⟩

end Bridge

end AssetCheck
