import AssetCheck.File.Error
import AssetCheck.Json.Printer
import AssetCheck.Text.Quoted

/-!
Faults of JSON texts. A fault is a cause and a place in the text; the place is kept as the text that was
not read, and becomes a line and a column, counted in bytes, when the fault is reported.
-/

namespace AssetCheck.Json

/-- What a text holds where something else is expected. -/
inductive Found
  | null
  | bool (b : Bool)
  | number (n : Number)
  | string (s : String)
  | sequence
  | map

def Found.describe : Found → String
  | .null => "null"
  | .bool b => "boolean `" ++ toString b ++ "`"
  | .number (.int n) => "integer `" ++ toString n ++ "`"
  | .number (.float x) => "floating point `" ++ Decimal.Layout.json.write x ++ "`"
  | .string s => "string " ++ Text.quoted s
  | .sequence => "sequence"
  | .map => "map"

/-- Why a text is refused, or cannot be written. -/
inductive Cause
  | endOfValue
  | endOfList
  | endOfObject
  | endOfString
  | badWord
  | noValue
  | noColon
  | noListSeparator
  | noObjectSeparator
  | keyNotString
  | trailingComma
  | trailingCharacters
  | nestedTooDeep
  | controlCharacter
  | badEscape
  | loneSurrogate
  | unfinishedPair
  | badNumber
  | numberTooLarge
  | missingField (field : String)
  | duplicateField (field : String)
  | unknownField (field : String) (known : List String)
  | unknownVariant (variant : String) (known : List String)
  | wrongType (found : Found) (expected : String)
  | wrongValue (found : Found) (expected : String)
  | tooFew (count : Nat) (record : String) (fields : Nat)
  | noVariantFits (type : String)
  /-- The stream that a text is written to refuses it. -/
  | io (error : IoError)

/-- Names in backticks with commas between them. -/
def listed (names : List String) : String :=
  String.intercalate ", " (names.map fun name => "`" ++ name ++ "`")

def Cause.message : Cause → String
  | .endOfValue => "EOF while parsing a value"
  | .endOfList => "EOF while parsing a list"
  | .endOfObject => "EOF while parsing an object"
  | .endOfString => "EOF while parsing a string"
  | .badWord => "expected ident"
  | .noValue => "expected value"
  | .noColon => "expected `:`"
  | .noListSeparator => "expected `,` or `]`"
  | .noObjectSeparator => "expected `,` or `\x7d`"
  | .keyNotString => "key must be a string"
  | .trailingComma => "trailing comma"
  | .trailingCharacters => "trailing characters"
  | .nestedTooDeep => "recursion limit exceeded"
  | .controlCharacter => "control character (\\u0000-\\u001F) found while parsing a string"
  | .badEscape => "invalid escape"
  | .loneSurrogate => "lone leading surrogate in hex escape"
  | .unfinishedPair => "unexpected end of hex escape"
  | .badNumber => "invalid number"
  | .numberTooLarge => "number out of range"
  | .missingField field => "missing field `" ++ field ++ "`"
  | .duplicateField field => "duplicate field `" ++ field ++ "`"
  | .unknownField field known => "unknown field `" ++ field ++ "`, expected one of " ++ listed known
  | .unknownVariant variant known =>
    "unknown variant `" ++ variant ++ "`, expected one of " ++ listed known
  | .wrongType found expected => "invalid type: " ++ found.describe ++ ", expected " ++ expected
  | .wrongValue found expected => "invalid value: " ++ found.describe ++ ", expected " ++ expected
  | .tooFew count record fields =>
    "invalid length " ++ toString count ++ ", expected struct " ++ record ++ " with " ++
      toString fields ++ " elements"
  | .noVariantFits type => "data did not match any variant of untagged enum " ++ type
  | .io error => error.message

/-- A cause and the text that was unread when it was found. -/
structure Fault where
  cause : Cause
  unread : List Char
  /-- Bytes of the unread text that the place of the fault lies beyond. -/
  overrun : Nat

/-- A fault in front of the unread text. -/
def Fault.before (cause : Cause) (unread : List Char) : Fault := ⟨cause, unread, 0⟩

/-- A fault at the next byte of the unread text, or at the end of the text. -/
def Fault.atNext (cause : Cause) (unread : List Char) : Fault :=
  ⟨cause, unread, if unread.isEmpty then 0 else 1⟩

/-- A line, from one, and the number of bytes read of it. -/
structure Position where
  line : Nat
  column : Nat
  deriving DecidableEq, Repr

/-- The position after a byte. -/
def Position.step (p : Position) (byte : UInt8) : Position :=
  if byte = 10 then ⟨p.line + 1, 0⟩ else ⟨p.line, p.column + 1⟩

def Position.after (bytes : List UInt8) : Position := bytes.foldl Position.step ⟨1, 0⟩

def bytesOf (cs : List Char) : List UInt8 := cs.flatMap String.utf8EncodeChar

def Fault.position (text : List Char) (fault : Fault) : Position :=
  Position.after
    (bytesOf (text.take (text.length - fault.unread.length)) ++
      (bytesOf fault.unread).take fault.overrun)

/-- A refused text. A value that fits no variant and a stream that fails have no position. -/
structure Error where
  cause : Cause
  position : Option Position

def Error.message (e : Error) : String :=
  match e.position with
  | none => e.cause.message
  | some p => e.cause.message ++ " at line " ++ toString p.line ++ " column " ++ toString p.column

/-- The error that reports a fault of a text. -/
def Fault.report (text : List Char) (fault : Fault) : Error :=
  ⟨fault.cause, some (fault.position text)⟩

end AssetCheck.Json
