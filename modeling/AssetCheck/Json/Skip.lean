import AssetCheck.Json.Scan

/-!
Values that nobody asked for. Their text has to be well formed, but strings are not decoded, numbers may
be of any size, and lists and objects nest to any depth.
-/

namespace AssetCheck.Json

/-- A string after its opening quote. -/
def skipChars : Nat → List Char → Except Fault (List Char)
  | 0, cs => .error (.before .endOfString cs)
  | _ + 1, [] => .error (.before .endOfString [])
  | _ + 1, '"' :: rest => .ok rest
  | _ + 1, '\\' :: [] => .error (.before .endOfString [])
  | fuel + 1, '\\' :: 'u' :: rest => do
    let (_, rest) ← scanHex4 rest
    skipChars fuel rest
  | fuel + 1, '\\' :: c :: rest =>
    if c ∈ ['"', '\\', '/', 'b', 'f', 'n', 'r', 't'] then skipChars fuel rest
    else .error (.atNext .badEscape (c :: rest))
  | fuel + 1, c :: rest =>
    if c.toNat < 0x20 then .error (.before .controlCharacter (c :: rest)) else skipChars fuel rest

def skipString (cs : List Char) : Except Fault (List Char) := skipChars (cs.length + 1) cs

/-- At least one digit and all that follow it. -/
def skipDigits (cs : List Char) : Except Fault (List Char) :=
  match cs with
  | c :: rest =>
    if c.isDigit then .ok (rest.dropWhile Char.isDigit) else .error (.atNext .badNumber (c :: rest))
  | [] => .error (.before .badNumber [])

/-- The exponent of a number, if it has one. -/
def skipExponent : List Char → Except Fault (List Char)
  | c :: rest => if c = 'e' ∨ c = 'E' then skipDigits (Decimal.splitSign rest).2 else .ok (c :: rest)
  | [] => .ok []

def skipUnsigned (cs : List Char) : Except Fault (List Char) := do
  let rest ←
    match cs with
    | '0' :: c :: rest =>
      if c.isDigit then Except.error (.atNext .badNumber (c :: rest)) else .ok (c :: rest)
    | cs => skipDigits cs
  match rest with
  | '.' :: rest => do
    let rest ← skipDigits rest
    skipExponent rest
  | rest => skipExponent rest

/-- What an open list or object is closed by. -/
inductive Bracket
  | list
  | object
  deriving DecidableEq

def Bracket.close : Bracket → Char
  | .list => ']'
  | .object => '}'

def Bracket.ended : Bracket → Cause
  | .list => .endOfList
  | .object => .endOfObject

/-- The cause when neither a comma nor the end follows a part. -/
def Bracket.notSeparated : Bracket → Cause
  | .list => .noListSeparator
  | .object => .noObjectSeparator

/-- A key with its colon, in an object. -/
def Bracket.skipKey : Bracket → List Char → Except Fault (List Char)
  | .list, cs => .ok cs
  | .object, cs =>
    match skipSpace cs with
    | '"' :: rest => do
      let rest ← skipString rest
      scanColon rest
    | [] => .error (.before .endOfObject [])
    | rest => .error (.atNext .keyNotString rest)

mutual

def skipValueWithin : Nat → List Char → Except Fault (List Char)
  | 0, cs => .error (.before .endOfValue cs)
  | fuel + 1, cs =>
    match skipSpace cs with
    | [] => .error (.before .endOfValue [])
    | 'n' :: rest => scanWord ['u', 'l', 'l'] rest
    | 't' :: rest => scanWord ['r', 'u', 'e'] rest
    | 'f' :: rest => scanWord ['a', 'l', 's', 'e'] rest
    | '"' :: rest => skipString rest
    | '-' :: rest => skipUnsigned rest
    | '[' :: rest => skipParts fuel .list true rest
    | '{' :: rest => skipParts fuel .object true rest
    | c :: rest =>
      if c.isDigit then skipUnsigned (c :: rest) else .error (.atNext .noValue (c :: rest))

/-- The parts of a list or an object, up to and with the end; the flag tells that none has been read. -/
def skipParts : Nat → Bracket → Bool → List Char → Except Fault (List Char)
  | 0, bracket, _, cs => .error (.before bracket.ended cs)
  | fuel + 1, bracket, first, cs =>
    match skipSpace cs with
    | [] => .error (.before bracket.ended [])
    | c :: rest =>
      if c = bracket.close then .ok rest
      else if first ∨ c = ',' then do
        let cs ← bracket.skipKey (if first then c :: rest else rest)
        let cs ← skipValueWithin fuel cs
        skipParts fuel bracket false cs
      else .error (.atNext bracket.notSeparated (c :: rest))

end

def skipValue (cs : List Char) : Except Fault (List Char) := skipValueWithin (2 * cs.length + 2) cs

end AssetCheck.Json
