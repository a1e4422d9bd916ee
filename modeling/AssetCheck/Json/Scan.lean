import AssetCheck.Decimal.Scaled
import AssetCheck.Json.Fault

/-!
The parts that JSON values are made of: blanks, words, strings, numbers, and the separators of lists and
objects. Each scan takes the unread text and returns what it read with the text after it.
-/

namespace AssetCheck.Json

/-- Reads from the front of a text. -/
abbrev Scan (α : Type) := List Char → Except Fault (α × List Char)

/-- A blank between the parts of a value. -/
def isSpace (c : Char) : Bool := c = ' ' || c = '\n' || c = '\t' || c = '\r'

/-- The text after its leading blanks. -/
def skipSpace (cs : List Char) : List Char := cs.dropWhile isSpace

/-- The rest of a word whose first letter has been read. -/
def scanWord : List Char → List Char → Except Fault (List Char)
  | [], cs => .ok cs
  | _ :: _, [] => .error (.before .endOfValue [])
  | w :: ws, c :: cs => if c = w then scanWord ws cs else .error (.atNext .badWord (c :: cs))

/-! ## Strings -/

def hexValue? (c : Char) : Option Nat :=
  if '0' ≤ c ∧ c ≤ '9' then some (c.toNat - 48)
  else if 'a' ≤ c ∧ c ≤ 'f' then some (c.toNat - 87)
  else if 'A' ≤ c ∧ c ≤ 'F' then some (c.toNat - 55)
  else none

/-- The value of four hexadecimal digits. -/
def hexValue4? (a b c d : Char) : Option Nat := do
  return 4096 * (← hexValue? a) + 256 * (← hexValue? b) + 16 * (← hexValue? c) + (← hexValue? d)

/-- Four hexadecimal digits. A text of fewer than four bytes ends in them. -/
def scanHex4 (cs : List Char) : Except Fault (Nat × List Char) :=
  let digits : Option (Nat × List Char) :=
    match cs with
    | a :: b :: c :: d :: rest => (hexValue4? a b c d).map (·, rest)
    | _ => none
  match digits with
  | some found => .ok found
  | none =>
    if (bytesOf cs).length < 4 then .error (.before .endOfString []) else .error ⟨.badEscape, cs, 4⟩

/-- The second half of a pair of surrogates, as the character that the pair stands for. -/
def scanLowSurrogate (high : Nat) : List Char → Except Fault (Char × List Char)
  | [] => .error (.before .endOfString [])
  | '\\' :: [] => .error (.before .endOfString [])
  | '\\' :: 'u' :: rest => do
    let (low, rest) ← scanHex4 rest
    if 0xDC00 ≤ low ∧ low ≤ 0xDFFF then
      .ok (Char.ofNat (0x10000 + 1024 * (high - 0xD800) + (low - 0xDC00)), rest)
    else .error (.before .loneSurrogate rest)
  | '\\' :: rest => .error (.atNext .unfinishedPair rest)
  | rest => .error (.atNext .unfinishedPair rest)

/-- The character of an escape whose backslash has been read. -/
def scanEscape : List Char → Except Fault (Char × List Char)
  | [] => .error (.before .endOfString [])
  | '"' :: rest => .ok ('"', rest)
  | '\\' :: rest => .ok ('\\', rest)
  | '/' :: rest => .ok ('/', rest)
  | 'b' :: rest => .ok ('\x08', rest)
  | 'f' :: rest => .ok ('\x0c', rest)
  | 'n' :: rest => .ok ('\n', rest)
  | 'r' :: rest => .ok ('\r', rest)
  | 't' :: rest => .ok ('\t', rest)
  | 'u' :: rest => do
    let (n, rest) ← scanHex4 rest
    if 0xDC00 ≤ n ∧ n ≤ 0xDFFF then .error (.before .loneSurrogate rest)
    else if 0xD800 ≤ n ∧ n ≤ 0xDBFF then scanLowSurrogate n rest
    else .ok (Char.ofNat n, rest)
  | rest => .error (.atNext .badEscape rest)

/-- A string after its opening quote; `read` holds its characters so far, the last one first. -/
def scanChars : Nat → List Char → List Char → Except Fault (String × List Char)
  | 0, _, cs => .error (.before .endOfString cs)
  | _ + 1, _, [] => .error (.before .endOfString [])
  | _ + 1, read, '"' :: rest => .ok (String.ofList read.reverse, rest)
  | fuel + 1, read, '\\' :: rest => do
    let (c, rest) ← scanEscape rest
    scanChars fuel (c :: read) rest
  | fuel + 1, read, c :: rest =>
    if c.toNat < 0x20 then .error (.before .controlCharacter rest) else scanChars fuel (c :: read) rest

def scanString : Scan String := fun cs => scanChars (cs.length + 1) [] cs

/-! ## Numbers -/

/-- The largest exponent that is read to its end. -/
def exponentLimit : Nat := 0x7FFFFFFF

/-- The digits of an exponent up to one that takes it beyond the limit; the flag tells that one did. -/
def scanExponentDigits : Nat → List Char → Nat × Bool × List Char
  | n, [] => (n, false, [])
  | n, c :: rest =>
    if c.isDigit then
      let next := 10 * n + (c.toNat - 48)
      if next > exponentLimit then (n, true, rest) else scanExponentDigits next rest
    else (n, false, c :: rest)

/-- A double with a sign; infinity is out of range. -/
def finish (negative : Bool) (significand : Nat) (exponent : Int) : Scan Number := fun rest =>
  let x := Decimal.scaled significand exponent
  if x.isInf then .error (.before .numberTooLarge rest)
  else .ok (.float (if negative then -x else x), rest)

/-- The exponent of a number, after its letter; without it the number has the exponent `start`. -/
def scanExponent (negative : Bool) (significand : Nat) (start : Int) : Scan Number := fun cs =>
  let (down, cs) := Decimal.splitSign cs
  match cs with
  | [] => .error (.before .endOfValue [])
  | c :: rest =>
    if c.isDigit then
      match scanExponentDigits 0 (c :: rest) with
      | (e, false, rest) => finish negative significand (start + if down then -(e : Int) else e) rest
      | (_, true, rest) =>
        if significand ≠ 0 ∧ ¬ down then .error (.before .numberTooLarge rest)
        else finish negative 0 0 (rest.dropWhile Char.isDigit)
    else .error (.atNext .badNumber (c :: rest))

/-- How far 64 bits with a sign reach below zero. -/
def mostBelowZero : Nat := 0x8000000000000000

/-- A whole number, which is kept whole in 64 bits, or a double if `more` digits lie beyond them; there is
no whole number minus zero. -/
def finishWhole (negative : Bool) (n more : Nat) : Scan Number := fun rest =>
  if more ≠ 0 then finish negative n more rest
  else if negative then
    if n = 0 ∨ n > mostBelowZero then finish true n 0 rest else .ok (.int (-n), rest)
  else .ok (.int n, rest)

/-- The rest of a number after the digits of its whole part. Digits beyond 64 bits count as zeros. -/
def scanFraction (negative : Bool) (whole : List Char) : Scan Number := fun cs =>
  let (n, more) := Decimal.leading 0 whole
  match cs with
  | '.' :: rest =>
    let fraction := rest.takeWhile Char.isDigit
    let after := rest.dropWhile Char.isDigit
    let (significand, left) := Decimal.leading n fraction
    let exponent : Int := (more : Int) + left - fraction.length
    match fraction, after with
    | [], [] => .error (.before .endOfValue [])
    | [], after => .error (.atNext .badNumber after)
    | _, 'e' :: after => scanExponent negative significand exponent after
    | _, 'E' :: after => scanExponent negative significand exponent after
    | _, after => finish negative significand exponent after
  | 'e' :: rest => scanExponent negative n more rest
  | 'E' :: rest => scanExponent negative n more rest
  | rest => finishWhole negative n more rest

/-- A number without its sign. -/
def scanUnsigned (negative : Bool) : Scan Number := fun cs =>
  match cs with
  | [] => .error (.before .endOfValue [])
  | '0' :: c :: rest =>
    if c.isDigit then .error (.atNext .badNumber (c :: rest))
    else scanFraction negative ['0'] (c :: rest)
  | c :: rest =>
    if c.isDigit then
      scanFraction negative ((c :: rest).takeWhile Char.isDigit) ((c :: rest).dropWhile Char.isDigit)
    else .error (.atNext .badNumber (c :: rest))

/-! ## Lists and objects -/

/-- The elements of a list after its opening bracket, up to and with the closing one; `read` holds those
read so far, the last one first. -/
def scanElements {α : Type} (element : Scan α) : Nat → List α → Scan (List α)
  | 0, _, cs => .error (.before .endOfList cs)
  | fuel + 1, read, cs =>
    let next (cs : List Char) : Except Fault (List α × List Char) := do
      let (x, cs) ← element cs
      scanElements element fuel (x :: read) cs
    match skipSpace cs with
    | [] => .error (.before .endOfList [])
    | ']' :: rest => .ok (read.reverse, rest)
    | c :: rest =>
      if read.isEmpty then next (c :: rest)
      else if c = ',' then
        match skipSpace rest with
        | [] => .error (.before .endOfValue [])
        | ']' :: rest => .error (.atNext .trailingComma (']' :: rest))
        | rest => next rest
      else .error (.atNext .noListSeparator (c :: rest))

def scanList {α : Type} (element : Scan α) : Scan (List α) := fun cs =>
  scanElements element (cs.length + 1) [] cs

/-- The colon after a key. -/
def scanColon (cs : List Char) : Except Fault (List Char) :=
  match skipSpace cs with
  | ':' :: rest => .ok rest
  | [] => .error (.before .endOfObject [])
  | rest => .error (.atNext .noColon rest)

/-- The members of an object after its opening brace, up to and with the closing one. What is known of
the members is carried along: `member` takes a key and the text after its closing quote. -/
def scanMembers {σ : Type} (member : String → σ → Scan σ) : Nat → Bool → σ → Scan σ
  | 0, _, _, cs => .error (.before .endOfObject cs)
  | fuel + 1, first, known, cs =>
    let next (cs : List Char) : Except Fault (σ × List Char) := do
      let (key, cs) ← scanString cs
      let (known, cs) ← member key known cs
      scanMembers member fuel false known cs
    match skipSpace cs with
    | [] => .error (.before .endOfObject [])
    | '}' :: rest => .ok (known, rest)
    | c :: rest =>
      if first then
        if c = '"' then next rest else .error (.atNext .keyNotString (c :: rest))
      else if c = ',' then
        match skipSpace rest with
        | [] => .error (.before .endOfValue [])
        | '"' :: rest => next rest
        | '}' :: rest => .error (.atNext .trailingComma ('}' :: rest))
        | rest => .error (.atNext .keyNotString rest)
      else .error (.atNext .noObjectSeparator (c :: rest))

def scanObject {σ : Type} (member : String → σ → Scan σ) (known : σ) : Scan σ := fun cs =>
  scanMembers member (cs.length + 1) true known cs

end AssetCheck.Json
