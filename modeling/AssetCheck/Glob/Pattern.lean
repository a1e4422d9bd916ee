/-!
Glob patterns. `?` stands for a byte, `*` for bytes of one name, `**` for any number of names, `[...]` for
a byte of a class, and `{...}` for one of several patterns; a backslash takes the next character as it is.
A pattern is read from left to right into the tokens of the group that is open.
-/

namespace AssetCheck.Glob

/-- A part of a pattern. -/
inductive Token
  /-- A character that stands for itself. -/
  | literal (c : Char)
  /-- A byte of a name. -/
  | any
  /-- Bytes of a name. -/
  | run
  /-- The whole names in front of a path. -/
  | leadingNames
  /-- The names at the end of a path. -/
  | trailingNames
  /-- The names between two others. -/
  | innerNames
  | oneOf (negated : Bool) (ranges : List (Char × Char))
  | group (alternatives : List (List Token))

/-- Why a text is no pattern. -/
inductive PatternError
  | unclosedClass
  | emptyRange (first last : Char)
  | unopenedGroup
  | unclosedGroup
  | danglingEscape
  deriving DecidableEq, Repr

def PatternError.message : PatternError → String
  | .unclosedClass => "unclosed character class; missing ']'"
  | .emptyRange first last => "invalid range; '" ++ first.toString ++ "' > '" ++ last.toString ++ "'"
  | .unopenedGroup =>
    "unopened alternate group; missing '\x7b' (maybe escape '\x7d' with '[\x7d]'?)"
  | .unclosedGroup =>
    "unclosed alternate group; missing '\x7d' (maybe escape '\x7b' with '[\x7b]'?)"
  | .danglingEscape => "dangling '\\'"

/-! ## Classes -/

/-- Ranges with another end for the last one. -/
def stretchLast : List (Char × Char) → Char → Except PatternError (List (Char × Char))
  | [], c => .ok [(c, c)]
  | (first, _) :: others, c => if c < first then .error (.emptyRange first c) else .ok ((first, c) :: others)

/-- The ranges of a class up to and with its closing bracket, the last one first. `open_` tells that a
hyphen has begun a range, which the next character ends; a bracket or a hyphen that comes first stands
for itself, and so does a hyphen that comes last. -/
def classRanges : List (Char × Char) → Bool → List Char →
    Except PatternError (List (Char × Char) × List Char)
  | _, _, [] => .error .unclosedClass
  | ranges, open_, c :: rest =>
    if c = ']' ∧ ranges ≠ [] then .ok (if open_ then ('-', '-') :: ranges else ranges, rest)
    else if c = '-' ∧ ranges ≠ [] ∧ ¬ open_ then classRanges ranges true rest
    else if open_ then
      match stretchLast ranges c with
      | .ok ranges => classRanges ranges false rest
      | .error e => .error e
    else classRanges ((c, c) :: ranges) false rest

/-- A class after its opening bracket. -/
def readClass (cs : List Char) : Except PatternError (Token × List Char) := do
  let (negated, cs) : Bool × List Char :=
    match cs with
    | '!' :: rest => (true, rest)
    | '^' :: rest => (true, rest)
    | cs => (false, cs)
  let (ranges, rest) ← classRanges [] false cs
  return (.oneOf negated ranges.reverse, rest)

/-! ## Groups -/

/-- A group that is open: its finished alternatives, and the tokens in front of the group, both with the
last one first. -/
structure OpenGroup where
  alternatives : List (List Token)
  before : List Token

/-- What has been read of a pattern: the tokens of the alternative at hand, the last one first, and the
open groups, the innermost first. -/
structure State where
  tokens : List Token
  groups : List OpenGroup

def State.push (s : State) (token : Token) : State := { s with tokens := token :: s.tokens }

def State.openGroup (s : State) : State := ⟨[], ⟨[], s.tokens⟩ :: s.groups⟩

/-- Ends an alternative and begins the next; outside all groups a comma stands for itself. -/
def State.comma (s : State) : State :=
  match s.groups with
  | [] => s.push (.literal ',')
  | g :: groups => ⟨[], { g with alternatives := s.tokens.reverse :: g.alternatives } :: groups⟩

def State.closeGroup (s : State) : Except PatternError State :=
  match s.groups with
  | [] => .error .unopenedGroup
  | g :: groups =>
    .ok ⟨.group (s.tokens.reverse :: g.alternatives).reverse :: g.before, groups⟩

/-! ## Two stars -/

/-- Two stars that stand for bytes of a name. -/
def State.pushRuns (s : State) : State := (s.push .run).push .run

/-- Names in the place of the slash before two stars; names that stand there already absorb them. -/
def State.pushNames (s : State) (token : Token) : State :=
  match s.tokens with
  | .leadingNames :: _ | .trailingNames :: _ => s
  | _ :: tokens => { s with tokens := token :: tokens }
  | [] => s.push token

/-- Two stars, and the text after them. They stand for names only if they fill the place between slashes,
between the ends of a pattern, or between the ends of an alternative. -/
def State.twoStars (s : State) (previous : Option Char) (rest : List Char) : State × List Char :=
  if s.tokens.isEmpty then
    match rest with
    | [] => (s.push .leadingNames, [])
    | '/' :: rest => (s.push .leadingNames, rest)
    | rest => (s.pushRuns, rest)
  else
    let begins :=
      previous = some '/' ∨ (s.groups ≠ [] ∧ (previous = some ',' ∨ previous = some '{'))
    if ¬ begins then (s.pushRuns, rest)
    else
      match rest with
      | [] => (s.pushNames .trailingNames, [])
      | '/' :: rest => (s.pushNames .innerNames, rest)
      | c :: rest =>
        if s.groups ≠ [] ∧ (c = ',' ∨ c = '}') then (s.pushNames .trailingNames, c :: rest)
        else (s.pushRuns, c :: rest)

/-! ## Patterns -/

/-- Reads a pattern on from a state; `previous` is the character before the unread text. -/
def readTokens : Nat → State → Option Char → List Char → Except PatternError State
  | _, s, _, [] => .ok s
  | 0, s, _, _ => .ok s
  | steps + 1, s, previous, c :: rest =>
    match c with
    | '?' => readTokens steps (s.push .any) (some c) rest
    | '*' =>
      match rest with
      | '*' :: rest =>
        let (s, after) := s.twoStars previous rest
        readTokens steps s (if after.length < rest.length then some '/' else some '*') after
      | rest => readTokens steps (s.push .run) (some c) rest
    | '[' => do
      let (token, rest) ← readClass rest
      readTokens steps (s.push token) (some ']') rest
    | '{' => readTokens steps s.openGroup (some c) rest
    | '}' => do readTokens steps (← s.closeGroup) (some c) rest
    | ',' => readTokens steps s.comma (some c) rest
    | '\\' =>
      match rest with
      | [] => .error .danglingEscape
      | c :: rest => readTokens steps (s.push (.literal c)) (some c) rest
    | c => readTokens steps (s.push (.literal c)) (some c) rest

def parse (pattern : String) : Except PatternError (List Token) := do
  let cs := pattern.toList
  let s ← readTokens cs.length ⟨[], []⟩ none cs
  if s.groups ≠ [] then .error .unclosedGroup else .ok s.tokens.reverse

end AssetCheck.Glob
