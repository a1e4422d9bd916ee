import AssetCheck.Glob.Pattern

/-!
Sets of byte strings. A pattern stands for an expression over bytes, and a string is tested by deriving
the expression by one byte after the other: what is left has to admit the empty string.
-/

namespace AssetCheck.Glob

/-- An expression for a set of byte strings. -/
inductive Expr
  | nothing
  | empty
  /-- One byte in some closed ranges, or outside all of them. -/
  | byte (negated : Bool) (ranges : List (UInt8 × UInt8))
  | seq (a b : Expr)
  | either (a b : Expr)
  | many (a : Expr)
  deriving DecidableEq

namespace Expr

/-- The empty string is in the set. -/
def nullable : Expr → Bool
  | nothing | byte .. => false
  | empty | many _ => true
  | seq a b => a.nullable && b.nullable
  | either a b => a.nullable || b.nullable

/-- One after the other. -/
def andThen : Expr → Expr → Expr
  | nothing, _ => nothing
  | empty, b => b
  | a, b => if b = nothing then nothing else seq a b

/-- An expression is one of the alternatives of another. -/
def hasAlternative : Expr → Expr → Bool
  | either a b, e => a = e || b.hasAlternative e
  | a, e => a = e

/-- One or the other. Alternatives that are there already are not added again, which keeps what is left of
an expression from growing with each byte. -/
def or : Expr → Expr → Expr
  | nothing, b => b
  | either a rest, b =>
    let others := rest.or b
    if others.hasAlternative a then others else either a others
  | a, b => if b = nothing then a else if b.hasAlternative a then b else either a b

/-- The strings that come after a byte in strings of the set. -/
def derive (x : UInt8) : Expr → Expr
  | nothing | empty => nothing
  | byte negated ranges =>
    if (ranges.any fun r => r.1 ≤ x && x ≤ r.2) != negated then empty else nothing
  | seq a b =>
    let first := (a.derive x).andThen b
    if a.nullable then first.or (b.derive x) else first
  | either a b => (a.derive x).or (b.derive x)
  | many a => (a.derive x).andThen (many a)

/-- The string is in the set. -/
def admits : Expr → List UInt8 → Bool
  | e, [] => e.nullable
  | e, x :: rest => (e.derive x).admits rest

theorem admits_nothing (s : List UInt8) : nothing.admits s = false := by
  induction s with
  | nil => rfl
  | cons x rest ih => exact ih

theorem admits_of_hasAlternative {s : List UInt8}
    (h : ∀ a b, (either a b).admits s = (a.admits s || b.admits s)) {e a : Expr}
    (ha : e.hasAlternative a) (hs : a.admits s) : e.admits s := by
  fun_induction hasAlternative e a with
  | case1 a b rest ih =>
    rw [Bool.or_eq_true, decide_eq_true_eq] at ha
    rw [h, Bool.or_eq_true]
    rcases ha with rfl | ha
    · exact Or.inl hs
    · exact Or.inr (ih ha hs)
  | case2 e a _ => exact of_decide_eq_true ha ▸ hs

/-- Leaving out an alternative that is there already changes nothing. -/
theorem admits_eq_of_hasAlternative {s : List UInt8}
    (h : ∀ a b, (either a b).admits s = (a.admits s || b.admits s)) {e a : Expr}
    (ha : e.hasAlternative a) : e.admits s = (a.admits s || e.admits s) := by
  have := admits_of_hasAlternative h ha
  cases hs : a.admits s <;> simp_all

theorem admits_or_of {s : List UInt8}
    (h : ∀ a b, (either a b).admits s = (a.admits s || b.admits s)) (a b : Expr) :
    (a.or b).admits s = (a.admits s || b.admits s) := by
  fun_induction Expr.or a b with
  | case1 b => simp [admits_nothing]
  | case2 a rest b others ha ih =>
    rw [h, Bool.or_assoc, ← ih]
    exact admits_eq_of_hasAlternative h ha
  | case3 a rest b others _ ih => rw [h, h, Bool.or_assoc, ← ih]
  | case4 => simp [admits_nothing]
  | case5 a b _ _ _ ha => exact admits_eq_of_hasAlternative h ha
  | case6 a b _ _ _ ha => exact h a b

theorem admits_either (s : List UInt8) :
    ∀ a b : Expr, (either a b).admits s = (a.admits s || b.admits s) := by
  induction s with
  | nil => exact fun _ _ => rfl
  | cons x rest ih => exact fun a b => admits_or_of ih (a.derive x) (b.derive x)

theorem admits_or (s : List UInt8) (a b : Expr) : (a.or b).admits s = (a.admits s || b.admits s) :=
  admits_or_of (admits_either s) a b

end Expr

/-! ## Patterns -/

def slashByte : UInt8 := 47

def slash : Expr := .byte false [(slashByte, slashByte)]

/-- A byte of a name. -/
def nameByte : Expr := .byte true [(slashByte, slashByte)]

def anything : Expr := .many (.byte true [])

/-- The bytes of a character in UTF-8. -/
def charBytes (c : Char) : List UInt8 := String.utf8EncodeChar c

def literal (bytes : List UInt8) : Expr :=
  bytes.foldr (fun x e => (Expr.byte false [(x, x)]).andThen e) .empty

/-- The bytes of a class. A range of characters is one from the last byte of the first character to the
first byte of the last one, and their other bytes stand for themselves. -/
def classBytes (range : Char × Char) : List (UInt8 × UInt8) :=
  let first := charBytes range.1
  let last := charBytes range.2
  let alone (bytes : List UInt8) : List (UInt8 × UInt8) := bytes.map fun x => (x, x)
  if range.1 = range.2 then alone first
  else alone first.dropLast ++ [(first.getLastD 0, last.headD 0)] ++ alone last.tail

mutual

/-- The expression of a token; a group without alternatives has none. -/
def tokenExpr? : Token → Option Expr
  | .literal c => some (literal (charBytes c))
  | .any => some nameByte
  | .run => some (.many nameByte)
  | .leadingNames => some (.either (.either .empty slash) (.seq anything slash))
  | .trailingNames => some (.seq slash anything)
  | .innerNames => some (.either slash (.seq slash (.seq anything slash)))
  | .oneOf negated ranges => some (.byte negated (ranges.flatMap classBytes))
  | .group alternatives =>
    match alternativeExprs alternatives with
    | [] => none
    | e :: es => some (es.foldl Expr.or e)

/-- The expression of tokens in a row, unless none of them has one. -/
def tokensExpr? : List Token → Option Expr
  | [] => none
  | token :: rest =>
    match tokenExpr? token, tokensExpr? rest with
    | some a, some b => some (a.andThen b)
    | some a, none => some a
    | none, e => e

/-- The expressions of alternatives; those without one are dropped. -/
def alternativeExprs : List (List Token) → List Expr
  | [] => []
  | tokens :: rest =>
    match tokensExpr? tokens with
    | some e => e :: alternativeExprs rest
    | none => alternativeExprs rest

end

/-- The expression of a pattern. Two stars alone stand for every path. -/
def patternExpr : List Token → Expr
  | [.leadingNames] => anything
  | tokens => (tokensExpr? tokens).getD .empty

/-- The whole path is one that the expression stands for. -/
def Expr.isMatch (e : Expr) (path : String) : Bool := e.admits (path.toList.flatMap charBytes)

end AssetCheck.Glob
