/-!
Sequences cut at a separator, and texts without what they begin with.
-/

namespace AssetCheck.Text

/-- The pieces between the separators; there is one more piece than there are separators. -/
def pieces {α : Type} [DecidableEq α] (separator : α) : List α → List (List α)
  | [] => [[]]
  | x :: rest =>
    if x = separator then [] :: pieces separator rest
    else
      match pieces separator rest with
      | [] => [[x]]
      | piece :: others => (x :: piece) :: others

/-- The text after `lead`, if it begins with that. -/
def after? (lead s : String) : Option String :=
  (lead.toList.isPrefixOf? s.toList).map String.ofList

/-- The text with a character in the place of another. -/
def replaceChar (old new : Char) (s : String) : String :=
  String.ofList (s.toList.map fun c => if c = old then new else c)

/-- The characters at the front whose bytes fit into a number of bytes. -/
def fitting : Nat → List Char → List Char
  | room, c :: rest => if c.utf8Size ≤ room then c :: fitting (room - c.utf8Size) rest else []
  | _, [] => []

end AssetCheck.Text
