import AssetCheck.Text.Hidden

/-!
Quoted text for messages. The quotation is in double quotes on one line: quotes, backslashes, line
breaks, tabs and null characters are written with a backslash, and hidden characters by their code point.
-/

namespace AssetCheck.Text

def hex (n : Nat) : String := String.ofList (Nat.toDigits 16 n)

/-- One character inside a quotation. -/
def quoteChar (c : Char) : String :=
  match c with
  | '"' => "\\\""
  | '\\' => "\\\\"
  | '\n' => "\\n"
  | '\r' => "\\r"
  | '\t' => "\\t"
  | '\x00' => "\\0"
  | c => if isHidden c then "\\u\x7b" ++ hex c.toNat ++ "\x7d" else c.toString

def quoted (s : String) : String := "\"" ++ String.join (s.toList.map quoteChar) ++ "\""

example : quoted "" = "\"\"" := by decide

end AssetCheck.Text
