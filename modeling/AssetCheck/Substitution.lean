import AssetCheck.AssetPath
import AssetCheck.ParamValue

/-!
Substitutions. A pipeline is written once for all assets; tokens in its parameters stand for the paths of
the asset at hand. Tokens are distinct, and so are the values they stand for.
-/

namespace AssetCheck

/-- Tokens and the values they stand for. -/
structure Substitutions where
  entries : List (String × String)
  distinctTokens : (entries.map Prod.fst).Nodup
  distinctValues : (entries.map Prod.snd).Nodup

namespace Substitutions

def assetInput : String := "$ASSET_INPUT_PATH"
def reportPath : String := "$REPORT_PATH"
def assetOutput : String := "$ASSET_OUTPUT_PATH"

/-- Tokens begin with this character. -/
def sigil : Char := '$'

def empty : Substitutions := ⟨[], by simp, by simp⟩

/-- The token or value that occurs twice. -/
structure Repeated where
  text : String
  deriving DecidableEq, Repr

/-- One more token; the token is compared before the value. -/
def add (m : Substitutions) (entry : String × String) : Except Repeated Substitutions :=
  if ht : entry.1 ∈ m.entries.map Prod.fst then .error ⟨entry.1⟩
  else if hv : entry.2 ∈ m.entries.map Prod.snd then .error ⟨entry.2⟩
  else
    .ok
      { entries := m.entries ++ [entry]
        distinctTokens := by
          rw [List.map_append, List.nodup_append]
          exact ⟨m.distinctTokens, by simp, fun a ha b hb => by
            simp only [List.map_cons, List.map_nil, List.mem_singleton] at hb
            exact fun h => ht (hb ▸ h ▸ ha)⟩
        distinctValues := by
          rw [List.map_append, List.nodup_append]
          exact ⟨m.distinctValues, by simp, fun a ha b hb => by
            simp only [List.map_cons, List.map_nil, List.mem_singleton] at hb
            exact fun h => hv (hb ▸ h ▸ ha)⟩ }

/-- The substitutions of a list of tokens and values. -/
def ofPairs (pairs : List (String × String)) : Except Repeated Substitutions :=
  pairs.foldlM add empty

def get? (m : Substitutions) (token : String) : Option String :=
  (m.entries.find? (·.1 = token)).map Prod.snd

/-- The token that a parameter value is, with what it stands for. -/
def lookup? (m : Substitutions) (literal : ParamValue) : Option (String × String) := do
  let text ← literal.asText?
  if text.toList.head? = some sigil then m.entries.find? (·.1 = text) else none

def ofAsset (path : String) : Except Repeated Substitutions :=
  let input := AssetPath.normalize path
  ofPairs
    [(assetInput, input), (reportPath, AssetPath.report input), (assetOutput, AssetPath.output input)]

end Substitutions

end AssetCheck
