import EntityMapping.Text.Casing.Upper
import EntityMapping.Text.Casing.Lower
import EntityMapping.Text.Casing.Context
import EntityMapping.Text.Ranges

/-!
# Upper and lower case

The full case mappings, in which one character may become several.  Only the
capital sigma looks at its surroundings: at the end of a word it becomes the
final form.
-/

namespace EntityMapping.Text

/-- The upper case of one character. -/
def upperChar (c : Char) : List Char :=
  match upperExpansions.lookup c.toNat with
  | some codes => codes.map Char.ofNat
  | none => [Char.ofNat (Run.image upperRuns c.toNat)]

/-- The upper case of a text. -/
def upperCase (text : String) : String :=
  String.ofList (text.toList.flatMap upperChar)

/-- The lower case of one character, apart from its surroundings. -/
def lowerChar (c : Char) : List Char :=
  match lowerExpansions.lookup c.toNat with
  | some codes => codes.map Char.ofNat
  | none => [Char.ofNat (Run.image lowerRuns c.toNat)]

/-- Whether the first character that casing does not look through is cased. -/
def meetsCased (text : List Char) : Bool :=
  match text.dropWhile fun c => inRanges caseIgnorableRanges c.toNat with
  | [] => false
  | c :: _ => inRanges casedRanges c.toNat

/-- The lower case of a sigma: final after a cased character and not before one.
The text before it is given in reverse. -/
def lowerSigma (before after : List Char) : Char :=
  if meetsCased before && !meetsCased after then 'ς' else 'σ'

/-- The lower case of a text that follows another one, given in reverse. -/
def lowerAfter (before : List Char) : List Char → List Char
  | [] => []
  | c :: rest =>
      (if c = 'Σ' then [lowerSigma before rest] else lowerChar c) ++
        lowerAfter (c :: before) rest

/-- The lower case of a text. -/
def lowerCase (text : String) : String :=
  String.ofList (lowerAfter [] text.toList)

end EntityMapping.Text
