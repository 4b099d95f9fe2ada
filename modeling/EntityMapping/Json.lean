import EntityMapping.Keyed
import EntityMapping.Number.Binary64

/-!
# Data values

Values in the form in which they are stored in a mapping record and handed on:
the keys of an object are distinct and sorted.
-/

namespace EntityMapping

open EntityMapping.Number

/-- A data value. -/
inductive Json where
  | null
  | boolean (value : Bool)
  | integer (value : Int)
  | number (value : Binary64)
  | text (value : String)
  | array (items : List Json)
  | object (entries : List (String × Json))
deriving Inhabited

namespace Json

/-- The truth value, if the value is one. -/
def asBool? : Json → Option Bool
  | boolean value => some value
  | _ => none

/-- The number, if the value is an integer that is not negative. -/
def asNat? : Json → Option Nat
  | integer (.ofNat value) => some value
  | _ => none

/-- A text or nothing. -/
def ofText? : Option String → Json
  | some value => text value
  | none => null

/-- A list of texts. -/
def ofTexts (values : List String) : Json :=
  array (values.map text)

/-- An object from entries in any order; the last of several with one key stays. -/
def ofEntries (entries : List (String × Json)) : Json :=
  object (Keyed.ofEntries entries)

end Json

end EntityMapping
