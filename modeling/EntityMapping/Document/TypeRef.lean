/-!
# Type references

A named type, or a list of a type, either possibly marked as never null.
-/

namespace EntityMapping.Document

/-- A reference to a type. -/
inductive TypeRef where
  | named (name : String)
  | list (item : TypeRef)
  | nonNull (inner : TypeRef)
deriving DecidableEq, Repr

namespace TypeRef

/-- The name inside all lists and marks. -/
def baseName : TypeRef → String
  | named name => name
  | list item => item.baseName
  | nonNull inner => inner.baseName

/-- Whether the reference itself is marked as never null. -/
def isNonNull : TypeRef → Bool
  | nonNull _ => true
  | _ => false

/-- Whether the reference is a list, marked or not. -/
def isList : TypeRef → Bool
  | named _ => false
  | list _ => true
  | nonNull inner => inner.isList

/-- The reference as it is written. -/
def text : TypeRef → String
  | named name => name
  | list item => "[" ++ item.text ++ "]"
  | nonNull inner => inner.text ++ "!"

end TypeRef

end EntityMapping.Document
