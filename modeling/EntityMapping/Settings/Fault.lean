import EntityMapping.Document.Value
import EntityMapping.Record.Vocabulary

/-!
# Faults in annotations

Why the annotations of a class cannot be turned into a mapping record, and how
that is worded.
-/

namespace EntityMapping.Settings

open EntityMapping.Document
open EntityMapping.Record

/-- A step into a value. -/
inductive Step where
  | key (name : String)
  | index (index : Nat)
deriving DecidableEq, Repr

/-- The place of a value inside the arguments of a directive. -/
abbrev ArgumentPath := List Step

namespace ArgumentPath

/-- The written form of a path that goes on from an outer one. -/
def tailText : ArgumentPath → String
  | [] => ""
  | .key name :: rest => "." ++ name ++ tailText rest
  | .index index :: rest => "[" ++ toString index ++ "]" ++ tailText rest

/-- The written form of a path. -/
def text : ArgumentPath → String
  | [] => ""
  | .key name :: rest => name ++ tailText rest
  | .index index :: rest => "[" ++ toString index ++ "]" ++ tailText rest

end ArgumentPath

/-- What a value has to be. -/
inductive Demand where
  | text
  | boolean
  | natural
  | texts
  | objects
  | object
  | list
  | columnPrefix
  | joinColumn
deriving DecidableEq, Repr

/-- The wording of a demand. -/
def Demand.wording : Demand → String
  | text => "a string"
  | boolean => "a boolean"
  | natural => "a non-negative integer"
  | texts => "a list of strings"
  | objects => "a list of objects"
  | object => "an object"
  | list => "a list"
  | columnPrefix => "a string or false"
  | joinColumn => "a column name or join column object"

/-- A setting that takes its values from a vocabulary. -/
inductive Concept where
  | inheritance
  | changeTracking
  | generator
  | fetchMode
  | direction
deriving DecidableEq, Repr

/-- The wording of a concept. -/
def Concept.wording : Concept → String
  | inheritance => "inheritance type"
  | changeTracking => "change tracking policy"
  | generator => "generator strategy"
  | fetchMode => "fetch mode"
  | direction => "order direction"

/-- What is wrong with the annotations of a class. -/
inductive Fault where
  /-- No annotation says what kind of class it is. -/
  | noKind
  | unknownCacheUsage (usage : String)
  /-- A join without any column. -/
  | noJoinColumn (field : String)
  | tableGenerator (field : String)
  | noDiscriminator (inheritance : Inheritance)
  | unknownValue (concept : Concept) (value : String)
  | missingArgument (directive : String) (path : ArgumentPath)
  | wrongKind (directive : String) (path : ArgumentPath) (demand : Demand)
      (found : ValueKind)
  /-- An association that claims to be both sides. -/
  | bothSides (field : String)
deriving DecidableEq

/-- The wording of a fault of the given class. -/
def Fault.message (className : String) : Fault → String
  | noKind => "class '" ++ className ++ "' is not a valid entity or mapped super class"
  | unknownCacheUsage usage =>
      "invalid cache usage '" ++ usage ++ "' on class '" ++ className ++ "'"
  | noJoinColumn field =>
      "@Join on '" ++ className ++ "::" ++ field ++
        "' needs a 'column' or 'columns' argument"
  | tableGenerator field =>
      "table generator on '" ++ className ++ "::" ++ field ++ "' is not implemented"
  | noDiscriminator inheritance =>
      "class '" ++ className ++ "' uses " ++ Vocabulary.text inheritance ++
        " inheritance but declares no @Discriminator"
  | unknownValue concept value =>
      "invalid " ++ concept.wording ++ " '" ++ value ++ "' on class '" ++ className ++ "'"
  | missingArgument directive path =>
      "@" ++ directive ++ " on '" ++ className ++ "' requires the '" ++ path.text ++
        "' argument"
  | wrongKind directive path demand found =>
      "argument '" ++ path.text ++ "' of @" ++ directive ++ " on '" ++ className ++
        "' must be " ++ demand.wording ++ ", found " ++ found.text
  | bothSides field =>
      "association '" ++ className ++ "::" ++ field ++
        "' cannot declare both mappedBy and inversedBy"

/-- A fault and the class whose annotations have it. -/
structure EvaluationError where
  className : String
  fault : Fault
deriving DecidableEq

/-- What is shown to a reader. -/
def EvaluationError.message (error : EvaluationError) : String :=
  error.fault.message error.className

end EntityMapping.Settings
