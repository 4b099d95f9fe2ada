import EntityMapping.Text.Casing

/-!
# Closed vocabularies

Settings with a fixed set of values.  Each value has a written form in capitals;
a text is read by its upper case, so that letters of either case will do.
-/

namespace EntityMapping.Record

open EntityMapping.Text

/-- A type with finitely many values, each with a written form. -/
class Vocabulary (α : Type) where
  all : List α
  text : α → String

namespace Vocabulary

/-- The value that a text denotes. -/
def read? {α : Type} [Vocabulary α] (written : String) : Option α :=
  (all : List α).find? fun value => text value == upperCase written

theorem upperCase_eq_of_read? {α : Type} [Vocabulary α] {written : String} {value : α}
    (found : read? written = some value) : upperCase written = text value := by
  have same := List.find?_some found
  simpa using Eq.symm (by simpa using same)

end Vocabulary

/-- What kind of class is mapped. -/
inductive EntityKind where
  /-- A class with a table of its own. -/
  | entity
  /-- A class that only passes its mapping on to its subclasses. -/
  | mappedSuperclass
  /-- A value that is stored inside the table of another class. -/
  | embeddable
deriving DecidableEq, Repr

/-- The written form of a kind. -/
def EntityKind.text : EntityKind → String
  | entity => "entity"
  | mappedSuperclass => "mapped_superclass"
  | embeddable => "embeddable"

/-- How cached objects may be changed. -/
inductive CacheUsage where
  | readOnly
  | nonstrictReadWrite
  | readWrite
deriving DecidableEq, Repr

instance : Vocabulary CacheUsage where
  all := [.readOnly, .nonstrictReadWrite, .readWrite]
  text
    | .readOnly => "READ_ONLY"
    | .nonstrictReadWrite => "NONSTRICT_READ_WRITE"
    | .readWrite => "READ_WRITE"

/-- How a class hierarchy is laid out in tables. -/
inductive Inheritance where
  | none
  | singleTable
  | joined
  | tablePerClass
deriving DecidableEq, Repr

instance : Vocabulary Inheritance where
  all := [.none, .singleTable, .joined, .tablePerClass]
  text
    | .none => "NONE"
    | .singleTable => "SINGLE_TABLE"
    | .joined => "JOINED"
    | .tablePerClass => "TABLE_PER_CLASS"

/-- How changes to objects are noticed. -/
inductive ChangeTracking where
  | deferredImplicit
  | deferredExplicit
  | notify
deriving DecidableEq, Repr

instance : Vocabulary ChangeTracking where
  all := [.deferredImplicit, .deferredExplicit, .notify]
  text
    | .deferredImplicit => "DEFERRED_IMPLICIT"
    | .deferredExplicit => "DEFERRED_EXPLICIT"
    | .notify => "NOTIFY"

/-- Where identifiers come from. -/
inductive IdGenerator where
  | auto
  | identity
  | sequence
  | table
  | none
  | custom
  | uuid
deriving DecidableEq, Repr

instance : Vocabulary IdGenerator where
  all := [.auto, .identity, .sequence, .table, .none, .custom, .uuid]
  text
    | .auto => "AUTO"
    | .identity => "IDENTITY"
    | .sequence => "SEQUENCE"
    | .table => "TABLE"
    | .none => "NONE"
    | .custom => "CUSTOM"
    | .uuid => "UUID"

/-- When associated objects are loaded. -/
inductive FetchMode where
  | lazy
  | eager
  | extraLazy
deriving DecidableEq, Repr

instance : Vocabulary FetchMode where
  all := [.lazy, .eager, .extraLazy]
  text
    | .lazy => "LAZY"
    | .eager => "EAGER"
    | .extraLazy => "EXTRA_LAZY"

/-- The direction of an ordering. -/
inductive Direction where
  | ascending
  | descending
deriving DecidableEq, Repr

instance : Vocabulary Direction where
  all := [.ascending, .descending]
  text
    | .ascending => "ASC"
    | .descending => "DESC"

end EntityMapping.Record
