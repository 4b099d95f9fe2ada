import EntityMapping.Record.Table

/-!
# Mapped fields

A field is stored in a column, refers to other objects, or embeds a value.
-/

namespace EntityMapping.Record

/-- A field stored in a column. -/
structure Column where
  fieldName : String
  columnName : String
  typeName : String
  /-- Whether the field belongs to the identifier. -/
  isId : Bool
  attributes : Attributes

namespace Column

def defaultType : String := "string"

/-- A column with the name of its field and the default type. -/
def ofField (fieldName : String) : Column :=
  ⟨fieldName, fieldName, defaultType, false, []⟩

/-- A setting as it was written. -/
def attribute? (name : String) (column : Column) : Option Json :=
  column.attributes.lookup name

/-- Whether the column may hold null. -/
def isNullable (column : Column) : Bool :=
  ((column.attribute? "nullable").bind Json.asBool?).getD false

/-- Whether the values of the column are distinct. -/
def isUnique (column : Column) : Bool :=
  ((column.attribute? "unique").bind Json.asBool?).getD false

/-- The length of the column, if one is given. -/
def length? (column : Column) : Option Nat :=
  (column.attribute? "length").bind Json.asNat?

end Column

/-- How many objects stand on the two sides of an association. -/
inductive Cardinality where
  | oneToOne
  | oneToMany
  | manyToOne
  | manyToMany
deriving DecidableEq, Repr

namespace Cardinality

/-- The written form of a cardinality. -/
def text : Cardinality → String
  | oneToOne => "one_to_one"
  | oneToMany => "one_to_many"
  | manyToOne => "many_to_one"
  | manyToMany => "many_to_many"

/-- Whether the field holds a single object. -/
def isToOne : Cardinality → Bool
  | oneToOne => true
  | manyToOne => true
  | oneToMany => false
  | manyToMany => false

end Cardinality

/-- A column that refers to another table. -/
structure JoinColumn where
  name : String
  referencedColumn : Option String
  isUnique : Bool
  isNullable : Bool
  onDelete : Option String
  columnDefinition : Option String
deriving DecidableEq

/-- A join column that may hold null and need not be unique. -/
def JoinColumn.ofName (name : String) : JoinColumn :=
  ⟨name, none, false, true, none, none⟩

/-- The table that links both sides of an association. -/
structure JoinTable where
  name : Option String
  schema : Option String
  joinColumns : List JoinColumn
  inverseJoinColumns : List JoinColumn
deriving DecidableEq

/-- A term of an ordering. -/
structure OrderTerm where
  field : String
  direction : Direction
deriving DecidableEq

/-- A field that refers to other objects. -/
structure Association where
  fieldName : String
  cardinality : Cardinality
  targetEntity : String
  /-- On the inverse side, the field that owns the association. -/
  mappedBy : Option String
  /-- On the owning side, the field of the inverse side. -/
  inversedBy : Option String
  cascade : List String
  fetch : FetchMode
  orphanRemoval : Bool
  /-- Whether the field belongs to the identifier. -/
  isId : Bool
  joinColumns : List JoinColumn
  joinTable : Option JoinTable
  indexBy : Option String
  orderBy : List OrderTerm
  cache : Option CacheSettings
deriving DecidableEq

namespace Association

/-- An association without any settings. -/
def plain (fieldName : String) (cardinality : Cardinality) (targetEntity : String) :
    Association :=
  ⟨fieldName, cardinality, targetEntity, none, none, [], .lazy, false, false, [], none, none,
    [], none⟩

/-- Whether the association is stored on this side. -/
def isOwningSide (association : Association) : Bool :=
  association.mappedBy.isNone

/-- Whether two texts are equal apart from the case of ASCII letters. -/
def equalIgnoringCase (left right : String) : Bool :=
  left.map Char.toLower == right.map Char.toLower

/-- Whether an operation on the object extends to the associated ones. -/
def cascades (operation : String) (association : Association) : Bool :=
  association.cascade.any fun allowed =>
    allowed == "all" || equalIgnoringCase allowed operation

end Association

/-- What stands before the column names of an embedded value. -/
inductive ColumnPrefix where
  | default
  | disabled
  | custom (text : String)
deriving DecidableEq

/-- A field that embeds a value. -/
structure Embedded where
  fieldName : String
  className : String
  columnPrefix : ColumnPrefix
deriving DecidableEq

namespace Embedded

/-- The text before the column names; by default the name of the field. -/
def resolvedPrefix (embedded : Embedded) : String :=
  match embedded.columnPrefix with
  | .default => embedded.fieldName ++ "_"
  | .disabled => ""
  | .custom text => text

end Embedded

end EntityMapping.Record
