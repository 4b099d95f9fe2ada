import EntityMapping.Json
import EntityMapping.Record.Vocabulary

/-!
# Tables, caches and queries

The parts of a mapping record that concern the class as a whole.
-/

namespace EntityMapping.Record

open EntityMapping.Text

/-- Settings that are kept as they were written. -/
abbrev Attributes := Keyed Json

/-- An index or a unique constraint. -/
structure Index where
  name : Option String
  columns : List String
  /-- Fields, whose columns are only known later. -/
  fields : List String
  flags : List String
  options : Attributes

/-- An index over columns. -/
def Index.onColumns (name : String) (columns : List String) : Index :=
  ⟨some name, columns, [], [], []⟩

/-- The table of a class. -/
structure Table where
  name : Option String
  schema : Option String
  indexes : List Index
  uniqueConstraints : List Index
  options : Attributes

/-- The first index of a name. -/
def Table.index? (name : String) (table : Table) : Option Index :=
  table.indexes.find? (·.name == some name)

/-- How a class or an association is cached. -/
structure CacheSettings where
  usage : CacheUsage
  region : String
deriving DecidableEq

/-- The cache region of a class for which none is given: its name in lower case,
with underscores between the parts. -/
def defaultRegion (className : String) : String :=
  (lowerCase className).map fun c => if c = '\\' then '_' else c

/-- The column that tells the classes of a hierarchy apart. -/
structure Discriminator where
  column : String
  type : String
  length : Option Nat
deriving DecidableEq

namespace Discriminator

def defaultType : String := "string"

def defaultLength : Nat := 255

/-- A discriminator of the default type and length. -/
def ofColumn (column : String) : Discriminator :=
  ⟨column, defaultType, some defaultLength⟩

end Discriminator

/-- A query in the language of the mapping. -/
structure NamedQuery where
  name : String
  query : String
deriving DecidableEq

/-- A query in the language of the database. -/
structure NativeQuery where
  name : String
  query : String
  resultClass : Option String
  resultSetMapping : Option String
deriving DecidableEq

/-- How the columns of a native query become objects. -/
structure ResultSetMapping where
  name : String
  entities : List Json
  columns : List Json

end EntityMapping.Record
