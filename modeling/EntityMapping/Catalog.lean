import EntityMapping.Files.Classes
import EntityMapping.Files.Search
import EntityMapping.Settings.Evaluation

/-!
# The catalog of mapped classes

A catalog finds the types of classes in mapping files and keeps what it has read:
a file that was read once is not read again, whatever happens to it.
-/

namespace EntityMapping

open EntityMapping.Document
open EntityMapping.Files
open EntityMapping.Record
open EntityMapping.Settings

/-- A catalog: where it searches, which files it has read, and for which files it has
asked, in order. -/
structure Catalog where
  search : Search
  loaded : List (Path × Classes)
  requests : List Path

/-- Why a catalog cannot answer. -/
inductive CatalogError where
  | noFile (className extension : String)
  | noClass (className : String) (path : Path)
  | file (error : FileError)
  | scan (error : ScanError)
  | evaluation (error : EvaluationError)

namespace CatalogError

/-- The wording of the error. -/
def message : CatalogError → String
  | noFile className extension =>
      "no mapping file found for class '" ++ className ++ "' (extension '" ++ extension ++ "')"
  | noClass className path => "class '" ++ className ++ "' is not declared in " ++ path.text
  | file error => error.message
  | scan error => error.message
  | evaluation error => error.message

/-- The class that the error is about. -/
def className? : CatalogError → Option String
  | noFile className _ => some className
  | noClass className _ => some className
  | file _ => none
  | scan _ => none
  | evaluation error => some error.className

end CatalogError

namespace Catalog

/-- The answer of a catalog, and the catalog afterwards. -/
abbrev Answer (α : Type) : Type := Except CatalogError α × Catalog

/-- A catalog that has read nothing yet. -/
def new (search : Search) : Catalog :=
  ⟨search, [], []⟩

/-- The classes of a file that has been read. -/
def loaded? (path : Path) (catalog : Catalog) : Option Classes :=
  (catalog.loaded.find? fun entry => entry.1.same path).map (·.2)

/-- The classes of a file, which is read unless it has been.  A file that cannot be
used is not kept. -/
def classes (tree : Tree) (path : Path) (catalog : Catalog) : Answer Classes :=
  match catalog.loaded? path with
  | some classes => (.ok classes, catalog)
  | none =>
      let asked := { catalog with requests := catalog.requests ++ [path] }
      match readClasses tree path with
      | .error error => (.error (.file error), asked)
      | .ok classes => (.ok classes, { asked with loaded := asked.loaded ++ [(path, classes)] })

/-- The type of a class, from the first file named after the class. -/
def definition (tree : Tree) (className : String) (catalog : Catalog) : Answer ObjectType :=
  match catalog.search.find? tree className with
  | none => (.error (.noFile className catalog.search.extension), catalog)
  | some path =>
      match catalog.classes tree path with
      | (.error error, catalog) => (.error error, catalog)
      | (.ok classes, catalog) =>
          match classes.lookup className with
          | some type => (.ok type, catalog)
          | none => (.error (.noClass className path), catalog)

/-- Evaluate the type of a class into a record. -/
def load (tree : Tree) (className : String) (record : ClassMapping) (catalog : Catalog) :
    Answer ClassMapping :=
  match catalog.definition tree className with
  | (.error error, catalog) => (.error error, catalog)
  | (.ok type, catalog) => ((evaluate className type record).mapError .evaluation, catalog)

/-- The classes of several files over the given ones.  Stops at the first file that
cannot be used. -/
def mergeFrom (tree : Tree) : List Path → Classes → Catalog → Answer Classes
  | [], merged, catalog => (.ok merged, catalog)
  | path :: rest, merged, catalog =>
      match catalog.classes tree path with
      | (.error error, catalog) => (.error error, catalog)
      | (.ok classes, catalog) => mergeFrom tree rest (Keyed.override merged classes) catalog

/-- All classes of all mapping files; the last file that declares a class counts.  No file is
read if not all of them can be found. -/
def definitions (tree : Tree) (catalog : Catalog) : Answer Classes :=
  match catalog.search.files tree with
  | .error error => (.error (.scan error), catalog)
  | .ok paths => mergeFrom tree paths [] catalog

/-- The names of all classes, in order. -/
def names (tree : Tree) (catalog : Catalog) : Answer (List String) :=
  match catalog.definitions tree with
  | (result, catalog) => (result.map Keyed.keys, catalog)

/-- Whether objects of a class are never stored on their own: nothing declares the
class, or it is neither an entity nor a mapped superclass. -/
def isTransient (tree : Tree) (className : String) (catalog : Catalog) : Answer Bool :=
  match catalog.definition tree className with
  | (.error (.noFile _ _), catalog) => (.ok true, catalog)
  | (.error (.noClass _ _), catalog) => (.ok true, catalog)
  | (.error error, catalog) => (.error error, catalog)
  | (.ok type, catalog) =>
      (.ok (!Marker.entity.isAmong type.directives &&
        !Marker.mappedSuperclass.isAmong type.directives), catalog)

end Catalog

end EntityMapping
