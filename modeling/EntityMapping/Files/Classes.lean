import EntityMapping.Document.Reader
import EntityMapping.Files.Tree
import EntityMapping.Keyed
import EntityMapping.Settings.Marker

/-!
# Classes of a mapping file

A type is bound to the class that its binding annotation names.
-/

namespace EntityMapping.Files

open EntityMapping.Document
open EntityMapping.Settings
open EntityMapping.Text

/-- Types by the class they are bound to. -/
abbrev Classes := Keyed ObjectType

/-- The class that a type is bound to: only a string will do as its name. -/
def boundClass? (type : ObjectType) : Option String :=
  match (Marker.classBinding.among type.directives).bind (·.argument? "name") with
  | some (.string name) => some name
  | _ => none

/-- The object types with a class, each with its class. -/
def bindings (definitions : List Definition) : List (String × ObjectType) :=
  (objectTypes definitions).filterMap fun type => (boundClass? type).map (·, type)

/-- The classes that definitions declare; the last type of a class counts. -/
def classesOf (definitions : List Definition) : Classes :=
  Keyed.ofEntries (bindings definitions)

/-- Why a mapping file cannot be used. -/
inductive FileError where
  | unreadable (path : Path) (failure : ReadFailure)
  | malformed (path : Path) (source : String) (error : SyntaxError)

namespace FileError

/-- The file in question. -/
def path : FileError → Path
  | unreadable path _ => path
  | malformed path _ _ => path

/-- The wording of the error. -/
def message : FileError → String
  | unreadable path failure =>
      "failed to read mapping file " ++ path.text ++ ": " ++ failure.message
  | malformed path source error =>
      path.text ++ ": " ++ String.ofList (trimEnd (error.render source).toList)

end FileError

/-- The definitions in a mapping file. -/
def readFile (tree : Tree) (path : Path) : Except FileError (List Definition) :=
  match tree.readText path with
  | .error failure => .error (.unreadable path failure)
  | .ok source =>
      match Document.read source with
      | .error error => .error (.malformed path source error)
      | .ok definitions => .ok definitions

/-- The classes that a mapping file declares. -/
def readClasses (tree : Tree) (path : Path) : Except FileError Classes :=
  (readFile tree path).map classesOf

end EntityMapping.Files
