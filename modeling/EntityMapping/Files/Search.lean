import EntityMapping.Files.Tree

/-!
# Searching for mapping files

The mapping file of a class is named after it and stands in one of the search
directories.  All mapping files below these directories are found by their
extension, unless one of the directories there cannot be listed.
-/

namespace EntityMapping.Files

open EntityMapping.Text

/-- A directory, and the path by which it was found. -/
structure Folder where
  path : Path
  access : Access
  entries : List (Name × Entry)

/-- The directory that a path leads to. -/
def Tree.folder? (tree : Tree) (path : Path) : Option Folder :=
  match tree.find path with
  | .ok (.directory access entries) => some ⟨path, access, entries⟩
  | _ => none

/-- Whether the system tells, under its path, what an entry of a directory is: nothing in the
directory is kept from sight, and the path is not too long. -/
def Access.Shows (access : Access) (path : Path) : Prop :=
  access.passing = none ∧ path.bytes.length ≤ pathLimit

instance (access : Access) (path : Path) : Decidable (access.Shows path) :=
  inferInstanceAs (Decidable (_ ∧ _))

/-- A directory that cannot be listed, and why. -/
structure ScanError where
  directory : Path
  failure : ReadFailure
deriving DecidableEq, Repr

/-- The wording of the error. -/
def ScanError.message (error : ScanError) : String :=
  "failed to scan mapping directory " ++ error.directory.text ++ ": " ++ error.failure.message

/-- Where mapping files are, and how their names end. -/
structure Search where
  paths : List Path
  extension : String
deriving DecidableEq, Repr

namespace Search

def defaultExtension : String := ".dcm.graphqls"

/-- The name of the mapping file of a class, with dots between the parts. -/
def fileName (search : Search) (className : String) : String :=
  (className.map fun c => if c = '\\' then '.' else c) ++ search.extension

/-- The mapping file of a class: the first that exists. -/
def find? (search : Search) (tree : Tree) (className : String) : Option Path :=
  (search.paths.map (·.join (utf8 (search.fileName className)))).find? tree.isFile

/-- Whether a name is a text that ends with the extension. -/
def accepts (search : Search) (name : Name) : Bool :=
  (text? name).any fun text => search.extension.toList.isSuffixOf text.toList

/-- What an entry counts for that is not seen to be a directory: a mapping file just if it is
named like one. -/
def asFile (search : Search) (path : Path) (name : Name) : List Path :=
  if search.accepts name then [path.join name] else []

mutual

/-- The mapping files at and below an entry of a directory. -/
def filesAt (search : Search) (path : Path) (access : Access) (name : Name) :
    Entry → Except ScanError (List Path)
  | .directory inner entries =>
      if access.Shows (path.join name) then
        match inner.listing with
        | some failure => .error ⟨path.join name, failure⟩
        | none => search.filesAmong (path.join name) inner entries
      else .ok (search.asFile path name)
  | _ => .ok (search.asFile path name)

/-- The mapping files at and below entries of a directory. -/
def filesAmong (search : Search) (path : Path) (access : Access) :
    List (Name × Entry) → Except ScanError (List Path)
  | [] => .ok []
  | (name, entry) :: rest => do
      let first ← search.filesAt path access name entry
      let others ← search.filesAmong path access rest
      return first ++ others

end

/-- The mapping files in and below a directory. -/
def filesIn (search : Search) (folder : Folder) : Except ScanError (List Path) :=
  match folder.access.listing with
  | some failure => .error ⟨folder.path, failure⟩
  | none => search.filesAmong folder.path folder.access folder.entries

/-- The mapping files below a search path; none unless it is a directory. -/
def filesBelow (search : Search) (tree : Tree) (path : Path) : Except ScanError (List Path) :=
  match tree.folder? path with
  | some folder => search.filesIn folder
  | none => .ok []

/-- All mapping files, in order and without repetition. -/
def files (search : Search) (tree : Tree) : Except ScanError (List Path) :=
  (search.paths.mapM (search.filesBelow tree)).map fun found =>
    Path.dropRepeats (Path.sort found.flatten)

end Search

end EntityMapping.Files
