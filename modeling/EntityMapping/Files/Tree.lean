import EntityMapping.Files.Entry

/-!
# Trees of files

All files stand below one topmost directory.  A path that starts at the root leads there from
this directory, every other path from the current one.
-/

namespace EntityMapping.Files

/-- The most bytes that a name on the way may have. -/
def nameLimit : Nat := 255

/-- The most bytes that a whole path may have. -/
def pathLimit : Nat := 4095

/-- An entry, and the directories above it, the innermost first. -/
structure Place where
  here : Entry
  above : List Entry

namespace Place

/-- The entry of a name. -/
def inner? (place : Place) (name : Name) : Option Place :=
  match place.here with
  | .directory _ entries => (entries.lookup name).map (⟨·, place.here :: place.above⟩)
  | _ => none

/-- The directory above.  Above the topmost one there is only itself. -/
def upper (place : Place) : Place :=
  match place.above with
  | [] => place
  | upper :: above => ⟨upper, above⟩

/-- Where a piece of a path leads.  Every piece but the empty one takes a directory in which
something can be reached. -/
def step (place : Place) (piece : Name) : Except ReadFailure Place :=
  match place.here with
  | .broken failure => .error failure
  | .file _ => .error .blocked
  | .directory access _ =>
      if piece = [] then .ok place
      else
        match access.passing with
        | some failure => .error failure
        | none =>
            if piece = oneDot then .ok place
            else if piece = twoDots then .ok place.upper
            else if nameLimit < piece.length then .error .tooLong
            else
              match place.inner? piece with
              | some inner => .ok inner
              | none => .error .absent

end Place

/-- The entries from the topmost directory down, and the names that lead from there to the
current directory. -/
structure Tree where
  top : Entry
  current : List Name

namespace Tree

/-- The place where a path starts.  There is none if the current directory has been
removed. -/
def start? (tree : Tree) (path : Path) : Option Place :=
  if path.isAbsolute then some ⟨tree.top, []⟩ else tree.current.foldlM Place.inner? ⟨tree.top, []⟩

/-- What a path leads to.  The empty path leads nowhere. -/
def find (tree : Tree) (path : Path) : Except ReadFailure Entry :=
  if path.isCutShort then .error .cutShort
  else if path.bytes.isEmpty then .error .absent
  else if pathLimit < path.bytes.length then .error .tooLong
  else
    match tree.start? path with
    | none => .error .absent
    | some start =>
        match path.pieces.foldlM Place.step start with
        | .error failure => .error failure
        | .ok ⟨.broken failure, _⟩ => .error failure
        | .ok ⟨here, _⟩ => .ok here

/-- Whether a path leads to a file. -/
def isFile (tree : Tree) (path : Path) : Bool :=
  match tree.find path with
  | .ok (.file _) => true
  | _ => false

/-- The text of the file that a path leads to.  To try this on a directory needs the same right
as to list it. -/
def readText (tree : Tree) (path : Path) : Except ReadFailure String :=
  match tree.find path with
  | .error failure => .error failure
  | .ok (.broken failure) => .error failure
  | .ok (.directory access _) =>
      if access.listing = some .denied then .error .denied else .error .isDirectory
  | .ok (.file content) => content

/-- The names from the top down to where a path leads. -/
def names (tree : Tree) (path : Path) : List Name :=
  (path.components.foldl Component.descend tree.current.reverse).reverse

/-- The tree with an entry at the end of a path, and with all directories on the way. -/
def write (path : Path) (content : Entry) (tree : Tree) : Tree :=
  let made := Entry.makeDirectories tree.current.reverse path.components.dropLast tree.top
  { tree with top := Entry.put content (tree.names path) (some made) }

/-- The tree without the file that a path leads to, if it leads to one. -/
def remove? (path : Path) (tree : Tree) : Option Tree :=
  if tree.isFile path then some { tree with top := Entry.erase (tree.names path) tree.top }
  else none

theorem isFile_of_readText {tree : Tree} {path : Path} {text : String}
    (read : tree.readText path = .ok text) : tree.isFile path = true := by
  unfold readText at read
  unfold isFile
  split at read <;> grind

end Tree

end EntityMapping.Files
