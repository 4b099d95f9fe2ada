import EntityMapping.Text.Utf8

/-!
# Paths

A path is shown as it was written, but compared by its components: doubled
slashes, inner dots and a slash at the end make no difference.
-/

namespace EntityMapping.Files

open EntityMapping.Text

/-- The name of an entry of a directory: bytes, as a rule those of a text. -/
abbrev Name := List UInt8

/-- A path as it was written. -/
structure Path where
  bytes : List UInt8
deriving DecidableEq, Repr

/-- A part of a path. -/
inductive Component where
  | root
  | current
  | parent
  | normal (name : Name)
deriving DecidableEq, Repr

/-- The byte between the pieces of a path. -/
def slash : UInt8 := 0x2F

/-- The piece that leads nowhere. -/
def oneDot : Name := [0x2E]

/-- The piece that leads up. -/
def twoDots : Name := [0x2E, 0x2E]

namespace Component

/-- The place of the kind of a component in the order of components. -/
def rank : Component → Nat
  | root => 0
  | current => 1
  | parent => 2
  | normal _ => 3

/-- The name of an ordinary component. -/
def name : Component → Name
  | normal name => name
  | _ => []

/-- The order of components: by kind, then by the bytes of the name. -/
def compare (left right : Component) : Ordering :=
  (Ord.compare left.rank right.rank).then (Ord.compare left.name right.name)

/-- The component that a piece between slashes stands for; empty pieces and dots
stand for none. -/
def ofPiece? (piece : Name) : Option Component :=
  if piece = [] ∨ piece = oneDot then none
  else if piece = twoDots then some parent
  else some (normal piece)

/-- The order of lists of components: by the first difference. -/
def compareLists : List Component → List Component → Ordering
  | [], [] => .eq
  | [], _ :: _ => .lt
  | _ :: _, [] => .gt
  | left :: lefts, right :: rights => (compare left right).then (compareLists lefts rights)

/-- The names of the directories from the top down to where one more component
leads, the innermost first: a step up takes the last name back. -/
def descend (names : List Name) : Component → List Name
  | root => []
  | current => names
  | parent => names.drop 1
  | normal name => name :: names

end Component

/-- The pieces of bytes between slashes. -/
def splitSlashes : List UInt8 → List Name
  | [] => [[]]
  | byte :: rest =>
      if byte = slash then [] :: splitSlashes rest
      else
        match splitSlashes rest with
        | [] => [[byte]]
        | piece :: more => (byte :: piece) :: more

namespace Path

/-- The path that a text spells. -/
def ofText (text : String) : Path :=
  ⟨utf8 text⟩

/-- The path as it is shown. -/
def text (path : Path) : String :=
  shown path.bytes

/-- The pieces of the path between slashes. -/
def pieces (path : Path) : List Name :=
  splitSlashes path.bytes

/-- Whether the path starts at the root. -/
def isAbsolute (path : Path) : Bool :=
  path.bytes.head? == some slash

/-- The components of the path.  A dot only counts at the very front. -/
def components (path : Path) : List Component :=
  let front :=
    if path.isAbsolute then [Component.root]
    else if path.pieces.head? = some oneDot then [Component.current]
    else []
  front ++ path.pieces.filterMap Component.ofPiece?

/-- Whether the path holds the byte that ends every name. -/
def isCutShort (path : Path) : Bool :=
  path.bytes.contains 0

/-- The order of paths, by components. -/
def compare (left right : Path) : Ordering :=
  Component.compareLists left.components right.components

/-- Whether two paths have the same components. -/
def same (left right : Path) : Bool :=
  left.components == right.components

/-- A name below a directory.  An absolute name stands for itself. -/
def join (directory : Path) (name : Name) : Path :=
  if (Path.mk name).isAbsolute then ⟨name⟩
  else if directory.bytes.isEmpty then ⟨name⟩
  else if directory.bytes.getLast? = some slash then ⟨directory.bytes ++ name⟩
  else ⟨directory.bytes ++ slash :: name⟩

/-- Put each path before those that do not come before it, keeping the order of
equal ones. -/
def sort (paths : List Path) : List Path :=
  paths.mergeSort fun left right => compare left right != .gt

/-- The paths behind a kept one, without those that repeat the one before them. -/
def dropRepeatsOf (kept : Path) : List Path → List Path
  | [] => []
  | path :: rest =>
      if kept.same path then dropRepeatsOf kept rest else path :: dropRepeatsOf path rest

/-- The paths without those that repeat the one before them. -/
def dropRepeats : List Path → List Path
  | [] => []
  | path :: rest => path :: dropRepeatsOf path rest

theorem same_refl (path : Path) : path.same path = true := by
  simp [same]

end Path

end EntityMapping.Files
