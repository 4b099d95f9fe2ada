import EntityMapping.Files.Path

/-!
# Entries of directories

Directories hold files and further directories under their names.  The system may refuse to
list a directory, to lead any further into it, or to read a file.
-/

namespace EntityMapping.Files

/-- Why the system does not give what a path asks for. -/
inductive ReadFailure where
  | absent
  /-- A file stands where a directory is needed. -/
  | blocked
  /-- A name on the way or the whole path has too many bytes. -/
  | tooLong
  /-- The path holds a character that ends every name. -/
  | cutShort
  | isDirectory
  | notText
  | denied
  /-- Anything else, in the words of the system. -/
  | other (message : String)
deriving DecidableEq, Repr

/-- The wording of a failure to read. -/
def ReadFailure.message : ReadFailure → String
  | absent => "No such file or directory (os error 2)"
  | blocked => "Not a directory (os error 20)"
  | tooLong => "File name too long (os error 36)"
  | cutShort => "file name contained an unexpected NUL byte"
  | isDirectory => "Is a directory (os error 21)"
  | notText => "stream did not contain valid UTF-8"
  | denied => "Permission denied (os error 13)"
  | other message => message

/-- What stands against the use of a directory: why its entries are not listed, and why
nothing in it is reached. -/
structure Access where
  listing : Option ReadFailure
  passing : Option ReadFailure
deriving DecidableEq, Repr

/-- Nothing stands against the use of a directory. -/
def Access.free : Access := ⟨none, none⟩

/-- An entry of a directory.  A file has a text, or a reason why it cannot be read; and an
entry may lead nowhere, as a link does to what is gone. -/
inductive Entry where
  | file (content : Except ReadFailure String)
  | directory (access : Access) (entries : List (Name × Entry))
  | broken (failure : ReadFailure)

namespace Entry

/-- Change the entry of a name, or add one. -/
def update (name : Name) (change : Option Entry → Entry) :
    List (Name × Entry) → List (Name × Entry)
  | [] => [(name, change none)]
  | (other, entry) :: rest =>
      if other = name then (other, change (some entry)) :: rest
      else (other, entry) :: update name change rest

/-- Put an entry at the end of a way of names, making the directories on the way.
Directories are never replaced, and nothing is put below anything else. -/
def put (content : Entry) : List Name → Option Entry → Entry
  | [], some (.directory access entries) => .directory access entries
  | [], _ => content
  | name :: rest, some (.directory access entries) =>
      .directory access (update name (put content rest) entries)
  | _ :: _, some other => other
  | name :: rest, none => .directory .free [(name, put content rest none)]

/-- The entry with the directories that components pass through, below those of the
given names, the innermost first. -/
def makeDirectories : List Name → List Component → Entry → Entry
  | _, [], top => top
  | names, component :: rest, top =>
      let below := component.descend names
      makeDirectories below rest (put (.directory .free []) below.reverse (some top))

/-- The entry without what stands at the end of a way of names. -/
def erase : List Name → Entry → Entry
  | [name], .directory access entries =>
      .directory access (entries.eraseP fun entry => entry.1 == name)
  | name :: next :: rest, .directory access entries =>
      match entries.lookup name with
      | some inner =>
          .directory access (update name (fun _ => erase (next :: rest) inner) entries)
      | none => .directory access entries
  | _, here => here

end Entry

end EntityMapping.Files
