import Mathlib
import EntityMapping.Proofs.Files.LongPaths
import EntityMapping.Proofs.Files.Order

/-!
# Walks through directories

The mapping files are found by walking through the search directories.  Main statements: they
are listed in order, each once; listed are exactly the search directories that exist, joined
with names that lead down to what is not seen as a directory and is named with the extension;
the listing fails just if a directory on the walk cannot be listed; and neither the order in
which directories are enumerated nor the order or repetition of the search paths makes a
difference.
-/

namespace EntityMapping.Files

open EntityMapping.Text

/-! ## Ways down -/

/-- The entry is not seen to be a directory under a path, given what stands against the use of
the directory that it is in. -/
def Entry.TakenForFile (Seen : Access → Path → Prop) (access : Access) (path : Path)
    (entry : Entry) : Prop :=
  ∀ inner entries, entry = .directory inner entries → ¬ Seen access path

namespace Search

/-- What a search meets in a directory and below it.  It meets a mapping file in any entry that
is not seen to be a directory and is named with the extension, under the path of the directory
joined with the name; an error where the directory cannot be listed; and whatever it meets in
the directories in there, each under the path joined with its name, that are seen as such. -/
inductive Meets (search : Search) (Seen : Access → Path → Prop) :
    Folder → Except ScanError Path → Prop
  | file {folder : Folder} {name : Name} {entry : Entry} (among : (name, entry) ∈ folder.entries)
      (lists : folder.access.listing = none)
      (isFile : entry.TakenForFile Seen folder.access (folder.path.join name))
      (accepted : search.accepts name = true) :
      Meets search Seen folder (.ok (folder.path.join name))
  | refusal {folder : Folder} {failure : ReadFailure}
      (refused : folder.access.listing = some failure) :
      Meets search Seen folder (.error ⟨folder.path, failure⟩)
  | inside {folder : Folder} {name : Name} {inner : Access} {entries : List (Name × Entry)}
      {item : Except ScanError Path} (among : (name, .directory inner entries) ∈ folder.entries)
      (lists : folder.access.listing = none) (seen : Seen folder.access (folder.path.join name))
      (further : Meets search Seen ⟨folder.path.join name, inner, entries⟩ item) :
      Meets search Seen folder item

/-- What a search meets at one entry of a directory. -/
def MeetsAt (search : Search) (Seen : Access → Path → Prop) (path : Path) (access : Access)
    (name : Name) (entry : Entry) (item : Except ScanError Path) : Prop :=
  (entry.TakenForFile Seen access (path.join name) ∧ search.accepts name = true ∧
    item = .ok (path.join name)) ∨
  ∃ inner entries, entry = .directory inner entries ∧ Seen access (path.join name) ∧
    search.Meets Seen ⟨path.join name, inner, entries⟩ item

/-- What a search meets below the search paths that lead to directories. -/
def MeetsBelow (search : Search) (Seen : Access → Path → Prop) (tree : Tree) (paths : List Path)
    (item : Except ScanError Path) : Prop :=
  ∃ directory ∈ paths, ∃ folder, tree.folder? directory = some folder ∧
    search.Meets Seen folder item

/-- A path has the components of that of a mapping file below a search path that leads to a
directory. -/
def Locates (search : Search) (Seen : Access → Path → Prop) (tree : Tree) (path : Path) : Prop :=
  ∃ file, search.MeetsBelow Seen tree search.paths (.ok file) ∧ file.same path = true

variable {search : Search} {Seen : Access → Path → Prop} {path : Path} {access inner : Access}
  {name : Name} {entry : Entry} {entries rest : List (Name × Entry)} {folder : Folder}
  {item : Except ScanError Path} {outcome : Except ScanError (List Path)}

section Listed

variable (lists : access.listing = none)
include lists

theorem meets_iff :
    search.Meets Seen ⟨path, access, entries⟩ item ↔
      ∃ name entry, (name, entry) ∈ entries ∧
        search.MeetsAt Seen path access name entry item := by
  constructor
  · rintro met
    cases met with
    | file among _ isFile accepted => exact ⟨_, _, among, Or.inl ⟨isFile, accepted, rfl⟩⟩
    | refusal refused => cases lists.symm.trans refused
    | inside among _ seen further => exact ⟨_, _, among, Or.inr ⟨_, _, rfl, seen, further⟩⟩
  · rintro ⟨name, entry, among, ⟨isFile, accepted, rfl⟩ | ⟨inner, others, rfl, seen, further⟩⟩
    · exact .file among lists isFile accepted
    · exact .inside among lists seen further

theorem not_meets_nil : ¬ search.Meets Seen ⟨path, access, []⟩ item := by
  rw [meets_iff lists]
  rintro ⟨name, entry, among, -⟩
  exact List.not_mem_nil among

theorem meets_cons_iff :
    search.Meets Seen ⟨path, access, (name, entry) :: rest⟩ item ↔
      search.MeetsAt Seen path access name entry item ∨
        search.Meets Seen ⟨path, access, rest⟩ item := by
  rw [meets_iff lists, meets_iff lists]
  constructor
  · rintro ⟨other, inner, among, met⟩
    rcases List.mem_cons.mp among with same | behind
    · cases same
      exact Or.inl met
    · exact Or.inr ⟨other, inner, behind, met⟩
  · rintro (met | ⟨other, inner, behind, met⟩)
    · exact ⟨name, entry, List.mem_cons_self, met⟩
    · exact ⟨other, inner, List.mem_cons_of_mem _ behind, met⟩

end Listed

theorem meetsAt_iff_of_takenForFile (isFile : entry.TakenForFile Seen access (path.join name)) :
    search.MeetsAt Seen path access name entry item ↔
      ∃ file ∈ search.asFile path name, item = .ok file := by
  rw [asFile]
  constructor
  · rintro (⟨-, accepted, rfl⟩ | ⟨inner, entries, isDirectory, seen, -⟩)
    · exact ⟨_, by rw [if_pos accepted]; exact List.mem_cons_self, rfl⟩
    · exact absurd seen (isFile inner entries isDirectory)
  · rintro ⟨file, member, rfl⟩
    split at member
    · rename_i accepted
      rw [List.mem_singleton.mp member]
      exact Or.inl ⟨isFile, accepted, rfl⟩
    · cases member

theorem meetsAt_directory_iff (seen : Seen access (path.join name)) :
    search.MeetsAt Seen path access name (.directory inner entries) item ↔
      search.Meets Seen ⟨path.join name, inner, entries⟩ item := by
  constructor
  · rintro (⟨isFile, -, -⟩ | ⟨_, _, same, -, met⟩)
    · exact absurd seen (isFile inner entries rfl)
    · cases same
      exact met
  · intro met
    exact Or.inr ⟨inner, entries, rfl, seen, met⟩

/-! ## Walks -/

/-- A walk through the entries of a directory finds paths, one after another, or ends at a
directory that cannot be listed.  Each directory is enumerated in whatever order. -/
inductive Walks (search : Search) : Folder → Except ScanError (List Path) → Prop
  | done {path : Path} {access : Access} : Walks search ⟨path, access, []⟩ (.ok [])
  | file {path : Path} {access : Access} {name : Name} {entry : Entry}
      {rest : List (Name × Entry)} {outcome : Except ScanError (List Path)}
      (isFile : entry.TakenForFile Access.Shows access (path.join name))
      (behind : Walks search ⟨path, access, rest⟩ outcome) :
      Walks search ⟨path, access, (name, entry) :: rest⟩
        (outcome.map (search.asFile path name ++ ·))
  | directory {path : Path} {access inner : Access} {name : Name}
      {entries rest : List (Name × Entry)} {below : List Path}
      {outcome : Except ScanError (List Path)} (shows : access.Shows (path.join name))
      (lists : inner.listing = none)
      (inside : Walks search ⟨path.join name, inner, entries⟩ (.ok below))
      (behind : Walks search ⟨path, access, rest⟩ outcome) :
      Walks search ⟨path, access, (name, .directory inner entries) :: rest⟩
        (outcome.map (below ++ ·))
  | refused {path : Path} {access inner : Access} {name : Name}
      {entries rest : List (Name × Entry)} {failure : ReadFailure}
      (shows : access.Shows (path.join name)) (refused : inner.listing = some failure) :
      Walks search ⟨path, access, (name, .directory inner entries) :: rest⟩
        (.error ⟨path.join name, failure⟩)
  | stopped {path : Path} {access inner : Access} {name : Name}
      {entries rest : List (Name × Entry)} {error : ScanError}
      (shows : access.Shows (path.join name)) (lists : inner.listing = none)
      (inside : Walks search ⟨path.join name, inner, entries⟩ (.error error)) :
      Walks search ⟨path, access, (name, .directory inner entries) :: rest⟩ (.error error)
  | reordered {path : Path} {access : Access} {entries others : List (Name × Entry)}
      {outcome : Except ScanError (List Path)} (order : entries.Perm others)
      (walk : Walks search ⟨path, access, others⟩ outcome) :
      Walks search ⟨path, access, entries⟩ outcome

/-- A walk through a directory, which cannot even start if this cannot be listed. -/
inductive Scans (search : Search) : Folder → Except ScanError (List Path) → Prop
  | refused {folder : Folder} {failure : ReadFailure}
      (refused : folder.access.listing = some failure) :
      Scans search folder (.error ⟨folder.path, failure⟩)
  | walk {folder : Folder} {outcome : Except ScanError (List Path)}
      (lists : folder.access.listing = none) (walk : Walks search folder outcome) :
      Scans search folder outcome

/-- A walk through search paths finds paths, those below one search path after those below
another; a path that does not lead to a directory is passed over. -/
inductive WalksAll (search : Search) (tree : Tree) :
    List Path → Except ScanError (List Path) → Prop
  | done : WalksAll search tree [] (.ok [])
  | skip {directory : Path} {rest : List Path} {outcome : Except ScanError (List Path)}
      (none : tree.folder? directory = none) (behind : WalksAll search tree rest outcome) :
      WalksAll search tree (directory :: rest) outcome
  | walk {directory : Path} {rest below : List Path} {outcome : Except ScanError (List Path)}
      {folder : Folder} (isFolder : tree.folder? directory = some folder)
      (scan : Scans search folder (.ok below)) (behind : WalksAll search tree rest outcome) :
      WalksAll search tree (directory :: rest) (outcome.map (below ++ ·))
  | stopped {directory : Path} {rest : List Path} {error : ScanError} {folder : Folder}
      (isFolder : tree.folder? directory = some folder)
      (scan : Scans search folder (.error error)) :
      WalksAll search tree (directory :: rest) (.error error)

/-- An outcome accounts for what is there to meet: it has found exactly that, or it is an error
among it. -/
def AccountsFor (there : Except ScanError Path → Prop) : Except ScanError (List Path) → Prop
  | .ok found => ∀ item, there item ↔ ∃ path ∈ found, item = .ok path
  | .error error => there (.error error)

/-- What is found first, and what is found behind, is found together. -/
theorem AccountsFor.append {first behind there : Except ScanError Path → Prop}
    {found : List Path} (ofFirst : ∀ item, first item ↔ ∃ path ∈ found, item = .ok path)
    (ofBehind : AccountsFor behind outcome) (both : ∀ item, there item ↔ first item ∨ behind item) :
    AccountsFor there (outcome.map (found ++ ·)) := by
  cases outcome with
  | error error => exact (both _).mpr (Or.inr ofBehind)
  | ok others =>
      intro item
      rw [both, ofFirst, ofBehind item]
      simp only [List.mem_append, or_and_right, exists_or]

/-- A walk accounts for all that a search meets in a directory. -/
theorem Walks.accountsFor (walk : Walks search folder outcome)
    (lists : folder.access.listing = none) :
    AccountsFor (search.Meets Access.Shows folder) outcome := by
  induction walk with
  | done =>
      intro item
      simp [not_meets_nil lists]
  | file isFile behind ih =>
      exact .append (fun item => meetsAt_iff_of_takenForFile isFile) (ih lists)
        fun item => meets_cons_iff lists
  | directory shows innerLists inside behind insideIh ih =>
      exact .append (insideIh innerLists) (ih lists) fun item => by
        rw [meets_cons_iff lists, meetsAt_directory_iff shows]
  | refused shows refused =>
      refine (meets_cons_iff lists).mpr (Or.inl ((meetsAt_directory_iff shows).mpr ?_))
      exact .refusal refused
  | stopped shows innerLists inside ih =>
      exact (meets_cons_iff lists).mpr (Or.inl ((meetsAt_directory_iff shows).mpr
        (ih innerLists)))
  | @reordered path access entries others outcome order walk ih =>
      have same : search.Meets Access.Shows ⟨path, access, entries⟩ =
          search.Meets Access.Shows ⟨path, access, others⟩ := by
        funext item
        rw [eq_iff_iff, meets_iff lists, meets_iff lists]
        simp only [order.mem_iff]
      rw [same]
      exact ih lists

theorem Scans.accountsFor (scan : Scans search folder outcome) :
    AccountsFor (search.Meets Access.Shows folder) outcome := by
  cases scan with
  | refused refused => exact .refusal refused
  | walk lists walk => exact walk.accountsFor lists

/-- A walk accounts for all that a search meets below search paths. -/
theorem WalksAll.accountsFor {tree : Tree} {paths : List Path}
    (walk : WalksAll search tree paths outcome) :
    AccountsFor (search.MeetsBelow Access.Shows tree paths) outcome := by
  induction walk with
  | done =>
      intro item
      simp [MeetsBelow]
  | @skip directory rest outcome none behind ih =>
      have same : search.MeetsBelow Access.Shows tree (directory :: rest) =
          search.MeetsBelow Access.Shows tree rest := by
        funext item
        simp [MeetsBelow, none]
      rw [same]
      exact ih
  | walk isFolder scan behind ih =>
      exact .append scan.accountsFor ih fun item => by simp [MeetsBelow, isFolder]
  | stopped isFolder scan =>
      exact ⟨_, List.mem_cons_self, _, isFolder, scan.accountsFor⟩

/-! ## The listing is a walk -/

mutual

theorem walks_filesAt (search : Search) (path : Path) (access : Access) (name : Name)
    (entry : Entry) {rest : List (Name × Entry)} {outcome : Except ScanError (List Path)}
    (behind : Walks search ⟨path, access, rest⟩ outcome) :
    Walks search ⟨path, access, (name, entry) :: rest⟩
      ((search.filesAt path access name entry).bind fun first => outcome.map (first ++ ·)) := by
  cases entry with
  | file content => exact .file nofun behind
  | broken failure => exact .file nofun behind
  | directory inner entries =>
      rw [filesAt]
      split
      · rename_i shows
        split
        · rename_i failure refused
          exact .refused shows refused
        · rename_i lists
          have inside := walks_filesAmong search (path.join name) inner entries
          cases found : search.filesAmong (path.join name) inner entries with
          | error error => exact .stopped shows lists (found ▸ inside)
          | ok below => exact .directory shows lists (found ▸ inside) behind
      · rename_i hidden
        exact .file (fun _ _ _ => hidden) behind

theorem walks_filesAmong (search : Search) (path : Path) (access : Access)
    (entries : List (Name × Entry)) :
    Walks search ⟨path, access, entries⟩ (search.filesAmong path access entries) := by
  cases entries with
  | nil => exact .done
  | cons head rest =>
      obtain ⟨name, entry⟩ := head
      exact walks_filesAt search path access name entry
        (walks_filesAmong search path access rest)

end

theorem scans_filesIn (search : Search) (folder : Folder) :
    Scans search folder (search.filesIn folder) := by
  unfold filesIn
  split
  · rename_i failure refused
    exact .refused refused
  · rename_i lists
    exact .walk lists (walks_filesAmong search _ _ _)

theorem walksAll_filesBelow (search : Search) (tree : Tree) (paths : List Path) :
    WalksAll search tree paths ((paths.mapM (search.filesBelow tree)).map List.flatten) := by
  induction paths with
  | nil => exact .done
  | cons directory rest ih =>
      have behind : ∀ below, ((rest.mapM (search.filesBelow tree)).map List.flatten).map
          (below ++ ·) = (do
            let others ← rest.mapM (search.filesBelow tree)
            return below :: others : Except ScanError (List (List Path))).map List.flatten := by
        intro below
        cases rest.mapM (search.filesBelow tree) <;> rfl
      rw [List.mapM_cons]
      cases isFolder : tree.folder? directory with
      | none =>
          rw [filesBelow, isFolder, ok_bind, ← behind]
          have same : ((rest.mapM (search.filesBelow tree)).map List.flatten).map ([] ++ ·) =
              (rest.mapM (search.filesBelow tree)).map List.flatten := by
            cases rest.mapM (search.filesBelow tree) <;> rfl
          rw [same]
          exact .skip isFolder ih
      | some folder =>
          rw [filesBelow, isFolder]
          dsimp only
          have scan := search.scans_filesIn folder
          cases found : search.filesIn folder with
          | error error => exact .stopped isFolder (found ▸ scan)
          | ok below =>
              rw [ok_bind, ← behind]
              exact .walk isFolder (found ▸ scan) ih

/-! ## The mapping files -/

/-- Two listings agree: both fail, or both list the same paths, up to their spelling. -/
def ListAlike : Except ScanError (List Path) → Except ScanError (List Path) → Prop
  | .ok left, .ok right => left.map Path.components = right.map Path.components
  | .error _, .error _ => True
  | _, _ => False

variable {tree : Tree}

/-- What accounts for all mapping files, in order and without repetition. -/
def InOrder (search : Search) (tree : Tree) (outcome : Except ScanError (List Path)) : Prop :=
  (∀ files, outcome = .ok files → Path.Increasing files ∧
    (∀ path, Path.Contains files path ↔ search.Locates Access.Shows tree path) ∧
    ∀ error, ¬ search.MeetsBelow Access.Shows tree search.paths (.error error)) ∧
  ∀ error, outcome = .error error →
    search.MeetsBelow Access.Shows tree search.paths (.error error)

theorem inOrder_of_walksAll (walk : WalksAll search tree search.paths outcome) :
    search.InOrder tree (outcome.map fun found => Path.dropRepeats (Path.sort found)) := by
  have accounts := walk.accountsFor
  cases outcome with
  | error error =>
      refine ⟨nofun, fun other same => ?_⟩
      cases same
      exact accounts
  | ok found =>
      refine ⟨fun files same => ?_, nofun⟩
      cases same
      refine ⟨Path.increasing_dropRepeats_sort _, fun path => ?_, fun error met => ?_⟩
      · rw [Path.contains_dropRepeats_sort_iff]
        have member : ∀ file, search.MeetsBelow Access.Shows tree search.paths (.ok file) ↔
            file ∈ found := fun file => by simp [accounts (.ok file)]
        simp only [Locates, member, Path.Contains]
      · obtain ⟨path, -, isPath⟩ := (accounts (.error error)).mp met
        cases isPath

theorem inOrder_files (search : Search) (tree : Tree) :
    search.InOrder tree (search.files tree) := by
  have inOrder := inOrder_of_walksAll (walksAll_filesBelow search tree search.paths)
  cases found : search.paths.mapM (search.filesBelow tree) with
  | error error =>
      rw [found] at inOrder
      rw [files, found]
      exact inOrder
  | ok all =>
      rw [found] at inOrder
      rw [files, found]
      exact inOrder

theorem increasing_files {files : List Path} (listed : search.files tree = .ok files) :
    Path.Increasing files :=
  ((search.inOrder_files tree).1 files listed).1

/-- What is met depends on the search paths only up to their order and repetition. -/
theorem meetsBelow_congr {other : Search} (sameExtension : other.extension = search.extension)
    {paths : List Path} (same : ∀ path, path ∈ other.paths ↔ path ∈ paths) :
    other.MeetsBelow Seen tree other.paths item ↔ search.MeetsBelow Seen tree paths item := by
  have meets : ∀ {left right : Search} {folder : Folder}, left.extension = right.extension →
      left.Meets Seen folder item → right.Meets Seen folder item := by
    intro left right folder extension met
    induction met with
    | file among lists isFile accepted =>
        rw [accepts, extension] at accepted
        exact .file among lists isFile accepted
    | refusal refused => exact .refusal refused
    | inside among lists seen further ih => exact .inside among lists seen ih
  simp only [MeetsBelow, same]
  constructor
  · rintro ⟨directory, member, folder, isFolder, met⟩
    exact ⟨directory, member, folder, isFolder, meets sameExtension met⟩
  · rintro ⟨directory, member, folder, isFolder, met⟩
    exact ⟨directory, member, folder, isFolder, meets sameExtension.symm met⟩

theorem inOrder_congr {other : Search} (sameExtension : other.extension = search.extension)
    (same : ∀ path, path ∈ other.paths ↔ path ∈ search.paths) :
    other.InOrder tree outcome ↔ search.InOrder tree outcome := by
  simp only [InOrder, Locates, meetsBelow_congr sameExtension same]

/-- All that accounts for the mapping files agrees. -/
theorem InOrder.alike {left right : Except ScanError (List Path)}
    (ofLeft : search.InOrder tree left) (ofRight : search.InOrder tree right) :
    ListAlike left right := by
  cases left with
  | error leftError =>
      cases right with
      | error rightError => trivial
      | ok rightFiles => exact (ofRight.1 _ rfl).2.2 leftError (ofLeft.2 _ rfl)
  | ok leftFiles =>
      cases right with
      | error rightError => exact (ofLeft.1 _ rfl).2.2 rightError (ofRight.2 _ rfl)
      | ok rightFiles =>
          obtain ⟨leftIncreasing, inLeft, -⟩ := ofLeft.1 _ rfl
          obtain ⟨rightIncreasing, inRight, -⟩ := ofRight.1 _ rfl
          exact leftIncreasing.components_eq rightIncreasing fun path =>
            (inLeft path).trans (inRight path).symm

/-- If no directory on the walk refuses to be listed, the mapping files come in the order of
paths, each once.  They are those that search paths which lead to directories are joined to by
names that lead down to files, or to directories that are not seen to be such, whose own name has
the extension; up to equality of paths.  Otherwise the listing fails with the error of such a
directory.  Listings agree for every walk through the search paths, in whatever order directories
are enumerated, and for all search paths that are the same up to order and repetition. -/
theorem files_of_any_walk (search : Search) (tree : Tree) :
    (∀ files, search.files tree = .ok files → Path.Increasing files ∧
      ∀ path, Path.Contains files path ↔ search.Locates Access.Shows tree path) ∧
    ((∃ error, search.files tree = .error error) ↔
      ∃ error, search.MeetsBelow Access.Shows tree search.paths (.error error)) ∧
    (∀ error, search.files tree = .error error →
      search.MeetsBelow Access.Shows tree search.paths (.error error)) ∧
    (∀ outcome, WalksAll search tree search.paths outcome →
      ListAlike (outcome.map fun found => Path.dropRepeats (Path.sort found))
        (search.files tree)) ∧
    ∀ paths : List Path, (∀ path, path ∈ paths ↔ path ∈ search.paths) →
      ListAlike ((Search.mk paths search.extension).files tree) (search.files tree) := by
  obtain ⟨ofFiles, ofError⟩ := search.inOrder_files tree
  refine ⟨fun files listed => ?_, ⟨fun ⟨error, fails⟩ => ⟨error, ofError error fails⟩, ?_⟩,
    ofError, fun outcome walk => ?_, fun paths same => ?_⟩
  · obtain ⟨increasing, located, -⟩ := ofFiles files listed
    exact ⟨increasing, located⟩
  · rintro ⟨error, met⟩
    cases listed : search.files tree with
    | error other => exact ⟨other, rfl⟩
    | ok files => exact absurd met ((ofFiles files listed).2.2 error)
  · exact (inOrder_of_walksAll walk).alike ⟨ofFiles, ofError⟩
  · have congr : (Search.mk paths search.extension).InOrder tree
          ((Search.mk paths search.extension).files tree) ↔
        search.InOrder tree ((Search.mk paths search.extension).files tree) :=
      inOrder_congr rfl same
    exact (congr.mp (inOrder_files _ tree)).alike ⟨ofFiles, ofError⟩

/-! ## Two files in one directory -/

/-- A directory with two mapping files. -/
def pairTree : Tree :=
  ⟨.directory .free [(utf8 "m", .directory .free [(utf8 "A.dcm.graphqls", .file (.ok "")),
    (utf8 "B.dcm.graphqls", .file (.ok ""))])], []⟩

/-- The search in this directory, which is named twice. -/
def pairSearch : Search := ⟨[.ofText "m", .ofText "m"], ".dcm.graphqls"⟩

theorem walks_of_accepted {content : Except ReadFailure String} {found : List Path}
    (accepted : search.accepts name = true)
    (behind : Walks search ⟨path, access, rest⟩ (.ok found)) :
    Walks search ⟨path, access, (name, .file content) :: rest⟩ (.ok (path.join name :: found)) := by
  have isFile : (Entry.file content).TakenForFile Access.Shows access (path.join name) := nofun
  have walk := Walks.file isFile behind
  rwa [asFile, if_pos accepted] at walk

/-- Enumerated backwards the first time. -/
theorem walksAll_pairTree :
    WalksAll pairSearch pairTree pairSearch.paths
      (.ok [.ofText "m/B.dcm.graphqls", .ofText "m/A.dcm.graphqls", .ofText "m/A.dcm.graphqls",
        .ofText "m/B.dcm.graphqls"]) := by
  have acceptsA := pairSearch.accepts_utf8_append "A"
  have acceptsB := pairSearch.accepts_utf8_append "B"
  have forwards : Walks pairSearch ⟨.ofText "m", .free, [(utf8 "A.dcm.graphqls", .file (.ok "")),
      (utf8 "B.dcm.graphqls", .file (.ok ""))]⟩
        (.ok [.ofText "m/A.dcm.graphqls", .ofText "m/B.dcm.graphqls"]) :=
    walks_of_accepted acceptsA (walks_of_accepted acceptsB .done)
  have backwards : Walks pairSearch ⟨.ofText "m", .free, [(utf8 "A.dcm.graphqls", .file (.ok "")),
      (utf8 "B.dcm.graphqls", .file (.ok ""))]⟩
        (.ok [.ofText "m/B.dcm.graphqls", .ofText "m/A.dcm.graphqls"]) :=
    .reordered (.swap _ _ _) (walks_of_accepted acceptsB (walks_of_accepted acceptsA .done))
  exact .walk rfl (.walk rfl backwards) (.walk rfl (.walk rfl forwards) .done)

theorem files_pairTree :
    Path.Increasing [.ofText "m/A.dcm.graphqls", .ofText "m/B.dcm.graphqls"] ∧
    ListAlike (.ok (Path.dropRepeats (Path.sort [.ofText "m/B.dcm.graphqls",
        .ofText "m/A.dcm.graphqls", .ofText "m/A.dcm.graphqls", .ofText "m/B.dcm.graphqls"])))
      (pairSearch.files pairTree) ∧
    ListAlike ((Search.mk [.ofText "m"] ".dcm.graphqls").files pairTree)
      (pairSearch.files pairTree) := by
  have listed : pairSearch.files pairTree =
      .ok [.ofText "m/A.dcm.graphqls", .ofText "m/B.dcm.graphqls"] := by
    cbv
  obtain ⟨ofFiles, -, -, ofWalk, ofPaths⟩ := files_of_any_walk pairSearch pairTree
  exact ⟨(ofFiles _ listed).1, ofWalk _ walksAll_pairTree,
    ofPaths [.ofText "m"] (by simp [pairSearch])⟩

/-! ## What is listed otherwise -/

/-- A directory that is named like a mapping file, with a mapping file in it. -/
def nestedEntries : List (Name × Entry) :=
  [(utf8 "A.dcm.graphqls", .directory .free [(utf8 "B.dcm.graphqls", .file (.ok ""))])]

/-- A directory with such entries. -/
def nestedTree (access : Access) : Tree :=
  ⟨.directory .free [(utf8 "m", .directory access nestedEntries)], []⟩

/-- A directory is listed like a mapping file, and the mapping file in it is not. -/
def ListsDirectory (search : Search) (tree : Tree) (outer inner : Path) : Prop :=
  ∃ files, search.files tree = .ok files ∧
    (Path.Contains files outer ∧ ¬ search.Locates (fun _ _ => True) tree outer) ∧
    search.Locates (fun _ _ => True) tree inner ∧ ¬ Path.Contains files inner

section Nested

variable {directory : Path} {access : Access}
  (isFolder : (nestedTree access).folder? directory = some ⟨directory, access, nestedEntries⟩)
include isFolder

/-- The directory in there is listed itself, if it is not seen to be one. -/
theorem files_nestedTree (lists : access.listing = none)
    (hidden : ¬ access.Shows (directory.join (utf8 "A.dcm.graphqls"))) :
    (Search.mk [directory] ".dcm.graphqls").files (nestedTree access) =
      .ok [directory.join (utf8 "A.dcm.graphqls")] := by
  have accepted : (Search.mk [directory] ".dcm.graphqls").accepts (utf8 "A.dcm.graphqls") =
      true := accepts_utf8_append _ "A"
  have found : (Search.mk [directory] ".dcm.graphqls").filesBelow (nestedTree access) directory =
      .ok [directory.join (utf8 "A.dcm.graphqls")] := by
    rw [filesBelow, isFolder]
    simp only [filesIn, lists, nestedEntries, filesAmong, filesAt, if_neg hidden, asFile,
      if_pos accepted]
    rfl
  rw [files_of_filesBelow found, Path.sort, List.mergeSort_singleton]
  rfl

/-- The one mapping file is that in the inner directory, if all directories are seen as such. -/
theorem locates_nestedTree_iff (lists : access.listing = none) {path : Path} :
    (Search.mk [directory] ".dcm.graphqls").Locates (fun _ _ => True) (nestedTree access) path ↔
      ((directory.join (utf8 "A.dcm.graphqls")).join (utf8 "B.dcm.graphqls")).same path =
        true := by
  have inner : ∀ file, (Search.mk [directory] ".dcm.graphqls").MeetsBelow (fun _ _ => True)
      (nestedTree access) [directory] (.ok file) ↔
        (directory.join (utf8 "A.dcm.graphqls")).join (utf8 "B.dcm.graphqls") = file := by
    intro file
    have isFile : (Entry.file (.ok "")).TakenForFile (fun _ _ => True) .free
        ((directory.join (utf8 "A.dcm.graphqls")).join (utf8 "B.dcm.graphqls")) := nofun
    have free : Access.free.listing = none := rfl
    have accepted : (Search.mk [directory] ".dcm.graphqls").accepts (utf8 "B.dcm.graphqls") =
        true := accepts_utf8_append _ "B"
    simp only [MeetsBelow, List.mem_singleton, exists_eq_left, isFolder, Option.some.injEq]
    rw [exists_eq_left', nestedEntries, meets_cons_iff lists, meetsAt_directory_iff trivial,
      meets_cons_iff free, meetsAt_iff_of_takenForFile isFile, asFile, if_pos accepted]
    simp [not_meets_nil lists, not_meets_nil free, eq_comm]
  simp only [Locates, inner, exists_eq_left']

theorem listsDirectory_nestedTree (nonempty : directory.bytes ≠ [])
    (lists : access.listing = none)
    (hidden : ¬ access.Shows (directory.join (utf8 "A.dcm.graphqls"))) :
    (Search.mk [directory] ".dcm.graphqls").ListsDirectory (nestedTree access)
      (directory.join (utf8 "A.dcm.graphqls"))
      ((directory.join (utf8 "A.dcm.graphqls")).join (utf8 "B.dcm.graphqls")) := by
  have isName : (Path.mk (utf8 "A.dcm.graphqls")).isAbsolute = false := by decide
  have outerNonempty : (directory.join (utf8 "A.dcm.graphqls")).bytes ≠ [] := by
    obtain ⟨behind, bytes⟩ := Path.bytes_prefix_join nonempty isName
    rw [← bytes]
    exact List.append_ne_nil_of_left_ne_nil nonempty behind
  have longer : ((directory.join (utf8 "A.dcm.graphqls")).join (utf8 "B.dcm.graphqls")).components =
      (directory.join (utf8 "A.dcm.graphqls")).components ++
        [.normal (utf8 "B.dcm.graphqls")] := by
    rw [Path.components_join outerNonempty (by decide)]
    exact congrArg _ (by decide)
  refine ⟨_, files_nestedTree isFolder lists hidden,
    ⟨⟨_, List.mem_cons_self, Path.same_refl _⟩, fun located => ?_⟩,
    (locates_nestedTree_iff isFolder lists).mpr (Path.same_refl _), ?_⟩
  · have same := (locates_nestedTree_iff isFolder lists).mp located
    rw [Path.same, longer, beq_iff_eq] at same
    simp at same
  · rintro ⟨listed, member, same⟩
    cases List.mem_singleton.mp member
    rw [Path.same, longer, beq_iff_eq] at same
    simp at same

end Nested

/-- With too many slashes in front of it, the directory is not seen to be one. -/
theorem listsDirectory_slashed {more : Nat} (short : 2 + more ≤ pathLimit)
    (long : pathLimit < 16 + more) :
    (Search.mk [slashed more []] ".dcm.graphqls").ListsDirectory (nestedTree .free)
      (slashed more (utf8 "A.dcm.graphqls"))
      ((slashed more (utf8 "A.dcm.graphqls")).join (utf8 "B.dcm.graphqls")) := by
  have relative : (Path.mk (utf8 "A.dcm.graphqls")).isAbsolute = false := by decide
  have ofName : (utf8 "A.dcm.graphqls").length = 14 := by decide
  have found : (nestedTree .free).find (.ofText "m") = .ok (.directory .free nestedEntries) := rfl
  have hidden : ¬ Access.free.Shows ((slashed more []).join (utf8 "A.dcm.graphqls")) := by
    rintro ⟨-, isShort⟩
    rw [join_slashed more relative, length_slashed, ofName] at isShort
    omega
  rw [← join_slashed more relative]
  exact listsDirectory_nestedTree (folder?_slashed found short) (by simp [slashed]) rfl hidden

/-- A file whose name ends with the extension, but is not a text. -/
def oddTree : Tree :=
  ⟨.directory .free [(utf8 "m", .directory .free
    [(0xFF :: utf8 ".dcm.graphqls", .file (.ok ""))])], []⟩

/-- With 4091 bytes for the search path, a directory in it is listed, while a mapping file in
that directory is not; so it is if nothing in the search directory can be reached.  A file whose
name is not a text is not listed, and nothing is if the search directory cannot be listed. -/
theorem listing_departs :
    (Search.mk [slashed 4089 []] ".dcm.graphqls").ListsDirectory (nestedTree .free)
      (slashed 4089 (utf8 "A.dcm.graphqls"))
      ((slashed 4089 (utf8 "A.dcm.graphqls")).join (utf8 "B.dcm.graphqls")) ∧
    (Search.mk [.ofText "m"] ".dcm.graphqls").ListsDirectory (nestedTree ⟨none, some .denied⟩)
      (.ofText "m/A.dcm.graphqls") (.ofText "m/A.dcm.graphqls/B.dcm.graphqls") ∧
    (Search.mk [.ofText "m"] ".dcm.graphqls").files oddTree = .ok [] ∧
    (Search.mk [.ofText "m"] ".dcm.graphqls").files (nestedTree ⟨some .denied, none⟩) =
      .error ⟨.ofText "m", .denied⟩ := by
  have odd : (Search.mk [.ofText "m"] ".dcm.graphqls").files oddTree = .ok [] := by
    have found : (Search.mk [.ofText "m"] ".dcm.graphqls").filesBelow oddTree (.ofText "m") =
        .ok [] := by
      decide
    rw [files_of_filesBelow found, Path.sort, List.mergeSort_nil]
    rfl
  have refused : (Search.mk [.ofText "m"] ".dcm.graphqls").files
      (nestedTree ⟨some .denied, none⟩) = .error ⟨.ofText "m", .denied⟩ := by
    rfl
  have hidden : ¬ (Access.mk none (some .denied)).Shows
      ((Path.ofText "m").join (utf8 "A.dcm.graphqls")) := by
    decide
  exact ⟨listsDirectory_slashed (by decide) (by decide),
    listsDirectory_nestedTree rfl (by decide) rfl hidden, odd, refused⟩

end Search

end EntityMapping.Files
