import EntityMapping.Files.Search
import EntityMapping.Proofs.Files.Below

/-!
# Which files are listed

If all files can be listed, so are those below a search path whose names end with the extension,
each once.  Main statement: a file that can be opened through a search path, and stands below
it, is listed under some path to it.
-/

namespace EntityMapping.Files

open EntityMapping.Text

/-! ## Listing -/

namespace Path

/-- Of each path that is dropped one with the same components is kept. -/
theorem exists_same_of_mem_dropRepeats {paths : List Path} {path : Path} (member : path ∈ paths) :
    ∃ kept ∈ dropRepeats paths, kept.same path = true := by
  have behind : ∀ (first : Path) (rest : List Path), path ∈ first :: rest →
      ∃ kept ∈ first :: dropRepeatsOf first rest, kept.same path = true := by
    intro first rest
    induction rest generalizing first with
    | nil =>
        intro member
        rw [List.mem_singleton.mp member]
        exact ⟨first, List.mem_cons_self, same_refl first⟩
    | cons second rest ih =>
        intro member
        rw [dropRepeatsOf]
        split
        · rename_i repeated
          rcases List.mem_cons.mp member with rfl | later
          · exact ⟨path, List.mem_cons_self, same_refl path⟩
          · rcases List.mem_cons.mp later with rfl | later
            · exact ⟨first, List.mem_cons_self, repeated⟩
            · exact ih first (List.mem_cons_of_mem first later)
        · rcases List.mem_cons.mp member with rfl | later
          · exact ⟨path, List.mem_cons_self, same_refl path⟩
          · obtain ⟨kept, isKept, same⟩ := ih second later
            exact ⟨kept, List.mem_cons_of_mem first isKept, same⟩
  cases paths with
  | nil => exact absurd member List.not_mem_nil
  | cons first rest => exact behind first rest member

end Path

namespace Search

variable {search : Search} {tree : Tree} {path : Path} {access : Access}

/-- Texts that end with the extension are names of mapping files. -/
theorem accepts_utf8_append (search : Search) (front : String) :
    search.accepts (utf8 (front ++ search.extension)) = true := by
  rw [accepts, text?_utf8, Option.any_some, List.isSuffixOf_iff_suffix, String.toList_append]
  exact List.suffix_append _ _

theorem filesAt_directory (inner : Access) (entries : List (Name × Entry)) (name : Name) :
    search.filesAt path access name (.directory inner entries) =
      if access.Shows (path.join name) then search.filesIn ⟨path.join name, inner, entries⟩
      else .ok (search.asFile path name) := rfl

theorem filesAt_file (content : Except ReadFailure String) (name : Name) :
    search.filesAt path access name (.file content) = .ok (search.asFile path name) := rfl

theorem filesIn_eq_ok_iff {folder : Folder} {files : List Path} :
    search.filesIn folder = .ok files ↔ folder.access.listing = none ∧
      search.filesAmong folder.path folder.access folder.entries = .ok files := by
  unfold filesIn
  split
  · rename_i failure refused
    simp [refused]
  · rename_i listing
    simp [listing]

/-- Among the files of a directory are those of each entry. -/
theorem exists_filesAt_of_filesAmong {entries : List (Name × Entry)} {name : Name} {entry : Entry}
    {files : List Path} (found : entries.lookup name = some entry)
    (listed : search.filesAmong path access entries = .ok files) :
    ∃ first, search.filesAt path access name entry = .ok first ∧ first ⊆ files := by
  induction entries generalizing files with
  | nil => cases found
  | cons head rest ih =>
      obtain ⟨other, inner⟩ := head
      rw [filesAmong] at listed
      obtain ⟨first, ofFirst, listed⟩ := bind_eq_ok_iff.mp listed
      obtain ⟨others, ofOthers, listed⟩ := bind_eq_ok_iff.mp listed
      cases listed
      rw [List.lookup_cons] at found
      cases same : name == other with
      | true =>
          rw [same] at found
          cases found
          rw [beq_iff_eq.mp same]
          exact ⟨first, ofFirst, List.subset_append_left _ _⟩
      | false =>
          rw [same] at found
          obtain ⟨ofEntry, isListed, among⟩ := ih found ofOthers
          exact ⟨ofEntry, isListed, List.subset_append_of_subset_right _ among⟩

/-- Where a directory can be listed, so can the directories below it that are seen as such, and
among its files are theirs. -/
theorem exists_filesIn_below {top : Entry} {directory : Path} {names inner : List Name}
    {place innerPlace : Place} {innerAccess : Access} {entries innerEntries : List (Name × Entry)}
    {files : List Path} (stands : Place.StandsAt top names place)
    (isDirectory : place.here = .directory access entries)
    (standsInner : Place.StandsAt top (inner ++ names) innerPlace)
    (isInner : innerPlace.here = .directory innerAccess innerEntries)
    (shown : ∀ name outer, name :: outer <:+ inner → ∀ through passed others,
      Place.StandsAt top (outer ++ names) through → through.here = .directory passed others →
        passed.Shows (directory.below (name :: outer)))
    (listed : search.filesIn ⟨directory, access, entries⟩ = .ok files) :
    ∃ innerFiles, search.filesIn ⟨directory.below inner, innerAccess, innerEntries⟩ =
      .ok innerFiles ∧ innerFiles ⊆ files := by
  induction inner generalizing innerPlace innerAccess innerEntries with
  | nil =>
      rw [← standsInner.unique stands, isInner] at isDirectory
      cases isDirectory
      exact ⟨files, listed, List.Subset.refl _⟩
  | cons name inner ih =>
      cases standsInner with
      | inner outer found =>
          obtain ⟨passed, others, entry, isOuter, isEntry, rfl⟩ :=
            Place.inner?_eq_some_iff.mp found
          obtain rfl : entry = .directory innerAccess innerEntries := isInner
          obtain ⟨outerFiles, outerListed, among⟩ := ih outer isOuter fun name outer isSuffix =>
            shown name outer (isSuffix.trans (List.suffix_cons _ inner))
          obtain ⟨-, outerListed⟩ := filesIn_eq_ok_iff.mp outerListed
          obtain ⟨innerFiles, innerListed, amongOuter⟩ :=
            exists_filesAt_of_filesAmong isEntry outerListed
          have shows := shown name inner List.suffix_rfl _ passed others outer isOuter
          rw [Path.below_cons] at shows ⊢
          rw [filesAt_directory, if_pos shows] at innerListed
          exact ⟨innerFiles, innerListed, List.Subset.trans amongOuter among⟩

end Search

/-! ## Files below a directory -/

namespace Tree

variable {tree : Tree} {path directory : Path} {way : Name}

/-- A file stands below a directory: a way leads there from the directory, and from the top
it stands below the names of the directory. -/
structure StandsBelow (tree : Tree) (directory path : Path) : Prop where
  nonempty : directory.bytes ≠ []
  opened : ∃ way, (Path.mk way).isAbsolute = false ∧
    tree.isFile (directory.join way) = true ∧
    tree.names (directory.join way) = tree.names path
  below : tree.names directory <+: tree.names path

/-- A file that a way without steps up leads to stands below the directory. -/
theorem standsBelow_join (nonempty : directory.bytes ≠ [])
    (relative : (Path.mk way).isAbsolute = false)
    (isFile : tree.isFile (directory.join way) = true) (neverUp : twoDots ∉ (Path.mk way).pieces) :
    tree.StandsBelow directory (directory.join way) := by
  obtain ⟨inner, dropped, leads, -, -, stays⟩ := tree.exists_reverse_names_join nonempty relative
  rw [stays neverUp, List.drop_zero] at leads
  exact ⟨nonempty, ⟨way, relative, isFile, rfl⟩, List.reverse_suffix.mp ⟨inner, leads.symm⟩⟩

/-- What a file can be opened through is a directory, and from there the way to the file goes
on. -/
theorem exists_folder_of_isFile_join (nonempty : directory.bytes ≠ [])
    (relative : (Path.mk way).isAbsolute = false)
    (isFile : tree.isFile (directory.join way) = true) :
    ∃ place access entries last, Place.StandsAt tree.top (tree.names directory).reverse place ∧
      place.here = .directory access entries ∧
      tree.folder? directory = some ⟨directory, access, entries⟩ ∧
      (Path.mk way).pieces.foldlM Place.step place = .ok last := by
  obtain ⟨content, found⟩ := isFile_eq_true_iff.mp isFile
  obtain ⟨accepted, -, start, last, starts, leads, -⟩ := find_eq_ok_iff.mp found
  obtain ⟨front, ofDirectory, pieces⟩ := Path.exists_pieces_join nonempty
  rw [pieces way relative, List.foldlM_append] at leads
  obtain ⟨place, leadsFront, leadsWay⟩ := bind_eq_ok_iff.mp leads
  obtain ⟨first, rest, split⟩ := List.exists_cons_of_ne_nil (splitSlashes_ne_nil way)
  have firstStep : (first :: rest).foldlM Place.step place = .ok last := split ▸ leadsWay
  rw [List.foldlM_cons] at firstStep
  obtain ⟨next, stepped, -⟩ := bind_eq_ok_iff.mp firstStep
  obtain ⟨access, entries, isDirectory, -⟩ := Place.step_cases stepped
  have startsDirectory : tree.start? directory = some start := by
    rw [← starts, start?, start?, Path.isAbsolute_join nonempty relative]
  have leadsDirectory : directory.pieces.foldlM Place.step start = .ok place := by
    rcases ofDirectory with same | slashed
    · rw [same]
      exact leadsFront
    · rw [slashed, List.foldlM_append, leadsFront, ok_bind, List.foldlM_cons, Place.step,
        isDirectory]
      rfl
  have acceptedDirectory : directory.Accepted := by
    obtain ⟨behind, bytes⟩ := Path.bytes_prefix_join nonempty relative
    constructor
    case whole =>
      have whole := accepted.whole
      rw [Path.isCutShort, ← bytes] at whole
      simp only [List.contains_eq_mem, List.mem_append, decide_eq_false_iff_not, not_or] at whole
      simpa [Path.isCutShort] using whole.1
    case nonempty => exact nonempty
    case short =>
      have short := accepted.short
      rw [← bytes, List.length_append] at short
      omega
  have foundDirectory : tree.find directory = .ok (.directory access entries) :=
    find_eq_ok_iff.mpr
      ⟨acceptedDirectory, nofun, start, place, startsDirectory, leadsDirectory, isDirectory⟩
  refine ⟨place, access, entries, last, ?_, isDirectory, ?_, leadsWay⟩
  · rw [reverse_names]
    exact (stands_of_start? startsDirectory).way leadsDirectory
  · rw [folder?, foundDirectory]

/-- The directories straight down from a directory to the end of a way from there are seen as
such. -/
theorem shows_of_way {inner : List Name} {place last : Place} (nonempty : directory.bytes ≠ [])
    (relative : (Path.mk way).isAbsolute = false)
    (stands : Place.StandsAt tree.top (tree.names directory).reverse place)
    (leads : (Path.mk way).pieces.foldlM Place.step place = .ok last)
    (accepted : (directory.join way).Accepted)
    (names : (tree.names (directory.join way)).reverse = inner ++ (tree.names directory).reverse)
    (onWay : inner.Sublist (Path.mk way).pieces.reverse) (areNames : ∀ name ∈ inner, IsName name)
    (name : Name) (outer : List Name) (isSuffix : name :: outer <:+ inner) (through : Place)
    (access : Access) (entries : List (Name × Entry))
    (there : Place.StandsAt tree.top (outer ++ (tree.names directory).reverse) through)
    (isDirectory : through.here = .directory access entries) :
    access.Shows (directory.below (name :: outer)) := by
  have onPath : name :: (outer ++ (tree.names directory).reverse) <:+
      ((Path.mk way).pieces.filterMap Component.ofPiece?).foldl Component.descend
        (tree.names directory).reverse := by
    rw [← tree.reverse_names_join nonempty relative, names]
    obtain ⟨front, split⟩ := isSuffix
    exact ⟨front, by rw [← split, List.append_assoc, List.cons_append]⟩
  have notBefore : ¬ name :: (outer ++ (tree.names directory).reverse) <:+
      (tree.names directory).reverse := by
    intro before
    have shorter := before.length_le
    simp only [List.length_cons, List.length_append] at shorter
    omega
  have atMost := Path.length_below_le nonempty (List.cons_ne_nil name outer)
    (fun name member => areNames name (isSuffix.subset member)) relative
    (isSuffix.sublist.trans onWay)
  exact ⟨stands.passing leads onPath notBefore there isDirectory, atMost.trans accepted.short⟩

end Tree

namespace Search

variable {search : Search} {tree : Tree} {path directory : Path} {files : List Path}

/-- With one search path the files are what is found below it. -/
theorem files_of_filesBelow {extension : String} {found : List Path}
    (below : (Search.mk [directory] extension).filesBelow tree directory = .ok found) :
    (Search.mk [directory] extension).files tree = .ok (Path.dropRepeats (Path.sort found)) := by
  rw [files, List.mapM_cons, below, List.mapM_nil, ok_bind]
  change Except.ok (Path.dropRepeats (Path.sort [found].flatten)) = _
  rw [List.flatten_singleton]

/-- What is found below a search path is among the files, in some spelling. -/
theorem exists_mem_files (listed : search.files tree = .ok files)
    (member : directory ∈ search.paths) :
    ∃ found, search.filesBelow tree directory = .ok found ∧
      ∀ file ∈ found, ∃ kept ∈ files, kept.same file = true := by
  obtain ⟨all, each, rfl⟩ := map_eq_ok_iff.mp listed
  obtain ⟨found, among, isFound⟩ := exists_mem_of_mapM_eq_ok each directory member
  refine ⟨found, isFound, fun file isFile => Path.exists_same_of_mem_dropRepeats ?_⟩
  exact List.mem_mergeSort.mpr (List.mem_flatten.mpr ⟨found, among, isFile⟩)

/-- What stands below a search path and has the extension is listed, under a path to the same
place. -/
theorem exists_mem_files_of_standsBelow (isFile : tree.isFile path = true)
    (accepted : ∀ piece ∈ path.pieces.getLast?, search.accepts piece = true)
    (member : directory ∈ search.paths) (stands : tree.StandsBelow directory path)
    (listed : search.files tree = .ok files) :
    ∃ other ∈ files, tree.names other = tree.names path := by
  obtain ⟨way, relative, wayFile, sameNames⟩ := stands.opened
  obtain ⟨place, access, entries, last, standsPlace, isDirectory, opened, leads⟩ :=
    Tree.exists_folder_of_isFile_join stands.nonempty relative wayFile
  have below : tree.names directory <+: tree.names (directory.join way) :=
    sameNames ▸ stands.below
  obtain ⟨inner, names, onWay, areNames⟩ :=
    Tree.exists_inner_names_join stands.nonempty relative below
  -- the file in the innermost of the directories from the search path down
  obtain ⟨wayContent, wayFound⟩ := Tree.isFile_eq_true_iff.mp wayFile
  obtain ⟨content, found⟩ := Tree.isFile_eq_true_iff.mp isFile
  obtain ⟨filePlace, standsFile, isContent⟩ := Tree.stands_of_find found
  obtain ⟨piece, outermost, isLast, -, isName⟩ := Tree.exists_last_name found
  have namesPath : (tree.names path).reverse = inner ++ (tree.names directory).reverse := by
    rw [← sameNames, names]
  rw [namesPath] at standsFile isName
  cases inner with
  | nil =>
      rw [← standsPlace.unique standsFile, isDirectory] at isContent
      cases isContent
  | cons name outer =>
      obtain ⟨rfl, -⟩ := List.cons.inj isName
      cases standsFile with
      | inner standsOuter isEntry =>
          obtain ⟨outerAccess, outerEntries, entry, isOuter, isFound, rfl⟩ :=
            Place.inner?_eq_some_iff.mp isEntry
          obtain rfl : entry = .file content := isContent
          have shown := Tree.shows_of_way stands.nonempty relative standsPlace leads
            (Tree.find_eq_ok_iff.mp wayFound).1 names onWay areNames
          obtain ⟨below, isBelow, kept⟩ := exists_mem_files listed member
          rw [filesBelow, opened] at isBelow
          obtain ⟨outerFiles, outerListed, amongBelow⟩ := exists_filesIn_below standsPlace
            isDirectory standsOuter isOuter (fun inmost others isSuffix =>
              shown inmost others (isSuffix.trans (List.suffix_cons name outer))) isBelow
          obtain ⟨-, outerListed⟩ := filesIn_eq_ok_iff.mp outerListed
          obtain ⟨first, isFirst, amongOuter⟩ := exists_filesAt_of_filesAmong isFound outerListed
          rw [filesAt_file, asFile, if_pos (accepted name isLast)] at isFirst
          cases isFirst
          obtain ⟨other, isListed, same⟩ :=
            kept _ (amongBelow (amongOuter List.mem_cons_self))
          refine ⟨other, isListed, ?_⟩
          rw [Tree.names_of_same same, ← List.reverse_inj, namesPath]
          exact Path.reverse_names_below tree stands.nonempty areNames

end Search

end EntityMapping.Files
