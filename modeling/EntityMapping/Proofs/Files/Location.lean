import EntityMapping.Files.Classes
import EntityMapping.Proofs.Files.Spelling
import EntityMapping.Proofs.Outcome

/-!
# Where a path leads

A path is a way through the tree: names lead down, and two dots lead up again.  Two ways that
end below the same names from the top end at the same entry, so the names tell where a file
stands, whatever way leads there.
-/

namespace EntityMapping.Files

/-! ## Steps on a way -/

namespace Place

variable {place next : Place} {piece name : Name} {names : List Name} {top : Entry}

theorem inner?_eq_some_iff :
    place.inner? name = some next ↔ ∃ access entries inner,
      place.here = .directory access entries ∧ entries.lookup name = some inner ∧
      next = ⟨inner, place.here :: place.above⟩ := by
  obtain ⟨here, above⟩ := place
  cases here with
  | directory access entries =>
      simp only [inner?, Option.map_eq_some_iff, Entry.directory.injEq]
      grind
  | file content => simp [inner?]
  | broken failure => simp [inner?]

/-- A piece of a path leads nowhere, up, or down.  Unless it is empty, the directory lets it
pass. -/
theorem step_cases (stepped : place.step piece = .ok next) :
    ∃ access entries, place.here = .directory access entries ∧
      (piece = [] ∧ next = place ∨
        access.passing = none ∧
          (piece = oneDot ∧ next = place ∨ piece = twoDots ∧ next = place.upper ∨
            Component.ofPiece? piece = some (.normal piece) ∧
              place.inner? piece = some next)) := by
  unfold step at stepped
  split at stepped
  · cases stepped
  · cases stepped
  · rename_i access entries isDirectory
    refine ⟨access, entries, isDirectory, ?_⟩
    split at stepped
    · rename_i isEmpty
      cases stepped
      exact Or.inl ⟨isEmpty, rfl⟩
    · rename_i notEmpty
      split at stepped
      · cases stepped
      · rename_i passes
        refine Or.inr ⟨passes, ?_⟩
        split at stepped
        · rename_i isDot
          cases stepped
          exact Or.inl ⟨isDot, rfl⟩
        · rename_i notDot
          split at stepped
          · rename_i areDots
            cases stepped
            exact Or.inr (Or.inl ⟨areDots, rfl⟩)
          · rename_i notDots
            have isNormal : Component.ofPiece? piece = some (.normal piece) := by
              rw [Component.ofPiece?, if_neg (not_or.mpr ⟨notEmpty, notDot⟩), if_neg notDots]
            split at stepped
            · cases stepped
            · split at stepped
              · rename_i inner found
                cases stepped
                exact Or.inr (Or.inr ⟨isNormal, found⟩)
              · cases stepped

/-! ## Places in a tree -/

/-- A place is found below names from the top of a tree, the innermost first. -/
inductive StandsAt (top : Entry) : List Name → Place → Prop
  | top : StandsAt top [] ⟨top, []⟩
  | inner {names : List Name} {name : Name} {place next : Place}
      (outer : StandsAt top names place) (found : place.inner? name = some next) :
      StandsAt top (name :: names) next

/-- There is one place below names. -/
theorem StandsAt.unique {left right : Place} (ofLeft : StandsAt top names left)
    (ofRight : StandsAt top names right) : left = right := by
  induction ofLeft generalizing right with
  | top =>
      cases ofRight
      rfl
  | inner outer found ih =>
      cases ofRight with
      | inner otherOuter otherFound =>
          rw [ih otherOuter, otherFound] at found
          exact (Option.some.inj found).symm

theorem StandsAt.upper (stands : StandsAt top names place) :
    StandsAt top (names.drop 1) place.upper := by
  cases stands with
  | top => exact .top
  | inner outer found =>
      obtain ⟨access, entries, inner, -, -, rfl⟩ := inner?_eq_some_iff.mp found
      exact outer

/-- A piece leads from a place below names to one below the names where its component leads. -/
theorem StandsAt.step (stands : StandsAt top names place) (stepped : place.step piece = .ok next) :
    StandsAt top ((Component.ofPiece? piece).toList.foldl Component.descend names) next := by
  obtain ⟨access, entries, -, ⟨rfl, rfl⟩ | ⟨-, ⟨rfl, rfl⟩ | ⟨rfl, rfl⟩ | ⟨isNormal, found⟩⟩⟩ :=
    step_cases stepped
  · exact stands
  · exact stands
  · exact stands.upper
  · rw [isNormal]
    exact .inner stands found

theorem filterMap_ofPiece?_cons (piece : Name) (rest : List Name) :
    (piece :: rest).filterMap Component.ofPiece? =
      (Component.ofPiece? piece).toList ++ rest.filterMap Component.ofPiece? := by
  cases isComponent : Component.ofPiece? piece <;> simp [isComponent]

/-- A way leads from a place below names to one below the names where its components lead. -/
theorem StandsAt.way {pieces : List Name} (stands : StandsAt top names place)
    (leads : pieces.foldlM Place.step place = .ok next) :
    StandsAt top ((pieces.filterMap Component.ofPiece?).foldl Component.descend names) next := by
  induction pieces generalizing place names with
  | nil =>
      cases leads
      exact stands
  | cons piece rest ih =>
      obtain ⟨middle, stepped, leads⟩ := bind_eq_ok_iff.mp leads
      rw [filterMap_ofPiece?_cons, List.foldl_append]
      exact ih (stands.step stepped) leads

/-- A way to a place below names passes through the directories above it, but for those that
are already above the place where it starts. -/
theorem StandsAt.passing {pieces names outer : List Name} {through : Place} {access : Access}
    {entries : List (Name × Entry)} (stands : StandsAt top names place)
    (leads : pieces.foldlM Place.step place = .ok next)
    (onWay : name :: outer <:+
      (pieces.filterMap Component.ofPiece?).foldl Component.descend names)
    (notBefore : ¬ name :: outer <:+ names) (there : StandsAt top outer through)
    (isDirectory : through.here = .directory access entries) : access.passing = none := by
  induction pieces generalizing place names with
  | nil => exact absurd onWay notBefore
  | cons piece rest ih =>
      obtain ⟨middle, stepped, leads⟩ := bind_eq_ok_iff.mp leads
      rw [filterMap_ofPiece?_cons, List.foldl_append] at onWay
      have goesOn := ih (stands.step stepped) leads onWay
      obtain ⟨passed, others, isPlace, ⟨rfl, -⟩ |
        ⟨passes, ⟨rfl, -⟩ | ⟨rfl, -⟩ | ⟨isNormal, -⟩⟩⟩ := step_cases stepped
      · exact goesOn notBefore
      · exact goesOn notBefore
      · exact goesOn fun isSuffix => notBefore (isSuffix.trans (List.drop_suffix 1 names))
      · rw [isNormal] at goesOn
        by_cases isHere : name :: outer = piece :: names
        · -- the way leaves the directory for the entry that is on it
          obtain ⟨-, rfl⟩ := List.cons.inj isHere
          rw [there.unique stands, isPlace] at isDirectory
          cases isDirectory
          exact passes
        · refine goesOn fun isSuffix => ?_
          rcases List.suffix_cons_iff.mp isSuffix with same | behind
          · exact isHere same
          · exact notBefore behind

/-- Names lead down from a place, whatever the directories on the way let pass. -/
theorem StandsAt.down {below : List Name} (stands : StandsAt top names place)
    (leads : below.foldlM inner? place = some next) :
    StandsAt top (below.reverse ++ names) next := by
  induction below generalizing place names with
  | nil =>
      cases leads
      exact stands
  | cons name below ih =>
      obtain ⟨middle, found, leads⟩ := Option.bind_eq_some_iff.mp leads
      rw [List.reverse_cons, List.append_assoc]
      exact ih (.inner stands found) leads

/-- Above a place there are only directories. -/
theorem StandsAt.upper_isDirectory (stands : StandsAt top names place) {access : Access}
    {entries : List (Name × Entry)} (isDirectory : place.here = .directory access entries) :
    ∃ access entries, place.upper.here = .directory access entries := by
  cases stands with
  | top => exact ⟨access, entries, isDirectory⟩
  | inner outer found =>
      obtain ⟨access, entries, inner, isOuter, -, rfl⟩ := inner?_eq_some_iff.mp found
      exact ⟨access, entries, isOuter⟩

/-- Only a name leads to a file. -/
theorem StandsAt.isNormal_of_step (stands : StandsAt top names place)
    (stepped : place.step piece = .ok next) {content : Except ReadFailure String}
    (isFile : next.here = .file content) : Component.ofPiece? piece = some (.normal piece) := by
  obtain ⟨access, entries, isDirectory, ⟨-, rfl⟩ |
    ⟨-, ⟨-, rfl⟩ | ⟨-, rfl⟩ | ⟨isNormal, -⟩⟩⟩ := step_cases stepped
  · rw [isDirectory] at isFile
    cases isFile
  · rw [isDirectory] at isFile
    cases isFile
  · obtain ⟨access, entries, isUpper⟩ := stands.upper_isDirectory isDirectory
    rw [isUpper] at isFile
    cases isFile
  · exact isNormal

end Place

/-! ## Paths in a tree -/

/-- What the system demands of a path, apart from where it leads. -/
structure Path.Accepted (path : Path) : Prop where
  whole : path.isCutShort = false
  nonempty : path.bytes ≠ []
  short : path.bytes.length ≤ pathLimit

namespace Tree

variable {tree : Tree} {path left right : Path} {content : Except ReadFailure String}
  {entry : Entry}

/-- The names below which a path starts, the innermost first. -/
def startNames (tree : Tree) (path : Path) : List Name :=
  if path.isAbsolute then [] else tree.current.reverse

theorem stands_of_start? {start : Place} (starts : tree.start? path = some start) :
    Place.StandsAt tree.top (tree.startNames path) start := by
  unfold start? at starts
  unfold startNames
  by_cases absolute : path.isAbsolute = true
  · rw [if_pos absolute] at starts ⊢
    cases starts
    exact .top
  · rw [if_neg absolute] at starts ⊢
    have stands := Place.StandsAt.top.down starts
    rwa [List.append_nil] at stands

theorem reverse_names (tree : Tree) (path : Path) :
    (tree.names path).reverse =
      (path.pieces.filterMap Component.ofPiece?).foldl Component.descend
        (tree.startNames path) := by
  rw [names, List.reverse_reverse, Path.foldl_components]
  rfl

theorem names_of_same (same : left.same right = true) : tree.names left = tree.names right := by
  rw [Path.same, beq_iff_eq] at same
  rw [names, names, same]

theorem isFile_eq_true_iff :
    tree.isFile path = true ↔ ∃ content, tree.find path = .ok (.file content) := by
  unfold isFile
  split
  · rename_i content found
    exact ⟨fun _ => ⟨content, found⟩, fun _ => rfl⟩
  · rename_i noFile
    exact ⟨nofun, fun ⟨content, found⟩ => absurd found (noFile content)⟩

/-- What is found is at the end of the way from the start of the path. -/
theorem find_eq_ok_iff :
    tree.find path = .ok entry ↔ path.Accepted ∧ (∀ failure, entry ≠ .broken failure) ∧
      ∃ start place, tree.start? path = some start ∧
        path.pieces.foldlM Place.step start = .ok place ∧ place.here = entry := by
  constructor
  · intro found
    unfold find at found
    split at found
    · cases found
    · rename_i whole
      split at found
      · cases found
      · rename_i nonempty
        split at found
        · cases found
        · rename_i short
          have accepted : path.Accepted :=
            { whole := Bool.eq_false_iff.mpr whole
              nonempty := by simpa using nonempty
              short := Nat.not_lt.mp short }
          split at found
          · cases found
          · rename_i start starts
            split at found
            · cases found
            · cases found
            · rename_i notBroken leads
              cases found
              exact ⟨accepted, notBroken, start, _, starts, leads, rfl⟩
  · rintro ⟨⟨whole, nonempty, short⟩, notBroken, start, ⟨here, above⟩, starts, leads, rfl⟩
    have notEmpty : path.bytes.isEmpty = false := List.isEmpty_eq_false_iff.mpr nonempty
    rw [find, whole, if_neg Bool.false_ne_true, notEmpty, if_neg Bool.false_ne_true,
      if_neg (Nat.not_lt.mpr short), starts]
    dsimp only
    rw [leads]
    cases here with
    | broken failure => exact absurd rfl (notBroken failure)
    | file content => rfl
    | directory access entries => rfl

/-- What a path leads to stands below its names. -/
theorem stands_of_find (found : tree.find path = .ok entry) :
    ∃ place, Place.StandsAt tree.top (tree.names path).reverse place ∧ place.here = entry := by
  obtain ⟨-, -, start, place, starts, leads, isHere⟩ := find_eq_ok_iff.mp found
  rw [reverse_names]
  exact ⟨place, (stands_of_start? starts).way leads, isHere⟩

/-- Paths to files below the same names lead to the same file. -/
theorem find_eq_of_names (same : tree.names left = tree.names right)
    (leftFile : tree.isFile left = true) (rightFile : tree.isFile right = true) :
    tree.find left = tree.find right := by
  obtain ⟨leftContent, leftFound⟩ := isFile_eq_true_iff.mp leftFile
  obtain ⟨rightContent, rightFound⟩ := isFile_eq_true_iff.mp rightFile
  obtain ⟨leftPlace, leftStands, isLeft⟩ := stands_of_find leftFound
  obtain ⟨rightPlace, rightStands, isRight⟩ := stands_of_find rightFound
  rw [same] at leftStands
  rw [leftFound, rightFound, ← isLeft, ← isRight, leftStands.unique rightStands]

/-- The name of a file is what its path ends with. -/
theorem exists_last_name (found : tree.find path = .ok (.file content)) :
    ∃ piece outer, path.pieces.getLast? = some piece ∧
      Component.ofPiece? piece = some (.normal piece) ∧
      (tree.names path).reverse = piece :: outer := by
  obtain ⟨-, -, start, place, starts, leads, isFile⟩ := find_eq_ok_iff.mp found
  obtain ⟨init, piece, split⟩ :=
    (List.eq_nil_or_concat path.pieces).resolve_left (splitSlashes_ne_nil _)
  rw [List.concat_eq_append] at split
  rw [split, List.foldlM_append] at leads
  obtain ⟨before, leadsBefore, stepped⟩ := bind_eq_ok_iff.mp leads
  have stands := (stands_of_start? starts).way leadsBefore
  rw [List.foldlM_cons] at stepped
  obtain ⟨last, stepped, isLast⟩ := bind_eq_ok_iff.mp stepped
  cases isLast
  have isNormal := stands.isNormal_of_step stepped isFile
  refine ⟨piece, (init.filterMap Component.ofPiece?).foldl Component.descend
    (tree.startNames path), ?_, isNormal, ?_⟩
  · rw [split, List.getLast?_append_cons, List.getLast?_singleton]
  · rw [reverse_names, split, List.filterMap_append, List.foldl_append,
      List.filterMap_cons_some isNormal]
    rfl

end Tree

/-! ## Classes of a file -/

variable {tree : Tree} {left right path : Path} {classes : Classes}

theorem isFile_of_readClasses (read : readClasses tree path = .ok classes) :
    tree.isFile path = true := by
  obtain ⟨definitions, readFile, -⟩ := map_eq_ok_iff.mp read
  unfold Files.readFile at readFile
  split at readFile
  · cases readFile
  · rename_i source readText
    exact Tree.isFile_of_readText readText

theorem readClasses_of_text {text : String} {definitions : List Document.Definition}
    (isText : tree.readText path = .ok text) (read : Document.read text = .ok definitions) :
    readClasses tree path = .ok (classesOf definitions) := by
  rw [readClasses, readFile, isText]
  dsimp only
  rw [read]
  rfl

/-- Paths that lead to the same file give the same classes. -/
theorem readClasses_of_find_eq (found : tree.find left = tree.find right)
    (read : readClasses tree left = .ok classes) : readClasses tree right = .ok classes := by
  obtain ⟨definitions, readFile, rfl⟩ := map_eq_ok_iff.mp read
  refine map_eq_ok_iff.mpr ⟨definitions, ?_, rfl⟩
  unfold Files.readFile at readFile ⊢
  have texts : tree.readText left = tree.readText right := by
    rw [Tree.readText, Tree.readText, found]
  rw [texts] at readFile
  split at readFile
  · cases readFile
  · split at readFile
    · cases readFile
    · exact readFile

/-- A file declares the same classes under all paths to its place. -/
theorem readClasses_of_names (same : tree.names left = tree.names right)
    (read : readClasses tree left = .ok classes) (rightFile : tree.isFile right = true) :
    readClasses tree right = .ok classes :=
  readClasses_of_find_eq (Tree.find_eq_of_names same (isFile_of_readClasses read) rightFile) read

end EntityMapping.Files
