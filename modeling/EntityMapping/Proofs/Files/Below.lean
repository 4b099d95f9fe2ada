import EntityMapping.Proofs.Files.Location
import Mathlib.Algebra.Order.BigOperators.Group.List
import Mathlib.Algebra.Order.Ring.Nat

/-!
# Going straight down from a directory

A way below a directory can take turns.  The path that only goes down, by the names where the
way ends, leads to the same place and is not longer.
-/

namespace EntityMapping.Files

/-! ## Names on the way -/

/-- A name that can stand between slashes and leads down. -/
structure IsName (name : Name) : Prop where
  noSlash : slash ∉ name
  normal : Component.ofPiece? name = some (.normal name)

namespace IsName

variable {name : Name}

theorem relative (isName : IsName name) : (Path.mk name).isAbsolute = false := by
  rw [Path.isAbsolute, beq_eq_false_iff_ne]
  intro first
  exact isName.noSlash (List.mem_of_head? first)

theorem pieces (isName : IsName name) : (Path.mk name).pieces = [name] :=
  splitSlashes_of_not_mem isName.noSlash

end IsName

/-- Pieces lead up by some names, and then down again by names that are among them. -/
theorem Component.foldl_descend {pieces : List Name} (noSlash : ∀ piece ∈ pieces, slash ∉ piece)
    (names : List Name) :
    ∃ inner dropped,
      (pieces.filterMap ofPiece?).foldl (fun names part => part.descend names) names =
        inner ++ names.drop dropped ∧
      inner.Sublist pieces.reverse ∧ (∀ name ∈ inner, IsName name) ∧
      (twoDots ∉ pieces → dropped = 0) := by
  induction pieces generalizing names with
  | nil => exact ⟨[], 0, rfl, .slnil, List.forall_mem_nil _, fun _ => rfl⟩
  | cons piece pieces ih =>
      obtain ⟨ofPiece, ofOthers⟩ := List.forall_mem_cons.mp noSlash
      have keeps : ∀ {inner : List Name}, inner.Sublist pieces.reverse →
          inner.Sublist (piece :: pieces).reverse := by
        intro inner sublist
        rw [List.reverse_cons]
        exact sublist.trans (List.sublist_append_left _ _)
      rcases ofPiece?_cases piece with ⟨-, skipped⟩ | ⟨rfl, up⟩ | ⟨notUp, down⟩
      · rw [List.filterMap_cons_none skipped]
        obtain ⟨inner, dropped, leads, sublist, areNames, stays⟩ := ih ofOthers names
        exact ⟨inner, dropped, leads, keeps sublist, areNames,
          fun never => stays fun later => never (List.mem_cons_of_mem _ later)⟩
      · rw [List.filterMap_cons_some up, List.foldl_cons]
        obtain ⟨inner, dropped, leads, sublist, areNames, -⟩ := ih ofOthers (names.drop 1)
        rw [List.drop_drop] at leads
        exact ⟨inner, _, leads, keeps sublist, areNames,
          fun never => absurd List.mem_cons_self never⟩
      · rw [List.filterMap_cons_some down, List.foldl_cons]
        obtain ⟨inner, dropped, leads, sublist, areNames, stays⟩ :=
          ih ofOthers (piece :: names)
        have noUp : twoDots ∉ piece :: pieces → twoDots ∉ pieces :=
          fun never later => never (List.mem_cons_of_mem _ later)
        cases dropped with
        | zero =>
            refine ⟨inner ++ [piece], 0, ?_, ?_, ?_, fun _ => rfl⟩
            · rw [List.append_assoc]
              exact leads
            · rw [List.reverse_cons]
              exact sublist.append (List.Sublist.refl _)
            · exact List.forall_mem_append.mpr
                ⟨areNames, List.forall_mem_singleton.mpr ⟨ofPiece, down⟩⟩
        | succ dropped =>
            exact ⟨inner, dropped, leads, keeps sublist, areNames,
              fun never => nomatch stays (noUp never)⟩

/-! ## Names below a directory -/

namespace Tree

variable {tree : Tree} {directory : Path} {way : Name}

/-- A way from a directory leads on from where the path of the directory leads. -/
theorem reverse_names_join (tree : Tree) (nonempty : directory.bytes ≠ [])
    (relative : (Path.mk way).isAbsolute = false) :
    (tree.names (directory.join way)).reverse =
      ((Path.mk way).pieces.filterMap Component.ofPiece?).foldl Component.descend
        (tree.names directory).reverse := by
  obtain ⟨front, ofDirectory, pieces⟩ := Path.exists_pieces_join nonempty
  have same : directory.pieces.filterMap Component.ofPiece? =
      front.filterMap Component.ofPiece? := by
    rcases ofDirectory with same | slashed
    · rw [same]
    · rw [slashed, List.filterMap_append]
      exact List.append_nil _
  rw [reverse_names, reverse_names, pieces way relative, same, startNames, startNames,
    Path.isAbsolute_join nonempty relative, List.filterMap_append, List.foldl_append]

/-- Names on a way from a directory lead down from some directory that it is in. -/
theorem exists_reverse_names_join (tree : Tree) (nonempty : directory.bytes ≠ [])
    (relative : (Path.mk way).isAbsolute = false) :
    ∃ inner dropped, (tree.names (directory.join way)).reverse =
        inner ++ (tree.names directory).reverse.drop dropped ∧
      inner.Sublist (Path.mk way).pieces.reverse ∧
      (∀ name ∈ inner, IsName name) ∧ (twoDots ∉ (Path.mk way).pieces → dropped = 0) := by
  have noSlash : ∀ piece ∈ (Path.mk way).pieces, slash ∉ piece :=
    fun piece member => slash_not_mem_of_mem_splitSlashes member
  rw [tree.reverse_names_join nonempty relative]
  exact Component.foldl_descend noSlash (tree.names directory).reverse

/-- Where a way from a directory ends below it, the names from there are names on the way. -/
theorem exists_inner_names_join (nonempty : directory.bytes ≠ [])
    (relative : (Path.mk way).isAbsolute = false)
    (below : tree.names directory <+: tree.names (directory.join way)) :
    ∃ inner, (tree.names (directory.join way)).reverse =
        inner ++ (tree.names directory).reverse ∧
      inner.Sublist (Path.mk way).pieces.reverse ∧ ∀ name ∈ inner, IsName name := by
  obtain ⟨turns, dropped, leads, sublist, areNames, -⟩ :=
    tree.exists_reverse_names_join nonempty relative
  obtain ⟨inner, down⟩ := List.reverse_suffix.mpr below
  rw [leads] at down
  have shorter : inner.length ≤ turns.length := by
    have lengths := congrArg List.length down
    simp only [List.length_append, List.length_drop] at lengths
    omega
  have isPrefix : inner <+: turns :=
    List.prefix_of_prefix_length_le ⟨_, down⟩ (List.prefix_append _ _) shorter
  exact ⟨inner, leads.trans down.symm, isPrefix.sublist.trans sublist,
    fun name member => areNames name (isPrefix.subset member)⟩

end Tree

/-! ## Paths below a directory -/

namespace Path

variable {directory : Path}

/-- The path of what stands below names from a directory, the innermost first. -/
def below (directory : Path) (names : List Name) : Path :=
  names.foldr (fun name outer => outer.join name) directory

theorem below_cons (directory : Path) (name : Name) (names : List Name) :
    directory.below (name :: names) = (directory.below names).join name := rfl

theorem bytes_below_ne_nil (nonempty : directory.bytes ≠ []) {names : List Name}
    (areNames : ∀ name ∈ names, IsName name) : (directory.below names).bytes ≠ [] := by
  induction names with
  | nil => exact nonempty
  | cons name names ih =>
      obtain ⟨isName, others⟩ := List.forall_mem_cons.mp areNames
      obtain ⟨front, -, bytes⟩ := exists_bytes_join (ih others)
      rw [below_cons, bytes name isName.relative]
      simp

/-- What stands below names from a directory stands there from the top, below the names of
the directory. -/
theorem reverse_names_below (tree : Tree) (nonempty : directory.bytes ≠ []) {names : List Name}
    (areNames : ∀ name ∈ names, IsName name) :
    (tree.names (directory.below names)).reverse =
      names ++ (tree.names directory).reverse := by
  induction names with
  | nil => rfl
  | cons name names ih =>
      obtain ⟨isName, others⟩ := List.forall_mem_cons.mp areNames
      rw [below_cons, tree.reverse_names_join (bytes_below_ne_nil nonempty others)
        isName.relative, isName.pieces, List.filterMap_cons_some isName.normal, ih others]
      rfl

theorem length_join_le (directory : Path) (name : Name) :
    (directory.join name).bytes.length ≤ directory.bytes.length + (name.length + 1) := by
  unfold join
  split
  · exact Nat.le_trans (Nat.le_succ _) (Nat.le_add_left _ _)
  · split
    · exact Nat.le_trans (Nat.le_succ _) (Nat.le_add_left _ _)
    · split
      · rw [List.length_append]
        omega
      · rw [List.length_append, List.length_cons]

/-- Bytes are those of the pieces and of the slashes between them. -/
theorem length_splitSlashes (bytes : List UInt8) :
    bytes.length + 1 = ((splitSlashes bytes).map fun piece => piece.length + 1).sum := by
  induction bytes with
  | nil => rfl
  | cons byte rest ih =>
      rw [splitSlashes]
      split
      · rw [List.map_cons, List.sum_cons, ← ih, List.length_cons, List.length_nil]
        omega
      · cases split : splitSlashes rest with
        | nil => exact absurd split (splitSlashes_ne_nil rest)
        | cons piece others =>
            rw [split] at ih
            simp only [List.map_cons, List.sum_cons, List.length_cons] at ih ⊢
            omega

theorem length_below_le_sum {front : List UInt8}
    (bytes : ∀ name, (Path.mk name).isAbsolute = false →
      (directory.join name).bytes = front ++ slash :: name)
    {names : List Name} (notTop : names ≠ []) (areNames : ∀ name ∈ names, IsName name) :
    (directory.below names).bytes.length ≤
      front.length + (names.map fun name => name.length + 1).sum := by
  induction names with
  | nil => exact absurd rfl notTop
  | cons name names ih =>
      obtain ⟨isName, others⟩ := List.forall_mem_cons.mp areNames
      by_cases isTop : names = []
      · subst isTop
        rw [below_cons, below, List.foldr_nil, bytes name isName.relative, List.length_append]
        simp
      · have outer := ih isTop others
        have joined := length_join_le (directory.below names) name
        rw [List.map_cons, List.sum_cons, below_cons]
        omega

/-- A path that goes straight down by names has no more bytes than one that takes a way on
which these names are. -/
theorem length_below_le (nonempty : directory.bytes ≠ []) {names : List Name}
    (notTop : names ≠ []) (areNames : ∀ name ∈ names, IsName name) {way : Name}
    (relative : (Path.mk way).isAbsolute = false)
    (onWay : names.Sublist (Path.mk way).pieces.reverse) :
    (directory.below names).bytes.length ≤ (directory.join way).bytes.length := by
  obtain ⟨front, -, bytes⟩ := exists_bytes_join nonempty
  have widths : (names.map fun name => name.length + 1).sum ≤
      ((Path.mk way).pieces.map fun piece => piece.length + 1).sum := by
    have sublist := onWay.map fun piece => piece.length + 1
    rw [List.map_reverse] at sublist
    have atMost := sublist.sum_le_sum fun _ _ => Nat.zero_le _
    rwa [List.sum_reverse] at atMost
  have whole := length_splitSlashes way
  have bound := length_below_le_sum bytes notTop areNames
  have pieces : (Path.mk way).pieces = splitSlashes way := rfl
  rw [pieces] at widths
  rw [bytes way relative, List.length_append, List.length_cons]
  omega

end Path

end EntityMapping.Files
