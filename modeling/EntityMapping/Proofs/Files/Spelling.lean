import EntityMapping.Files.Path
import Mathlib.Data.List.Basic

/-!
# Spellings of paths

A path is the pieces between its slashes, and a name below a directory is a path whose pieces
are those of both.  Paths with the same components lead to the same place, however they are
written; what can differ is whether the system takes the path at all, because one of them is
too long or ends like a directory.
-/

namespace EntityMapping.Files

open EntityMapping.Text

/-! ## Pieces of a path -/

theorem splitSlashes_ne_nil (bytes : List UInt8) : splitSlashes bytes ≠ [] := by
  cases bytes with
  | nil => exact List.cons_ne_nil _ _
  | cons byte rest =>
      rw [splitSlashes]
      split
      · exact List.cons_ne_nil _ _
      · split <;> exact List.cons_ne_nil _ _

theorem splitSlashes_append (front behind : List UInt8) :
    splitSlashes (front ++ slash :: behind) = splitSlashes front ++ splitSlashes behind := by
  induction front with
  | nil => rfl
  | cons byte front ih =>
      rw [List.cons_append, splitSlashes, splitSlashes, ih]
      split
      · rfl
      · cases split : splitSlashes front with
        | nil => exact absurd split (splitSlashes_ne_nil front)
        | cons piece more => rfl

/-- Bytes without a slash belong to the piece in front of which they stand. -/
theorem splitSlashes_prepend {front behind : List UInt8} {piece : Name} {more : List Name}
    (noSlash : slash ∉ front) (split : splitSlashes behind = piece :: more) :
    splitSlashes (front ++ behind) = (front ++ piece) :: more := by
  induction front with
  | nil => exact split
  | cons byte front ih =>
      rw [List.mem_cons, not_or] at noSlash
      rw [List.cons_append, splitSlashes, if_neg (Ne.symm noSlash.1), ih noSlash.2]
      rfl

theorem splitSlashes_of_not_mem {bytes : List UInt8} (noSlash : slash ∉ bytes) :
    splitSlashes bytes = [bytes] := by
  have whole : splitSlashes (bytes ++ []) = [bytes ++ []] := splitSlashes_prepend noSlash rfl
  rwa [List.append_nil] at whole

theorem slash_not_mem_of_mem_splitSlashes {bytes : List UInt8} {piece : Name}
    (member : piece ∈ splitSlashes bytes) : slash ∉ piece := by
  induction bytes generalizing piece with
  | nil =>
      rw [List.mem_singleton.mp member]
      exact List.not_mem_nil
  | cons byte rest ih =>
      rw [splitSlashes] at member
      split at member
      · rcases List.mem_cons.mp member with rfl | member
        · exact List.not_mem_nil
        · exact ih member
      · rename_i different
        cases split : splitSlashes rest with
        | nil => exact absurd split (splitSlashes_ne_nil rest)
        | cons first others =>
            rw [split] at member ih
            rcases List.mem_cons.mp member with rfl | member
            · rw [List.mem_cons, not_or]
              exact ⟨Ne.symm different, ih List.mem_cons_self⟩
            · exact ih (List.mem_cons_of_mem first member)

/-! ## Slashes in texts -/

/-- Of all characters only the slash is written with its byte. -/
theorem slash_mem_utf8EncodeChar_iff {c : Char} :
    slash ∈ String.utf8EncodeChar c ↔ c = '/' := by
  have ofByte : ∀ {code : Nat}, slash = UInt8.ofNat code ↔ code % 256 = 47 := by
    intro code
    rw [← UInt8.toNat_inj, UInt8.toNat_ofNat', eq_comm]
    exact Iff.rfl
  constructor
  · intro member
    have isSlash : c.val.toNat = 47 := by
      unfold String.utf8EncodeChar at member
      dsimp only at member
      split at member
      · simp only [List.mem_cons, List.not_mem_nil, or_false, ofByte] at member
        omega
      · split at member
        · simp only [List.mem_cons, List.not_mem_nil, or_false, ofByte] at member
          omega
        · split at member
          · simp only [List.mem_cons, List.not_mem_nil, or_false, ofByte] at member
            omega
          · simp only [List.mem_cons, List.not_mem_nil, or_false, ofByte] at member
            omega
    exact Char.toNat_inj.mp isSlash
  · rintro rfl
    decide

theorem slash_mem_utf8_iff {text : String} : slash ∈ utf8 text ↔ '/' ∈ text.toList := by
  rw [utf8, List.mem_flatMap]
  constructor
  · rintro ⟨c, member, isSlash⟩
    rwa [← slash_mem_utf8EncodeChar_iff.mp isSlash]
  · exact fun member => ⟨'/', member, slash_mem_utf8EncodeChar_iff.mpr rfl⟩

/-- What is behind the last slash of a text is a text, and ends like it. -/
theorem exists_getLast?_splitSlashes (front : String) {ending : String}
    (noSlash : '/' ∉ ending.toList) :
    ∃ piece, (splitSlashes (utf8 (front ++ ending))).getLast? = some (utf8 (piece ++ ending)) := by
  suffices ofChars : ∀ chars : List Char, ∃ piece,
      (splitSlashes (chars.flatMap String.utf8EncodeChar ++ utf8 ending)).getLast? =
        some (utf8 piece ++ utf8 ending) by
    obtain ⟨piece, isLast⟩ := ofChars front.toList
    refine ⟨piece, ?_⟩
    rw [utf8_append, utf8_append]
    exact isLast
  intro chars
  induction chars with
  | nil =>
      have whole := splitSlashes_of_not_mem (mt slash_mem_utf8_iff.mp noSlash)
      exact ⟨"", congrArg List.getLast? whole⟩
  | cons c chars ih =>
      obtain ⟨piece, isLast⟩ := ih
      rw [List.flatMap_cons, List.append_assoc]
      obtain ⟨first, others, split⟩ := List.exists_cons_of_ne_nil
        (splitSlashes_ne_nil (chars.flatMap String.utf8EncodeChar ++ utf8 ending))
      by_cases isSlash : c = '/'
      · have encoded : String.utf8EncodeChar c = [slash] := by
          rw [isSlash]
          rfl
        refine ⟨piece, ?_⟩
        rw [encoded, List.singleton_append, splitSlashes, if_pos rfl, List.getLast?_cons, isLast,
          Option.getD_some]
      · rw [splitSlashes_prepend (mt slash_mem_utf8EncodeChar_iff.mp isSlash) split]
        rw [split] at isLast
        cases others with
        | nil =>
            cases isLast
            refine ⟨String.ofList [c] ++ piece, ?_⟩
            rw [utf8_append, List.append_assoc]
            simp [utf8]
        | cons second others => exact ⟨piece, isLast⟩

namespace Component

theorem ofPiece?_cases (piece : Name) :
    ((piece = [] ∨ piece = oneDot) ∧ ofPiece? piece = none) ∨
    (piece = twoDots ∧ ofPiece? piece = some .parent) ∨
    ((piece ≠ [] ∧ piece ≠ oneDot ∧ piece ≠ twoDots) ∧
      ofPiece? piece = some (.normal piece)) := by
  unfold ofPiece?
  split
  · rename_i skipped
    exact Or.inl ⟨skipped, rfl⟩
  · rename_i notSkipped
    rw [not_or] at notSkipped
    split
    · rename_i up
      exact Or.inr (Or.inl ⟨up, rfl⟩)
    · rename_i down
      exact Or.inr (Or.inr ⟨⟨notSkipped.1, notSkipped.2, down⟩, rfl⟩)

end Component

namespace Path

/-! ## Names below a directory -/

/-- A relative name is put behind a slash, the one at the end of the directory if there is
one. -/
theorem exists_bytes_join {directory : Path} (nonempty : directory.bytes ≠ []) :
    ∃ front, (directory.bytes = front ∨ directory.bytes = front ++ [slash]) ∧
      ∀ name, (Path.mk name).isAbsolute = false →
        (directory.join name).bytes = front ++ slash :: name := by
  have notEmpty : directory.bytes.isEmpty = false := List.isEmpty_eq_false_iff.mpr nonempty
  by_cases lastSlash : directory.bytes.getLast? = some slash
  · obtain ⟨front, split⟩ := List.getLast?_eq_some_iff.mp lastSlash
    refine ⟨front, Or.inr split, fun name relative => ?_⟩
    simp [join, relative, split]
  · refine ⟨directory.bytes, Or.inl rfl, fun name relative => ?_⟩
    simp [join, relative, nonempty, lastSlash]

theorem bytes_prefix_join {directory : Path} {name : Name} (nonempty : directory.bytes ≠ [])
    (relative : (Path.mk name).isAbsolute = false) :
    directory.bytes <+: (directory.join name).bytes := by
  obtain ⟨front, ofDirectory, bytes⟩ := exists_bytes_join nonempty
  rw [bytes name relative]
  rcases ofDirectory with same | slashed
  · rw [same]
    exact List.prefix_append _ _
  · rw [slashed]
    exact List.prefix_append_right_inj front |>.mpr
      (List.cons_prefix_cons.mpr ⟨rfl, List.nil_prefix⟩)

theorem isAbsolute_join {directory : Path} {name : Name} (nonempty : directory.bytes ≠ [])
    (relative : (Path.mk name).isAbsolute = false) :
    (directory.join name).isAbsolute = directory.isAbsolute := by
  obtain ⟨behind, bytes⟩ := bytes_prefix_join nonempty relative
  obtain ⟨first, rest, split⟩ := List.exists_cons_of_ne_nil nonempty
  rw [isAbsolute, isAbsolute, ← bytes, split]
  rfl

/-- The pieces of a name come behind those of the directory, apart from an empty one at its
end. -/
theorem exists_pieces_join {directory : Path} (nonempty : directory.bytes ≠ []) :
    ∃ front, (directory.pieces = front ∨ directory.pieces = front ++ [[]]) ∧
      ∀ name, (Path.mk name).isAbsolute = false →
        (directory.join name).pieces = front ++ (Path.mk name).pieces := by
  obtain ⟨front, ofDirectory, bytes⟩ := exists_bytes_join nonempty
  refine ⟨splitSlashes front, ?_, fun name relative => ?_⟩
  · unfold pieces
    rcases ofDirectory with same | slashed
    · exact Or.inl (congrArg splitSlashes same)
    · rw [slashed]
      exact Or.inr (splitSlashes_append front [])
  · rw [pieces, bytes name relative, splitSlashes_append]
    rfl

theorem components_behind (front behind : List UInt8) :
    components ⟨front ++ slash :: behind⟩ =
      components ⟨front ++ [slash]⟩ ++ (splitSlashes behind).filterMap Component.ofPiece? := by
  have head := List.head?_eq_some_head (splitSlashes_ne_nil front)
  unfold components isAbsolute pieces
  simp only [splitSlashes_append, List.filterMap_append, List.head?_append,
    List.append_assoc, head, Option.some_or]
  rfl

/-- Where one slash stands, more make no difference. -/
theorem components_slashes (front behind : List UInt8) (more : Nat) :
    components ⟨front ++ slash :: (List.replicate more slash ++ behind)⟩ =
      components ⟨front ++ slash :: behind⟩ := by
  have parts : (splitSlashes (List.replicate more slash ++ behind)).filterMap
      Component.ofPiece? = (splitSlashes behind).filterMap Component.ofPiece? := by
    induction more with
    | zero => rfl
    | succ more ih => exact ih
  rw [components_behind, components_behind front behind, parts]

theorem components_slash {front : List UInt8} (nonempty : front ≠ []) :
    components ⟨front ++ [slash]⟩ = components ⟨front⟩ := by
  obtain ⟨c, rest, rfl⟩ := List.exists_cons_of_ne_nil nonempty
  have head := List.head?_eq_some_head (splitSlashes_ne_nil (c :: rest))
  have nothing : (splitSlashes []).filterMap Component.ofPiece? = [] := rfl
  unfold components isAbsolute pieces
  simp only [splitSlashes_append, List.filterMap_append, List.head?_append,
    head, Option.some_or, nothing, List.append_nil]
  rfl

theorem components_join {directory : Path} {name : Name} (nonempty : directory.bytes ≠ [])
    (relative : (Path.mk name).isAbsolute = false) :
    (directory.join name).components =
      directory.components ++ (Path.mk name).pieces.filterMap Component.ofPiece? := by
  obtain ⟨front, ofDirectory, bytes⟩ := exists_bytes_join nonempty
  have joined : directory.join name = ⟨front ++ slash :: name⟩ :=
    congrArg Path.mk (bytes name relative)
  have isDirectory : directory.components = components ⟨front ++ [slash]⟩ := by
    rcases ofDirectory with same | slashed
    · rw [components_slash (same ▸ nonempty), ← same]
    · rw [← slashed]
  rw [joined, components_behind, isDirectory]
  rfl

/-- What a name ends with is what its path ends with. -/
theorem getLast?_pieces_join (directory : Path) (name : Name) :
    (directory.join name).pieces.getLast? = (Path.mk name).pieces.getLast? := by
  by_cases empty : directory.bytes = []
  · unfold join
    rw [empty, List.isEmpty_nil, if_pos rfl, ite_self]
  · cases relative : (Path.mk name).isAbsolute with
    | true =>
        unfold join
        rw [relative, if_pos rfl]
    | false =>
        obtain ⟨front, -, pieces⟩ := exists_pieces_join empty
        rw [pieces name relative]
        exact List.getLast?_append_of_ne_nil _ (splitSlashes_ne_nil _)

/-! ## Where components lead -/

/-- Components lead where the pieces of the path do, from the top if the path starts there. -/
theorem foldl_components (path : Path) (names : List Name) :
    path.components.foldl Component.descend names =
      (path.pieces.filterMap Component.ofPiece?).foldl Component.descend
        (if path.isAbsolute then [] else names) := by
  unfold components
  rw [List.foldl_append]
  split
  · rfl
  · split <;> rfl

theorem same_trans {left middle right : Path} (first : left.same middle = true)
    (second : middle.same right = true) : left.same right = true := by
  rw [Path.same, beq_iff_eq] at first second ⊢
  exact first.trans second

theorem same_symm {left right : Path} (same : left.same right = true) :
    right.same left = true := by
  rw [Path.same, beq_iff_eq] at same ⊢
  exact same.symm

end Path

end EntityMapping.Files
