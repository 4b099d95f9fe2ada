import EntityMapping.Files.Search
import EntityMapping.Proofs.Files.Location

/-!
# Paths that are too long

Further slashes make a path longer, and no difference to where it leads.  So a directory can be
named by a path that the system takes, while what is in it cannot be named behind that path.
-/

namespace EntityMapping

open EntityMapping.Files
open EntityMapping.Text

/-- A place below the directory `m`, with further slashes in front of it. -/
def slashed (more : Nat) (place : Name) : Path :=
  ⟨utf8 "m" ++ slash :: (List.replicate more slash ++ place)⟩

section Slashed

variable {more : Nat}

theorem components_slashed (more : Nat) (place : Name) :
    (slashed more place).components = Path.components ⟨utf8 "m" ++ slash :: place⟩ :=
  Path.components_slashes _ _ _

theorem length_slashed (more : Nat) (place : Name) :
    (slashed more place).bytes.length = 2 + more + place.length := by
  have single : (utf8 "m").length = 1 := rfl
  simp only [slashed, List.length_append, List.length_cons, List.length_replicate, single]
  omega

theorem join_slashed (more : Nat) {place : Name}
    (relative : (Files.Path.mk place).isAbsolute = false) :
    (slashed more []).join place = slashed more place := by
  have nonempty : (slashed more []).bytes.isEmpty = false := rfl
  have lastSlash : (slashed more []).bytes.getLast? = some slash := by
    cases more with
    | zero => rfl
    | succ more => simp [slashed, List.getLast?_cons, List.getLast?_replicate]
  rw [Path.join, relative, if_neg Bool.false_ne_true, nonempty, if_neg Bool.false_ne_true,
    if_pos lastSlash]
  simp [slashed]

theorem isCutShort_slashed (more : Nat) {place : Name} (noEnd : 0 ∉ place) :
    (slashed more place).isCutShort = false := by
  have letters : (0 : UInt8) ∉ utf8 "m" := by decide
  have notSlash : ¬ (0 : UInt8) = slash := by decide
  simp [Path.isCutShort, slashed, noEnd, letters, notSlash]

/-- Further slashes lead nowhere else. -/
theorem foldlM_step_slashes {place : Place} {access : Access} {entries : List (Name × Entry)}
    (isDirectory : place.here = .directory access entries) (more : Nat) :
    (splitSlashes (List.replicate more slash)).foldlM Place.step place = .ok place := by
  have stepped : place.step [] = .ok place := by
    rw [Place.step, isDirectory]
    rfl
  induction more with
  | zero =>
      rw [List.replicate_zero, splitSlashes, List.foldlM_cons, stepped]
      rfl
  | succ more ih => rwa [List.replicate_succ, splitSlashes, if_pos rfl, List.foldlM_cons, stepped]

/-- With few enough slashes the directory can be opened. -/
theorem folder?_slashed {tree : Tree} {access : Access} {entries : List (Name × Entry)}
    (found : tree.find (.ofText "m") = .ok (.directory access entries))
    (short : 2 + more ≤ pathLimit) :
    tree.folder? (slashed more []) = some ⟨slashed more [], access, entries⟩ := by
  obtain ⟨-, -, start, place, starts, leads, isDirectory⟩ := Tree.find_eq_ok_iff.mp found
  have accepted : (slashed more []).Accepted :=
    { whole := isCutShort_slashed more List.not_mem_nil
      nonempty := List.append_ne_nil_of_right_ne_nil _ (List.cons_ne_nil _ _)
      short := by rwa [length_slashed] }
  have pieces : (slashed more []).pieces = (Path.ofText "m").pieces ++
      splitSlashes (List.replicate more slash) := by
    rw [Path.pieces, slashed, List.append_nil, splitSlashes_append]
    rfl
  have leadsSlashed : (slashed more []).pieces.foldlM Place.step start = .ok place := by
    rw [pieces, List.foldlM_append, leads, ok_bind, foldlM_step_slashes isDirectory]
  have notBroken : ∀ failure, Entry.directory access entries ≠ .broken failure := by
    intro failure same
    cases same
  have foundSlashed : tree.find (slashed more []) = .ok (.directory access entries) :=
    Tree.find_eq_ok_iff.mpr
      ⟨accepted, notBroken, start, place, starts, leadsSlashed, isDirectory⟩
  rw [Tree.folder?, foundSlashed]

/-- With too many slashes nothing in the directory can be opened. -/
theorem find_slashed (tree : Tree) {place : Name} (noEnd : 0 ∉ place)
    (long : pathLimit < 2 + more + place.length) :
    tree.find (slashed more place) = .error .tooLong := by
  have nonempty : (slashed more place).bytes.isEmpty = false := rfl
  rw [← length_slashed] at long
  rw [Tree.find, isCutShort_slashed more noEnd, nonempty, if_neg Bool.false_ne_true,
    if_neg Bool.false_ne_true, if_pos long]

end Slashed

end EntityMapping
