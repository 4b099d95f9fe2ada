import EntityMapping.Keyed
import Mathlib.Data.List.Sort

/-!
# Maps over maps

A map that overrides another counts wherever it has an entry.  Main statements: a map is known
by what stands under its keys, what stands under a key after overriding, and that the map of
some entries and then others is the map of the former, overridden by that of the latter.
-/

namespace EntityMapping.Keyed

variable {α : Type} {key : String} {value : α}

/-! ## Maps and their entries -/

/-- Under a key that no other entry has stands what its entry says. -/
theorem lookup_eq_some_iff_mem {entries : List (String × α)}
    (distinct : entries.Pairwise fun left right => left.1 ≠ right.1) :
    entries.lookup key = some value ↔ (key, value) ∈ entries := by
  rw [List.lookup_eq_some_iff]
  constructor
  · rintro ⟨front, behind, rfl, -⟩
    exact List.mem_append_right _ List.mem_cons_self
  · intro member
    obtain ⟨front, behind, rfl⟩ := List.append_of_mem member
    refine ⟨front, behind, rfl, fun entry earlier => ?_⟩
    have different := (List.pairwise_append.mp distinct).2.2 entry earlier _ List.mem_cons_self
    exact bne_iff_ne.mpr different.symm

namespace Sorted

variable {entries left right : Keyed α}

theorem distinct (sorted : entries.Sorted) :
    entries.Pairwise fun left right => left.1 ≠ right.1 :=
  sorted.imp String.ne_of_lt

theorem mem_iff (sorted : entries.Sorted) :
    (key, value) ∈ entries ↔ entries.lookup key = some value :=
  (lookup_eq_some_iff_mem sorted.distinct).symm

theorem lookup_reverse (sorted : entries.Sorted) :
    entries.reverse.lookup key = entries.lookup key := by
  have backwards : entries.reverse.Pairwise fun left right => left.1 ≠ right.1 :=
    List.pairwise_reverse.mpr (sorted.distinct.imp Ne.symm)
  refine Option.ext fun value => ?_
  rw [lookup_eq_some_iff_mem backwards, List.mem_reverse, sorted.mem_iff]

/-- Two maps that have the same under every key are equal. -/
theorem ext (leftSorted : left.Sorted) (rightSorted : right.Sorted)
    (same : ∀ key, left.lookup key = right.lookup key) : left = right := by
  have : Std.Irrefl fun left right : String × α => left.1 < right.1 :=
    ⟨fun entry => String.lt_irrefl entry.1⟩
  have : Std.Antisymm fun left right : String × α => left.1 < right.1 :=
    ⟨fun _ _ less greater => absurd greater (String.lt_asymm less)⟩
  refine List.Pairwise.eq_of_mem_iff leftSorted rightSorted fun entry => ?_
  rw [leftSorted.mem_iff, rightSorted.mem_iff, same]

end Sorted

theorem mem_keys_iff {entries : Keyed α} :
    key ∈ entries.keys ↔ ∃ value, entries.lookup key = some value := by
  refine ⟨fun member => ?_, fun ⟨value, found⟩ => mem_keys_of_lookup found⟩
  obtain ⟨entry, among, same⟩ := List.mem_map.mp member
  exact Option.isSome_iff_exists.mp
    (List.lookup_isSome_iff.mpr ⟨entry, among, beq_iff_eq.mpr same.symm⟩)

/-! ## Overriding -/

/-- Under a key stands what the map above has there, or else what the map below has. -/
theorem lookup_override_of_sorted (base : Keyed α) {above : Keyed α} (sorted : above.Sorted) :
    (override base above).lookup key = (above.lookup key).or (base.lookup key) := by
  rw [lookup_override, sorted.lookup_reverse]

theorem ofEntries_append (first second : List (String × α)) :
    ofEntries (first ++ second) = override (ofEntries first) (ofEntries second) := by
  have sorted := sorted_ofEntries second
  refine (sorted_ofEntries _).ext (sorted_override (sorted_ofEntries first) _) fun key => ?_
  rw [lookup_override_of_sorted _ sorted, lookup_ofEntries, lookup_ofEntries, lookup_ofEntries,
    List.reverse_append, List.lookup_append]

/-- An entry of a map is the last that was given for its key. -/
theorem lookup_ofEntries_eq_some_iff {entries : List (String × α)} :
    (ofEntries entries).lookup key = some value ↔
      ∃ front behind, entries = front ++ (key, value) :: behind ∧
        ∀ later ∈ behind, later.1 ≠ key := by
  rw [lookup_ofEntries, List.lookup_eq_some_iff]
  constructor
  · rintro ⟨behind, front, split, others⟩
    refine ⟨front.reverse, behind.reverse, ?_, fun later member => ?_⟩
    · rw [← List.reverse_reverse entries, split]
      simp
    · exact (bne_iff_ne.mp (others later (List.mem_reverse.mp member))).symm
  · rintro ⟨front, behind, rfl, others⟩
    refine ⟨behind.reverse, front.reverse, by simp, fun later member => ?_⟩
    exact bne_iff_ne.mpr (others later (List.mem_reverse.mp member)).symm

end EntityMapping.Keyed
