import EntityMapping.Proofs.Files.Listing
import Mathlib.Data.List.Sort

/-!
# The order of paths

Paths are compared by their components, one after another.  Main statements: this is an order
in which paths are equal just if they have the same components, and paths that are sorted and
rid of repetitions increase strictly and are known by what is among them.
-/

namespace EntityMapping.Files

open Std

/-! ## Comparing -/

namespace Component

instance : TransCmp compare :=
  inferInstanceAs (TransCmp (compareLex (compareOn rank) (compareOn name)))

instance : LawfulEqCmp compare where
  eq_of_compare {left right} equal := by
    obtain ⟨sameRank, sameName⟩ := Ordering.then_eq_eq.mp equal
    have ranks : left.rank = right.rank := LawfulEqCmp.eq_of_compare sameRank
    have names : left.name = right.name := LawfulEqCmp.eq_of_compare sameName
    cases left <;> cases right <;> simp_all [rank, name]

theorem compareLists_eq_compareLex : compareLists = List.compareLex compare := by
  funext left right
  induction left generalizing right with
  | nil => cases right <;> rfl
  | cons first rest ih =>
      cases right with
      | nil => rfl
      | cons other others => rw [compareLists, List.compareLex_cons_cons, ih]

instance : TransCmp compareLists := by
  rw [compareLists_eq_compareLex]
  infer_instance

instance : LawfulEqCmp compareLists := by
  rw [compareLists_eq_compareLex]
  infer_instance

instance : Irrefl fun left right => compareLists left right = .lt where
  irrefl _ less := by cases ReflCmp.compare_self.symm.trans less

instance : Antisymm fun left right => compareLists left right = .lt where
  antisymm _ _ less greater := by cases greater.symm.trans (OrientedCmp.gt_of_lt less)

end Component

namespace Path

variable {left right path : Path} {paths others : List Path}

theorem compare_eq_compareLists (left right : Path) :
    compare left right = Component.compareLists left.components right.components := rfl

instance : TransCmp compare where
  eq_swap := by
    simp only [compare_eq_compareLists]
    exact OrientedCmp.eq_swap
  isLE_trans := by
    simp only [compare_eq_compareLists]
    exact TransCmp.isLE_trans

theorem compare_swap (left right : Path) : compare left right = (compare right left).swap :=
  OrientedCmp.eq_swap

theorem compare_eq_eq_iff : compare left right = .eq ↔ left.same right = true := by
  rw [compare_eq_compareLists, same, beq_iff_eq, LawfulEqCmp.compare_eq_iff_eq]

/-! ## Sorting -/

theorem pairwise_sort (paths : List Path) :
    (sort paths).Pairwise fun left right => (compare left right).isLE = true := by
  have isLE : ∀ order : Ordering, (order != .gt) = order.isLE := by decide
  unfold sort
  simp only [isLE]
  refine List.pairwise_mergeSort (fun _ _ _ => TransCmp.isLE_trans) ?_ paths
  intro left right
  rw [compare_swap right left]
  cases compare left right <;> rfl

theorem mem_sort : path ∈ sort paths ↔ path ∈ paths := List.mem_mergeSort

/-! ## Dropping repetitions -/

/-- The paths come one after another in the order of paths, each once. -/
def Increasing (paths : List Path) : Prop :=
  paths.Pairwise fun left right => compare left right = .lt

theorem dropRepeatsOf_sublist (kept : Path) (paths : List Path) :
    (dropRepeatsOf kept paths).Sublist paths := by
  induction paths generalizing kept with
  | nil => exact .slnil
  | cons path rest ih =>
      rw [dropRepeatsOf]
      split
      · exact (ih kept).cons path
      · exact (ih path).cons_cons path

theorem dropRepeats_sublist (paths : List Path) : (dropRepeats paths).Sublist paths := by
  cases paths with
  | nil => exact .slnil
  | cons path rest => exact (dropRepeatsOf_sublist path rest).cons_cons path

theorem compare_eq_lt_of_isLE (atMost : (compare left right).isLE = true)
    (different : ¬ left.same right = true) : compare left right = .lt := by
  rw [← compare_eq_eq_iff] at different
  cases order : compare left right with
  | lt => rfl
  | eq => exact absurd order different
  | gt =>
      rw [order] at atMost
      cases atMost

theorem increasing_dropRepeatsOf {kept : Path}
    (sorted : (kept :: paths).Pairwise fun left right => (compare left right).isLE = true) :
    Increasing (kept :: dropRepeatsOf kept paths) := by
  induction paths generalizing kept with
  | nil => exact List.pairwise_singleton _ _
  | cons path rest ih =>
      obtain ⟨ofKept, sortedBehind⟩ := List.pairwise_cons.mp sorted
      obtain ⟨first, others⟩ := List.forall_mem_cons.mp ofKept
      rw [dropRepeatsOf]
      split
      · exact ih (List.pairwise_cons.mpr ⟨others, (List.pairwise_cons.mp sortedBehind).2⟩)
      · rename_i different
        have less := compare_eq_lt_of_isLE first different
        have behind := ih sortedBehind
        refine List.pairwise_cons.mpr ⟨List.forall_mem_cons.mpr ⟨less, ?_⟩, behind⟩
        intro later member
        exact TransCmp.lt_trans less ((List.pairwise_cons.mp behind).1 later member)

theorem increasing_dropRepeats_sort (paths : List Path) :
    Increasing (dropRepeats (sort paths)) := by
  have sorted := pairwise_sort paths
  cases inOrder : sort paths with
  | nil => exact List.Pairwise.nil
  | cons path rest =>
      rw [inOrder] at sorted
      exact increasing_dropRepeatsOf sorted

theorem not_same_of_lt (less : compare left right = .lt) : left.same right = false := by
  rw [Bool.eq_false_iff]
  intro same
  rw [compare_eq_eq_iff.mpr same] at less
  cases less

theorem Increasing.not_same (increasing : Increasing paths) :
    paths.Pairwise fun left right => left.same right = false :=
  increasing.imp not_same_of_lt

section Split

variable {front behind : List Path} (increasing : Increasing (front ++ path :: behind))
include increasing

/-- Smaller than a path are those before it. -/
theorem Increasing.mem_front_iff {other : Path} (member : other ∈ front ++ path :: behind) :
    other ∈ front ↔ compare other path = .lt := by
  obtain ⟨-, fromPath, between⟩ := List.pairwise_append.mp increasing
  refine ⟨fun before => between other before path List.mem_cons_self, fun less => ?_⟩
  rcases List.mem_append.mp member with before | notBefore
  · exact before
  · have atMost : (compare path other).isLE = true := by
      rcases List.mem_cons.mp notBefore with rfl | after
      · rw [compare_eq_eq_iff.mpr (same_refl _)]
        rfl
      · rw [(List.pairwise_cons.mp fromPath).1 other after]
        rfl
    rw [OrientedCmp.gt_of_lt less] at atMost
    cases atMost

/-- Greater than a path are those behind it. -/
theorem Increasing.mem_behind_iff {other : Path} (member : other ∈ front ++ path :: behind) :
    other ∈ behind ↔ compare path other = .lt := by
  obtain ⟨-, fromPath, between⟩ := List.pairwise_append.mp increasing
  have greater := (List.pairwise_cons.mp fromPath).1
  refine ⟨greater other, fun less => ?_⟩
  rcases List.mem_append.mp member with before | notBefore
  · have smaller := between other before path List.mem_cons_self
    rw [OrientedCmp.gt_of_lt less] at smaller
    cases smaller
  · rcases List.mem_cons.mp notBefore with rfl | after
    · rw [compare_eq_eq_iff.mpr (same_refl _)] at less
      cases less
    · exact after

end Split

/-- The list has a path with the components of the given one. -/
def Contains (paths : List Path) (path : Path) : Prop :=
  ∃ listed ∈ paths, listed.same path = true

theorem contains_dropRepeats_sort_iff :
    Contains (dropRepeats (sort paths)) path ↔ Contains paths path := by
  constructor
  · rintro ⟨listed, member, same⟩
    exact ⟨listed, mem_sort.mp ((dropRepeats_sublist _).subset member), same⟩
  · rintro ⟨found, member, same⟩
    obtain ⟨kept, isKept, keptSame⟩ := exists_same_of_mem_dropRepeats (mem_sort.mpr member)
    exact ⟨kept, isKept, same_trans keptSame same⟩

theorem mem_map_components_of_contains
    (contained : ∀ path, Contains paths path → Contains others path)
    {components : List Component} (member : components ∈ paths.map Path.components) :
    components ∈ others.map Path.components := by
  obtain ⟨path, among, rfl⟩ := List.mem_map.mp member
  obtain ⟨other, isOther, same⟩ := contained path ⟨path, among, same_refl path⟩
  exact List.mem_map.mpr ⟨other, isOther, beq_iff_eq.mp same⟩

theorem Increasing.map_components (increasing : Increasing paths) :
    (paths.map components).Pairwise fun left right => Component.compareLists left right = .lt :=
  List.pairwise_map.mpr (increasing.imp fun less => less)

/-- Paths that increase are known by what is among them. -/
theorem Increasing.components_eq (increasing : Increasing paths)
    (othersIncreasing : Increasing others)
    (alike : ∀ path, Contains paths path ↔ Contains others path) :
    paths.map components = others.map components :=
  increasing.map_components.eq_of_mem_iff othersIncreasing.map_components fun _ =>
    ⟨mem_map_components_of_contains fun path => (alike path).mp,
      mem_map_components_of_contains fun path => (alike path).mpr⟩

end Path

end EntityMapping.Files
