import Mathlib
import EntityMapping.Proofs.Catalog.Availability
import EntityMapping.Proofs.Catalog.Freshness
import EntityMapping.Proofs.Files.BoundTypes
import EntityMapping.Proofs.Files.Walk

/-!
# The classes of all files

A catalog merges the classes of all mapping files in the order of their paths, and stops at the
first file that it neither keeps nor can use.  Main statement: after any run, if the files can be
listed, each class of the merged files has its type from the greatest path that declares it, and
a failure is that of the least path that cannot be used.
-/

namespace EntityMapping

open EntityMapping.Document
open EntityMapping.Files
open EntityMapping.Text

namespace Catalog

variable {tree : Tree} {catalog : Catalog} {path : Path} {className : String}
  {type : ObjectType}

/-! ## What a catalog has for a class in a file -/

/-- A file is kept, or the compiler makes classes of it. -/
def Usable (tree : Tree) (catalog : Catalog) (path : Path) : Prop :=
  (catalog.loaded? path).isSome = true ∨ ∃ classes, readClasses tree path = .ok classes

theorem usable_iff :
    catalog.Usable tree path ↔ ∃ classes, catalog.available tree path = .ok classes := by
  unfold Usable available
  cases catalog.loaded? path <;> simp

/-- The type that a catalog has for a class in a file, if it can use the file and the class is
declared there. -/
def type? (tree : Tree) (catalog : Catalog) (className : String) (path : Path) :
    Option ObjectType :=
  (catalog.available tree path).toOption.bind (·.lookup className)

theorem type?_of_available {classes : Files.Classes}
    (usable : catalog.available tree path = .ok classes) :
    catalog.type? tree className path = classes.lookup className := by
  rw [type?, usable]
  rfl

theorem type?_congr {other : Catalog}
    (same : catalog.available tree path = other.available tree path) :
    catalog.type? tree className path = other.type? tree className path := by
  rw [type?, type?, same]

/-- Whatever a catalog has for a file is sorted by class. -/
def HasSorted (tree : Tree) (catalog : Catalog) : Prop :=
  ∀ path classes, catalog.available tree path = .ok classes → Keyed.Sorted classes

theorem sorted_of_readClasses {classes : Files.Classes}
    (read : readClasses tree path = .ok classes) : Keyed.Sorted classes := by
  obtain ⟨definitions, -, rfl⟩ := map_eq_ok_iff.mp read
  exact sorted_classesOf definitions

/-! ## Merging -/

/-- Files at different paths have been merged over given classes: a class has its type from the
last of these that declares it, all are kept, and what there is for other files is the same as
before. -/
structure Merges (tree : Tree) (catalog : Catalog) (paths : List Path)
    (merged result : Files.Classes) (next : Catalog) : Prop where
  lookup : ∀ className, result.lookup className =
    (paths.reverse.findSome? (catalog.type? tree className)).or (merged.lookup className)
  before : catalog.loaded <+: next.loaded
  kept : ∀ path ∈ paths, ∃ classes, catalog.available tree path = .ok classes ∧
    next.loaded? path = some classes
  others : ∀ other, (∀ path ∈ paths, path.same other = false) →
    next.available tree other = catalog.available tree other

theorem findSome?_congr {α β : Type} {f g : α → Option β} {items : List α}
    (same : ∀ item ∈ items, f item = g item) : items.findSome? f = items.findSome? g := by
  induction items with
  | nil => rfl
  | cons first rest ih =>
      obtain ⟨ofFirst, ofRest⟩ := List.forall_mem_cons.mp same
      rw [List.findSome?_cons, List.findSome?_cons, ofFirst, ih ofRest]

theorem Merges.cons {paths : List Path} {merged result classes : Files.Classes} {next : Catalog}
    (different : ∀ other ∈ paths, path.same other = false)
    (isUsable : catalog.available tree path = .ok classes) (sorted : Keyed.Sorted classes)
    (used : (catalog.classes tree path).1 = .ok classes)
    (behind : Merges tree (catalog.classes tree path).2 paths (Keyed.override merged classes)
      result next) :
    Merges tree catalog (path :: paths) merged result next := by
  have same : ∀ other ∈ paths, (catalog.classes tree path).2.available tree other =
      catalog.available tree other :=
    fun other member => available_classes (different other member)
  obtain ⟨compiled, compiles⟩ := compiles_classes tree path catalog
  constructor
  case lookup =>
    intro className
    have ofPaths : paths.reverse.findSome?
        ((catalog.classes tree path).2.type? tree className) =
          paths.reverse.findSome? (catalog.type? tree className) :=
      findSome?_congr fun other member => type?_congr (same other (List.mem_reverse.mp member))
    rw [behind.lookup, ofPaths, Keyed.lookup_override_of_sorted merged sorted, List.reverse_cons,
      List.findSome?_append, List.findSome?_singleton, type?_of_available isUsable, Option.or_assoc]
  case before => exact compiles.loaded_prefix.trans behind.before
  case kept =>
    refine List.forall_mem_cons.mpr ⟨⟨classes, isUsable, ?_⟩, fun other member => ?_⟩
    · exact loaded?_of_prefix behind.before (loaded?_classes used)
    · rw [← same other member]
      exact behind.kept other member
  case others =>
    intro other apart
    obtain ⟨ofPath, ofPaths⟩ := List.forall_mem_cons.mp apart
    exact (behind.others other ofPaths).trans (available_classes ofPath)

/-- Files that can be used are merged, and then whatever comes behind them. -/
theorem exists_merges {paths : List Path}
    (distinct : paths.Pairwise fun left right => left.same right = false)
    (usable : ∀ path ∈ paths, ∃ classes, catalog.available tree path = .ok classes ∧
      Keyed.Sorted classes) (merged : Files.Classes) :
    ∃ result next, Merges tree catalog paths merged result next ∧
      ∀ behind, mergeFrom tree (paths ++ behind) merged catalog =
        mergeFrom tree behind result next := by
  induction paths generalizing catalog merged with
  | nil =>
      exact ⟨merged, catalog, ⟨fun _ => rfl, List.prefix_refl _, List.forall_mem_nil _,
        fun _ _ => rfl⟩, fun _ => rfl⟩
  | cons path paths ih =>
      obtain ⟨different, distinct⟩ := List.pairwise_cons.mp distinct
      obtain ⟨⟨classes, isUsable, sorted⟩, usable⟩ := List.forall_mem_cons.mp usable
      have used : (catalog.classes tree path).1 = .ok classes := by
        rw [classes_fst, isUsable]
        rfl
      have usableNext : ∀ other ∈ paths, ∃ classes,
          (catalog.classes tree path).2.available tree other = .ok classes ∧
            Keyed.Sorted classes := by
        intro other member
        rw [available_classes (different other member)]
        exact usable other member
      obtain ⟨result, next, behind, goesOn⟩ :=
        ih distinct usableNext (Keyed.override merged classes)
      refine ⟨result, next, behind.cons different isUsable sorted used, fun others => ?_⟩
      rw [List.cons_append, mergeFrom_cons_of_ok used, goesOn]

/-- A class has its type from the greatest path that declares it. -/
theorem Merges.lookup_eq_some_iff {paths : List Path} {result : Files.Classes} {next : Catalog}
    (merges : Merges tree catalog paths [] result next) (increasing : Path.Increasing paths) :
    result.lookup className = some type ↔
      ∃ path ∈ paths, catalog.type? tree className path = some type ∧
        ∀ greater ∈ paths, path.compare greater = .lt →
          catalog.type? tree className greater = none := by
  rw [merges.lookup, List.lookup_nil, Option.or_none, List.findSome?_eq_some_iff]
  constructor
  · rintro ⟨after, path, before, split, declares, none⟩
    rw [List.reverse_eq_append_iff, List.reverse_cons, List.append_assoc] at split
    rw [split] at increasing ⊢
    refine ⟨path, by simp, declares, fun greater member less => ?_⟩
    exact none greater (List.mem_reverse.mp ((increasing.mem_behind_iff member).mpr less))
  · rintro ⟨path, member, declares, none⟩
    obtain ⟨before, after, rfl⟩ := List.append_of_mem member
    refine ⟨after.reverse, path, before.reverse, by simp, declares, fun greater among => ?_⟩
    have behind := List.mem_reverse.mp among
    have listed := List.mem_append_right before (List.mem_cons_of_mem path behind)
    exact none greater listed ((increasing.mem_behind_iff listed).mp behind)

theorem Merges.mem_keys_iff {paths : List Path} {result : Files.Classes} {next : Catalog}
    (merges : Merges tree catalog paths [] result next) :
    className ∈ result.keys ↔
      ∃ path ∈ paths, ∃ type, catalog.type? tree className path = some type := by
  rw [Keyed.mem_keys_iff, ← Option.isSome_iff_exists, merges.lookup, List.lookup_nil,
    Option.or_none, List.findSome?_isSome_iff]
  simp only [List.mem_reverse, Option.isSome_iff_exists]

/-! ## All files -/

/-- A class that is looked up has the type that there is for it in the file that is found. -/
theorem type?_of_definition
    (defined : (catalog.definition tree className).1 = .ok type)
    (found : catalog.search.find? tree className = some path) :
    catalog.type? tree className path = some type := by
  rw [definition_eq_of_find? found, classes_fst] at defined
  cases usable : catalog.available tree path with
  | error error =>
      rw [usable] at defined
      cases defined
  | ok classes =>
      rw [usable] at defined
      rw [type?_of_available usable]
      exact typeIn_eq_ok_iff.mp defined

section Definitions

variable {files : List Path} (sorted : catalog.HasSorted tree)
  (listed : catalog.search.files tree = .ok files)
include sorted listed

/-- All mapping files are merged, or else those before the first that cannot be used. -/
theorem definitions_cases :
    (∃ result next, Merges tree catalog files [] result next ∧
      catalog.definitions tree = (.ok result, next)) ∨
    ∃ front path behind error result next, files = front ++ path :: behind ∧
      Merges tree catalog front [] result next ∧ catalog.available tree path = .error error ∧
      catalog.definitions tree = (.error (.file error), (next.classes tree path).2) := by
  have distinct := (Search.increasing_files listed).not_same
  have usable : ∀ {paths : List Path},
      (∀ path ∈ paths, ∃ classes, catalog.available tree path = .ok classes) →
      ∀ path ∈ paths, ∃ classes, catalog.available tree path = .ok classes ∧
        Keyed.Sorted classes := by
    intro paths each path member
    obtain ⟨classes, isUsable⟩ := each path member
    exact ⟨classes, isUsable, sorted path classes isUsable⟩
  rw [definitions_of_files listed]
  cases used : files.mapM (catalog.available tree) with
  | ok all =>
      obtain ⟨result, next, merges, goesOn⟩ :=
        exists_merges distinct (usable (exists_ok_of_mapM_eq_ok used)) []
      refine Or.inl ⟨result, next, merges, ?_⟩
      rw [← List.append_nil files, goesOn]
      rfl
  | error error =>
      obtain ⟨front, path, behind, rfl, each, failed⟩ := mapM_eq_error_iff.mp used
      obtain ⟨distinctFront, -, apart⟩ := List.pairwise_append.mp distinct
      obtain ⟨result, next, merges, goesOn⟩ := exists_merges distinctFront (usable each) []
      refine Or.inr ⟨front, path, behind, error, result, next, rfl, merges, failed, ?_⟩
      have still : next.available tree path = .error error := by
        rw [merges.others path fun earlier member => apart earlier member path List.mem_cons_self]
        exact failed
      have fails : (next.classes tree path).1 = .error (.file error) := by
        rw [classes_fst, still]
        rfl
      rw [goesOn, mergeFrom_cons_of_error fails]

theorem merges_of_definitions {result : Files.Classes}
    (merged : (catalog.definitions tree).1 = .ok result) :
    ∃ next, Merges tree catalog files [] result next := by
  rcases definitions_cases sorted listed with ⟨_, next, merges, answer⟩ |
    ⟨_, _, _, _, _, _, -, -, -, answer⟩
  · rw [answer] at merged
    cases merged
    exact ⟨next, merges⟩
  · rw [answer] at merged
    cases merged

theorem exists_definitions_iff :
    (∃ result, (catalog.definitions tree).1 = .ok result) ↔
      ∀ path ∈ files, catalog.Usable tree path := by
  constructor
  · rintro ⟨result, merged⟩ path member
    obtain ⟨next, merges⟩ := merges_of_definitions sorted listed merged
    obtain ⟨classes, usable, -⟩ := merges.kept path member
    exact usable_iff.mpr ⟨classes, usable⟩
  · intro usable
    rcases definitions_cases sorted listed with ⟨result, next, -, answer⟩ |
      ⟨front, path, behind, error, result, next, split, -, failed, -⟩
    · exact ⟨result, congrArg Prod.fst answer⟩
    · have member : path ∈ files := by
        rw [split]
        exact List.mem_append_right _ List.mem_cons_self
      obtain ⟨classes, isUsable⟩ := usable_iff.mp (usable path member)
      rw [isUsable] at failed
      cases failed

/-- If not all files can be merged, the least that cannot be used is reported, and all that are
smaller are kept. -/
theorem least_of_definitions_error {error : CatalogError}
    (fails : (catalog.definitions tree).1 = .error error) :
    ∃ path ∈ files, ∃ fault, error = .file fault ∧
      catalog.loaded? path = none ∧ readClasses tree path = .error fault ∧
      ∀ smaller ∈ files, smaller.compare path = .lt →
        ∃ classes, catalog.available tree smaller = .ok classes ∧
          (catalog.definitions tree).2.loaded? smaller = some classes := by
  have increasing := Search.increasing_files listed
  rcases definitions_cases sorted listed with ⟨_, _, -, answer⟩ |
    ⟨front, path, behind, fault, result, next, split, merges, failed, answer⟩
  · rw [answer] at fails
    cases fails
  · rw [answer] at fails ⊢
    cases fails
    rw [split] at increasing ⊢
    obtain ⟨absent, unreadable⟩ := available_eq_error_iff.mp failed
    refine ⟨path, by simp, fault, rfl, absent, unreadable, fun smaller member less => ?_⟩
    obtain ⟨classes, usable, kept⟩ :=
      merges.kept smaller ((increasing.mem_front_iff member).mpr less)
    obtain ⟨compiled, compiles⟩ := compiles_classes tree path next
    exact ⟨classes, usable, loaded?_of_prefix compiles.loaded_prefix kept⟩

/-- A class that is looked up in a listed file, and declared by no other, is merged as it is. -/
theorem lookup_of_definition {result : Files.Classes}
    (defined : (catalog.definition tree className).1 = .ok type)
    (found : catalog.search.find? tree className = some path) (among : Path.Contains files path)
    (alone : ∀ other ∈ files, other.same path = false →
      catalog.type? tree className other = none)
    (merged : (catalog.definitions tree).1 = .ok result) :
    result.lookup className = some type := by
  obtain ⟨next, merges⟩ := merges_of_definitions sorted listed merged
  obtain ⟨spelled, member, same⟩ := among
  obtain ⟨classes, usable, -⟩ := merges.kept spelled member
  have usableFound := available_of_same usable same (List.find?_some found)
  have declares := type?_of_definition defined found
  rw [type?_of_available usableFound] at declares
  refine (merges.lookup_eq_some_iff (Search.increasing_files listed)).mpr
    ⟨spelled, member, ?_, fun greater isGreater less => alone greater isGreater ?_⟩
  · rw [type?_of_available usable]
    exact declares
  · rw [Bool.eq_false_iff]
    intro alsoSame
    have sameSpelled := Path.same_trans same (Path.same_symm alsoSame)
    rw [Path.compare_eq_eq_iff.mpr sameSpelled] at less
    cases less

end Definitions

end Catalog

/-- All that a catalog has after a run was read from files. -/
theorem World.Coherent.hasSorted {world : World} (coherent : world.Coherent) :
    world.catalog.HasSorted world.tree := by
  intro path classes usable
  rcases Catalog.available_eq_ok_iff.mp usable with kept | ⟨-, read⟩
  · obtain ⟨front, compilation, behind, -, -, outcome, -⟩ := coherent.loaded?_eq_some_iff.mp kept
    exact Catalog.sorted_of_readClasses outcome
  · exact Catalog.sorted_of_readClasses read

/-- A directory with two mapping files that both declare the class `A`. -/
def rivalsTree : Tree :=
  ⟨.directory .free [(utf8 "m", .directory .free [
    (utf8 "A.dcm.graphqls", .file (.ok "type A@Class(name:\"A\")")),
    (utf8 "B.dcm.graphqls",
      .file (.ok "type B@Class(name:\"B\")type C@Class(name:\"A\")"))])], []⟩

theorem files_rivalsTree :
    plainSearch.files rivalsTree =
      .ok [.ofText "m/A.dcm.graphqls", .ofText "m/B.dcm.graphqls"] := by
  have found : plainSearch.filesBelow rivalsTree (.ofText "m") =
      .ok [.ofText "m/A.dcm.graphqls", .ofText "m/B.dcm.graphqls"] := by
    decide
  have inOrder : Path.compare (.ofText "m/A.dcm.graphqls") (.ofText "m/B.dcm.graphqls") = .lt := by
    decide
  rw [plainSearch, Search.files_of_filesBelow found, Path.sort,
    List.mergeSort_of_pairwise (by simp [inOrder])]
  rfl

theorem readClasses_rivalsTree :
    readClasses rivalsTree (.ofText "m/A.dcm.graphqls") = .ok [("A", boundType "A" "A" 0)] ∧
      readClasses rivalsTree (.ofText "m/B.dcm.graphqls") =
        .ok [("A", boundType "C" "A" 22), ("B", boundType "B" "B" 0)] := by
  have readA : Document.read "type A@Class(name:\"A\")" = .ok [.object (boundType "A" "A" 0)] := by
    cbv
  have readB : Document.read "type B@Class(name:\"B\")type C@Class(name:\"A\")" =
      .ok [.object (boundType "B" "B" 0), .object (boundType "C" "A" 22)] := by
    cbv
  exact ⟨readClasses_of_text rfl readA, readClasses_of_text rfl readB⟩

theorem type?_new {search : Search} {tree : Tree} {path : Path} {classes : Files.Classes}
    (read : readClasses tree path = .ok classes) (className : String) :
    (Catalog.new search).type? tree className path = classes.lookup className :=
  Catalog.type?_of_available (Catalog.available_eq_ok_iff.mpr (Or.inr ⟨rfl, read⟩))

theorem definition_rivalsTree :
    plainSearch.find? rivalsTree "B" = some (.ofText "m/B.dcm.graphqls") ∧
      ((Catalog.new plainSearch).definition rivalsTree "B").1 = .ok (boundType "B" "B" 0) := by
  have isName : plainSearch.fileName "B" = "B.dcm.graphqls" := by
    cbv
  have found : plainSearch.find? rivalsTree "B" = some (.ofText "m/B.dcm.graphqls") :=
    find?_of_join isName (by decide)
  refine ⟨found, ?_⟩
  rw [Catalog.definition_new found, readClasses_rivalsTree.2]
  rfl

/-- A directory that cannot be listed. -/
def refusedTree : Tree :=
  ⟨.directory .free [(utf8 "m", .directory ⟨some .denied, none⟩ [])], []⟩

end EntityMapping
