import EntityMapping.Proofs.Catalog.Coherence
import EntityMapping.Proofs.Files.Location

/-!
# What a catalog has for a file

For a file, a catalog has the classes that it keeps, or else those that the file declares now.
For a file that can be opened, these stay the same when the compiler is asked for files.  So, as
long as the files do not change, a question about one class has the same answer before and after
any other questions, even if the catalog keeps what files declared long ago.
-/

namespace EntityMapping

open EntityMapping.Document
open EntityMapping.Files
open EntityMapping.Record

namespace Catalog

variable {tree : Tree} {catalog final : Catalog} {path other : Path} {classes : Files.Classes}

/-! ## Classes and errors at hand -/

/-- The classes that a catalog keeps of a file, or else what the compiler makes of it. -/
def available (tree : Tree) (catalog : Catalog) (path : Path) : Except FileError Files.Classes :=
  match catalog.loaded? path with
  | some classes => .ok classes
  | none => readClasses tree path

theorem available_eq_ok_iff :
    catalog.available tree path = .ok classes ↔
      catalog.loaded? path = some classes ∨
        catalog.loaded? path = none ∧ readClasses tree path = .ok classes := by
  unfold available
  cases catalog.loaded? path <;> simp

theorem available_eq_error_iff {error : FileError} :
    catalog.available tree path = .error error ↔
      catalog.loaded? path = none ∧ readClasses tree path = .error error := by
  unfold available
  cases catalog.loaded? path <;> simp

theorem classes_fst (tree : Tree) (path : Path) (catalog : Catalog) :
    (catalog.classes tree path).1 = (catalog.available tree path).mapError .file := by
  rcases classes_cases tree path catalog with ⟨classes, kept, result⟩ | ⟨absent, result⟩
  · rw [result, available, kept]
    rfl
  · rw [result, available, absent]

/-- A file that has been used is kept. -/
theorem loaded?_classes (used : (catalog.classes tree path).1 = .ok classes) :
    (catalog.classes tree path).2.loaded? path = some classes := by
  rcases classes_cases tree path catalog with ⟨found, kept, result⟩ | ⟨absent, result⟩
  · rw [result] at used ⊢
    cases used
    exact kept
  · rw [result] at used ⊢
    have read : readClasses tree path = .ok classes := mapError_eq_ok_iff.mp used
    rw [loaded?_afterCompiling, absent, read, Path.same_refl]
    rfl

theorem definition_new {search : Search} {className : String}
    (found : search.find? tree className = some path) :
    ((Catalog.new search).definition tree className).1 =
      ((readClasses tree path).mapError .file).bind (typeIn className path) := by
  have isFound : (Catalog.new search).search.find? tree className = some path := found
  rw [definition_eq_of_find? isFound, classes_fst]
  rfl

/-- What there is for a file under one spelling of its path there is under every other by which
it can be opened. -/
theorem available_of_same (usable : catalog.available tree path = .ok classes)
    (same : path.same other = true) (isFile : tree.isFile other = true) :
    catalog.available tree other = .ok classes := by
  have kept : catalog.loaded? other = catalog.loaded? path := by
    unfold loaded? Path.same
    rw [beq_iff_eq.mp same]
  refine available_eq_ok_iff.mpr ?_
  rw [kept]
  refine (available_eq_ok_iff.mp usable).imp_right fun unkept => ⟨unkept.1, ?_⟩
  exact readClasses_of_names (Tree.names_of_same same) unkept.2 isFile

/-! ## Further compilations -/

/-- The compiler may be asked for the same file under another spelling.  What is kept then is
what the file declares. -/
theorem available_afterCompiling (opened : path.same other = true → tree.isFile other = true) :
    (catalog.afterCompiling tree path).available tree other = catalog.available tree other := by
  unfold available
  rw [loaded?_afterCompiling]
  cases catalog.loaded? other with
  | some classes => rfl
  | none =>
      cases same : path.same other with
      | false => rfl
      | true =>
          cases outcome : readClasses tree path with
          | error error => rfl
          | ok classes =>
              have read := readClasses_of_names (Tree.names_of_same same) outcome (opened same)
              exact read.symm

theorem Compiles.available_eq {paths : List Path} (compiles : Compiles tree catalog paths final)
    (isFile : tree.isFile path = true) :
    final.available tree path = catalog.available tree path := by
  induction compiles with
  | nil catalog => rfl
  | cons absent behind ih => exact ih.trans (available_afterCompiling fun _ => isFile)

/-- Using a file leaves what there is for other files. -/
theorem available_classes (different : path.same other = false) :
    (catalog.classes tree path).2.available tree other = catalog.available tree other := by
  rcases classes_cases tree path catalog with ⟨classes, -, result⟩ | ⟨-, result⟩
  · rw [result]
  · rw [result]
    exact available_afterCompiling fun same => by cases different.symm.trans same

/-! ## Questions about one class -/

section Questions

variable {paths : List Path} (compiles : Compiles tree catalog paths final)
include compiles

/-- The file that is found can be opened. -/
theorem Compiles.definition_eq (className : String) :
    (final.definition tree className).1 = (catalog.definition tree className).1 := by
  have sameSearch := compiles.search_eq
  cases found : catalog.search.find? tree className with
  | none => rw [definition, definition, sameSearch, found]
  | some path =>
      have same := compiles.available_eq (List.find?_some found)
      rw [definition_eq_of_find? found, definition_eq_of_find? (sameSearch ▸ found),
        classes_fst, classes_fst, same]

theorem Compiles.load_eq (className : String) (record : ClassMapping) :
    (final.load tree className record).1 = (catalog.load tree className record).1 := by
  rw [Catalog.load_eq, Catalog.load_eq, compiles.definition_eq]

theorem Compiles.isTransient_eq (className : String) :
    (final.isTransient tree className).1 = (catalog.isTransient tree className).1 := by
  rw [Catalog.isTransient_eq, Catalog.isTransient_eq, compiles.definition_eq]

end Questions

end Catalog

end EntityMapping
