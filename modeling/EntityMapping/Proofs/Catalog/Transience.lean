import Mathlib
import EntityMapping.Proofs.Catalog.Availability
import EntityMapping.Proofs.Catalog.Freshness
import EntityMapping.Proofs.Settings.Reevaluation
import EntityMapping.Proofs.Settings.TrueFaults

/-!
# Classes that are never stored on their own

Whether objects of a class are never stored on their own can be asked of a catalog, and follows
from what it loads for the class.  Main statement: both agree, whatever the catalog keeps and
in whichever order it is asked.
-/

namespace EntityMapping

open EntityMapping.Document
open EntityMapping.Files
open EntityMapping.Record
open EntityMapping.Settings
open EntityMapping.Text

/-! ## Kinds of classes -/

namespace Settings

variable {directives : List Directive}

/-- The kind that is read is embeddable just if the type is declared as neither of the others:
these go before it. -/
theorem ClassSettings.isEmbeddable_of_readKind {settings : KindSettings}
    (read : readKind directives = .ok settings) :
    decide (settings.entityKind = .embeddable) =
      (!Marker.entity.isAmong directives && !Marker.mappedSuperclass.isAmong directives) := by
  unfold Marker.isAmong
  unfold readKind at read
  split at read
  · rename_i directive isEntity
    obtain ⟨repositoryClass, -, read⟩ := bind_eq_ok_iff.mp read
    obtain ⟨readOnly, -, read⟩ := bind_eq_ok_iff.mp read
    cases read
    rw [isEntity]
    rfl
  · rename_i noEntity
    rw [noEntity]
    split at read
    · rename_i directive isSuperclass
      obtain ⟨repositoryClass, -, read⟩ := bind_eq_ok_iff.mp read
      cases read
      rw [isSuperclass]
      rfl
    · rename_i noSuperclass
      rw [noSuperclass]
      split at read
      · cases read
        rfl
      · cases read

variable {className : String} {type : ObjectType} {record : ClassMapping}

/-- Fields leave the kind of the class as it is. -/
theorem isEmbeddable_of_evaluate {loaded : ClassMapping}
    (evaluated : evaluate className type record = .ok loaded) :
    decide (loaded.kind = .embeddable) =
      (!Marker.entity.isAmong type.directives &&
        !Marker.mappedSuperclass.isAmong type.directives) := by
  obtain ⟨settings, read, rfl⟩ := evaluate_eq_ok_iff.mp evaluated
  obtain ⟨ofClass, readClass, read⟩ := bind_eq_ok_iff.mp read
  obtain ⟨ofFields, -, read⟩ := bind_eq_ok_iff.mp read
  cases read
  have sameClass := (FieldSettings.applyAll_same (.refl (ofClass.apply className record))
    ofFields).1
  have isKind : (ofClass.apply className record).kind = ofClass.kind.entityKind := by
    rw [ClassSettings.apply_eq]
  rw [TypeSettings.apply, sameClass.kind, isKind]
  exact ClassSettings.isEmbeddable_of_readKind
    (ClassSettings.readFrom_of_ofDirectives readClass).kind

/-- A type without a kind is declared as nothing: no field has this fault. -/
theorem no_kind_of_evaluate {error : EvaluationError}
    (failed : evaluate className type record = .error error) (noKind : error.fault = .noKind) :
    Marker.entity.isAmong type.directives = false ∧
      Marker.mappedSuperclass.isAmong type.directives = false := by
  have ofType : FailsOnly (fun fault => fault = .noKind → TrueOfClass type.directives fault)
      (TypeSettings.ofType type) := by
    refine .bind (ClassSettings.ofDirectives_failsOnly.mono fun _ isTrue _ => isTrue) fun _ _ => ?_
    refine .bind (.mapM fun field _ => ?_) fun _ _ => .ok _
    refine (FieldSettings.ofField_failsOnly field).mono fun fault isTrue isNoKind => ?_
    rw [isNoKind] at isTrue
    obtain ⟨name, directive, -, never⟩ := isTrue
    exact never.elim
  unfold evaluate at failed
  split at failed
  · cases failed
  · rename_i fault isFault
    cases failed
    have isTrue := ofType fault isFault noKind
    obtain rfl : fault = .noKind := noKind
    have absent : ∀ marker ∈ [Marker.entity, .mappedSuperclass, .embeddable],
        ¬ marker.isAmong type.directives := isTrue
    exact ⟨Bool.eq_false_iff.mpr (absent _ (by decide)),
      Bool.eq_false_iff.mpr (absent _ (by decide))⟩

end Settings

/-! ## Loading and asking -/

/-- An error of loading by which objects of the class are not stored on their own: there is no
file for the class, no type in the file, or the type is of no kind. -/
def CatalogError.IsAbsence : CatalogError → Prop
  | .noFile _ _ => True
  | .noClass _ _ => True
  | .file _ => False
  | .scan _ => False
  | .evaluation error => error.fault = .noKind

namespace Catalog

variable {tree : Tree} {catalog : Catalog} {className : String} {record : ClassMapping}

/-- A look-up evaluates nothing. -/
theorem definition_ne_evaluation (error : EvaluationError) :
    (catalog.definition tree className).1 ≠ .error (.evaluation error) := by
  intro failed
  cases found : catalog.search.find? tree className with
  | none =>
      rw [definition, found] at failed
      cases failed
  | some path =>
      rw [definition_eq_of_find? found, classes_fst] at failed
      cases usable : catalog.available tree path with
      | error other =>
          rw [usable] at failed
          cases failed
      | ok classes =>
          rw [usable] at failed
          change typeIn className path classes = _ at failed
          unfold typeIn at failed
          cases declared : classes.lookup className with
          | none =>
              rw [declared] at failed
              cases failed
          | some type =>
              rw [declared] at failed
              cases failed

/-- Loading fails as the look-up does, or else with the error of the evaluation. -/
theorem load_eq_error_iff {error : CatalogError} :
    (catalog.load tree className record).1 = .error error ↔
      (catalog.definition tree className).1 = .error error ∨
        ∃ type fault, (catalog.definition tree className).1 = .ok type ∧
          evaluate className type record = .error fault ∧ error = .evaluation fault := by
  rw [load_eq]
  cases (catalog.definition tree className).1 with
  | error other => simp [Except.bind]
  | ok type =>
      cases evaluated : evaluate className type record with
      | error fault => simp [Except.bind, Except.mapError, evaluated, eq_comm]
      | ok loaded => simp [Except.bind, Except.mapError, evaluated]

theorem isTransient_of_loaded {loaded : ClassMapping}
    (succeeds : (catalog.load tree className record).1 = .ok loaded) :
    (catalog.isTransient tree className).1 = .ok (decide (loaded.kind = .embeddable)) := by
  rw [load_eq] at succeeds
  rw [isTransient_eq]
  cases defined : (catalog.definition tree className).1 with
  | error error =>
      rw [defined] at succeeds
      cases succeeds
  | ok type =>
      rw [defined] at succeeds
      rw [isEmbeddable_of_evaluate (mapError_eq_ok_iff.mp succeeds)]
      rfl

theorem isTransient_of_absence {error : CatalogError}
    (fails : (catalog.load tree className record).1 = .error error) (absence : error.IsAbsence) :
    (catalog.isTransient tree className).1 = .ok true := by
  rw [isTransient_eq]
  rcases load_eq_error_iff.mp fails with notDefined | ⟨type, fault, defined, failed, rfl⟩
  · rw [notDefined]
    cases error with
    | noFile className extension => rfl
    | noClass className path => rfl
    | file error => exact absence.elim
    | scan error => exact absence.elim
    | evaluation error => exact absurd notDefined (definition_ne_evaluation error)
  · obtain ⟨noEntity, noSuperclass⟩ := no_kind_of_evaluate failed absence
    rw [defined, transience, noEntity, noSuperclass]
    rfl

theorem isTransient_of_file_error {error : FileError}
    (fails : (catalog.load tree className record).1 = .error (.file error)) :
    (catalog.isTransient tree className).1 = .error (.file error) := by
  rw [isTransient_eq]
  rcases load_eq_error_iff.mp fails with notDefined | ⟨type, fault, -, -, isEvaluation⟩
  · rw [notDefined]
    rfl
  · cases isEvaluation

/-- Whatever a catalog keeps, objects of a class that it loads are never stored on their own just
if the class is embeddable; so are those of a class for which there is no file, no type in the
file, or no kind; and a file that cannot be used is reported by both calls.  Neither call changes
what the other answers. -/
theorem isTransient_agrees_with_load (tree : Tree) (catalog : Catalog) (className : String)
    (record : ClassMapping) :
    (∀ loaded, (catalog.load tree className record).1 = .ok loaded →
      (catalog.isTransient tree className).1 = .ok (decide (loaded.kind = .embeddable))) ∧
    (∀ error, (catalog.load tree className record).1 = .error error → error.IsAbsence →
      (catalog.isTransient tree className).1 = .ok true) ∧
    (∀ error, (catalog.load tree className record).1 = .error (.file error) →
      (catalog.isTransient tree className).1 = .error (.file error)) ∧
    ((catalog.load tree className record).2.isTransient tree className).1 =
      (catalog.isTransient tree className).1 ∧
    ((catalog.isTransient tree className).2.load tree className record).1 =
      (catalog.load tree className record).1 := by
  obtain ⟨ofLoad, afterLoad⟩ := compiles_load tree className record catalog
  obtain ⟨ofIsTransient, afterIsTransient⟩ := compiles_isTransient tree className catalog
  exact ⟨fun _ => isTransient_of_loaded, fun _ => isTransient_of_absence,
    fun _ => isTransient_of_file_error, afterLoad.isTransient_eq className,
    afterIsTransient.load_eq className record⟩

/-! ## Three mapping files -/

/-- A directory with files for an embeddable, for a type of no kind, and without a text. -/
def kindsTree : Tree :=
  ⟨.directory .free [(utf8 "m", .directory .free [
    (utf8 "A.dcm.graphqls", .file (.ok "type A@Class(name:\"A\")@Embeddable")),
    (utf8 "B.dcm.graphqls", .file (.ok "type B@Class(name:\"B\")")),
    (utf8 "C.dcm.graphqls", .file (.error .notText))])], []⟩

/-- The type in the first file. -/
def embeddableType : ObjectType :=
  ⟨none, "A", [], [⟨"Class", [⟨"name", .string "A", ⟨13, 21⟩⟩], ⟨6, 22⟩⟩,
    ⟨"Embeddable", [], ⟨22, 33⟩⟩], [], ⟨0, 33⟩⟩

theorem definition_kindsTree {text : String} {path : Path} {type : ObjectType}
    (found : plainSearch.find? kindsTree className = some path)
    (isText : kindsTree.readText path = .ok text)
    (read : Document.read text = .ok [.object type])
    (declares : (classesOf [.object type]).lookup className = some type) :
    ((Catalog.new plainSearch).definition kindsTree className).1 = .ok type := by
  rw [definition_new found, readClasses_of_text isText read]
  exact typeIn_eq_ok_iff.mpr declares

theorem load_kindsTree :
    ((Catalog.new plainSearch).load kindsTree "A" (.empty "A")).1 =
        .ok { ClassMapping.empty "A" with kind := .embeddable } ∧
      ((Catalog.new plainSearch).load kindsTree "B" (.empty "B")).1 =
        .error (.evaluation ⟨"B", .noKind⟩) ∧
      ((Catalog.new plainSearch).load kindsTree "C" (.empty "C")).1 =
        .error (.file (.unreadable (.ofText "m/C.dcm.graphqls") .notText)) := by
  have nameA : plainSearch.fileName "A" = "A.dcm.graphqls" := by cbv
  have nameB : plainSearch.fileName "B" = "B.dcm.graphqls" := by cbv
  have nameC : plainSearch.fileName "C" = "C.dcm.graphqls" := by cbv
  have readA : Document.read "type A@Class(name:\"A\")@Embeddable" =
      .ok [.object embeddableType] := by
    cbv
  have readB : Document.read "type B@Class(name:\"B\")" = .ok [.object (boundType "B" "B" 0)] := by
    cbv
  have foundA : plainSearch.find? kindsTree "A" = some (.ofText "m/A.dcm.graphqls") :=
    find?_of_join nameA (by decide)
  have foundB : plainSearch.find? kindsTree "B" = some (.ofText "m/B.dcm.graphqls") :=
    find?_of_join nameB (by decide)
  have foundC : plainSearch.find? kindsTree "C" = some (.ofText "m/C.dcm.graphqls") :=
    find?_of_join nameC (by decide)
  refine ⟨?_, ?_, ?_⟩
  · rw [load_eq, definition_kindsTree foundA rfl readA rfl]
    rfl
  · rw [load_eq, definition_kindsTree foundB rfl readB rfl]
    rfl
  · rw [load_eq, definition_new foundC]
    rfl

theorem transience_kindsTree :
    ((Catalog.new plainSearch).isTransient kindsTree "A").1 = .ok true ∧
      ((Catalog.new plainSearch).isTransient kindsTree "B").1 = .ok true ∧
      ((Catalog.new plainSearch).isTransient kindsTree "C").1 =
        .error (.file (.unreadable (.ofText "m/C.dcm.graphqls") .notText)) := by
  obtain ⟨loaded, kindless, unreadable⟩ := load_kindsTree
  refine ⟨?_, ?_, ?_⟩
  · exact (isTransient_agrees_with_load kindsTree (.new plainSearch) "A" _).1 _ loaded
  · exact (isTransient_agrees_with_load kindsTree (.new plainSearch) "B" _).2.1 _ kindless rfl
  · exact (isTransient_agrees_with_load kindsTree (.new plainSearch) "C" _).2.2.1 _ unreadable

end Catalog

end EntityMapping
