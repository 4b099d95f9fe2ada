import EntityMapping.Proofs.Settings.Contribution
import Mathlib.Data.List.Forall2

/-!
# Fields are evaluated independently

Main statement: what the evaluation of a type comes to can be put together from the
evaluation of the type without fields and of the type with each of its fields alone.
-/

namespace EntityMapping.Record

namespace MappingStep

/-- The name that a call adds to the identifier. -/
def identifier? (step : MappingStep) : Option String :=
  if step.isId then some step.fieldName else none

end MappingStep

namespace ClassMapping

/-- The record of a new class with what the given calls store, one after another. -/
def listing (className : String) (steps : List MappingStep) : ClassMapping :=
  { empty className with
    columns := steps.filterMap MappingStep.column?
    associations := steps.filterMap MappingStep.association?
    embedded := steps.filterMap MappingStep.embedded?
    identifier := steps.filterMap MappingStep.identifier? }

variable {className : String} {steps : List MappingStep} {step : MappingStep}

/-- What a list of the record has for a field has been stored by a call for the field. -/
theorem not_mem_names_filterMap {α : Type} {part? : MappingStep → Option α} {name : α → String}
    (named : ∀ earlier, ∀ entry ∈ part? earlier, name entry = earlier.fieldName)
    (fresh : step.fieldName ∉ steps.map MappingStep.fieldName) :
    step.fieldName ∉ (steps.filterMap part?).map name := by
  intro member
  obtain ⟨entry, listed, same⟩ := List.mem_map.mp member
  obtain ⟨earlier, among, stored⟩ := List.mem_filterMap.mp listed
  exact fresh (List.mem_map.mpr ⟨earlier, among, (named earlier entry stored).symm.trans same⟩)

theorem addIdentifier_listing (fresh : step.fieldName ∉ steps.map MappingStep.fieldName) :
    ((listing className steps).addIdentifier step.isId step.fieldName).identifier =
      (listing className (steps ++ [step])).identifier := by
  have absent : step.fieldName ∉ steps.filterMap MappingStep.identifier? := by
    have named : ∀ earlier : MappingStep, ∀ entry ∈ earlier.identifier?,
        id entry = earlier.fieldName := by
      intro earlier entry listed
      rw [MappingStep.identifier?] at listed
      split at listed
      · cases listed
        rfl
      · cases listed
    simpa using not_mem_names_filterMap named fresh
  rw [listing, listing, List.filterMap_append]
  cases flagged : step.isId with
  | false => simp [addIdentifier, MappingStep.identifier?, flagged]
  | true => simp [addIdentifier, MappingStep.identifier?, flagged, absent]

/-- A call for a field that has not been mapped stores behind everything else. -/
theorem apply_listing (fresh : step.fieldName ∉ steps.map MappingStep.fieldName) :
    (step.apply (listing className steps)).SameFields (listing className (steps ++ [step])) := by
  cases step with
  | column mapped =>
      have absent : mapped.fieldName ∉ (steps.filterMap MappingStep.column?).map Column.fieldName :=
        not_mem_names_filterMap (by rintro (_ | _ | _) entry ⟨⟩; rfl) fresh
      refine ⟨?_, ?_, ?_, addIdentifier_listing fresh⟩
      · rw [MappingStep.apply, columns_mapColumn, listing, Named.put_of_not_mem absent]
        simp [listing, MappingStep.column?]
      · simp [MappingStep.apply, associations_mapColumn, listing, MappingStep.association?]
      · simp [MappingStep.apply, embedded_mapColumn, listing, MappingStep.embedded?]
  | association mapped =>
      have absent : mapped.fieldName ∉
          (steps.filterMap MappingStep.association?).map Association.fieldName :=
        not_mem_names_filterMap (by rintro (_ | _ | _) entry ⟨⟩; rfl) fresh
      refine ⟨?_, ?_, ?_, addIdentifier_listing fresh⟩
      · simp [MappingStep.apply, columns_mapAssociation, listing, MappingStep.column?]
      · rw [MappingStep.apply, associations_mapAssociation, listing,
          Named.put_of_not_mem absent]
        simp [listing, MappingStep.association?]
      · simp [MappingStep.apply, embedded_mapAssociation, listing, MappingStep.embedded?]
  | embedded mapped =>
      have absent : mapped.fieldName ∉
          (steps.filterMap MappingStep.embedded?).map Embedded.fieldName :=
        not_mem_names_filterMap (by rintro (_ | _ | _) entry ⟨⟩; rfl) fresh
      refine ⟨?_, ?_, ?_, addIdentifier_listing fresh⟩
      · simp [MappingStep.apply, mapEmbedded, listing, MappingStep.column?]
      · simp [MappingStep.apply, mapEmbedded, listing, MappingStep.association?]
      · rw [MappingStep.apply, mapEmbedded, listing, Named.put_of_not_mem absent]
        simp [listing, MappingStep.embedded?]

/-- Calls for different fields store one behind the other. -/
theorem mapAll_sameFields_listing (className : String)
    (distinct : (steps.map MappingStep.fieldName).Nodup) :
    (mapAll steps (.empty className)).SameFields (listing className steps) := by
  induction steps using List.reverseRecOn with
  | nil => exact ⟨rfl, rfl, rfl, rfl⟩
  | append_singleton steps last ih =>
      rw [List.map_append, List.nodup_append] at distinct
      obtain ⟨distinctBefore, -, apart⟩ := distinct
      have fresh : last.fieldName ∉ steps.map MappingStep.fieldName :=
        fun member => apart _ member _ List.mem_cons_self rfl
      rw [mapAll_append_singleton]
      exact ((ih distinctBefore).apply last).trans (apply_listing fresh)

end ClassMapping

end EntityMapping.Record

namespace EntityMapping.Settings

open EntityMapping.Document
open EntityMapping.Record

section Independence

variable {className : String} {type : ObjectType}

/-- A list that is made of the contributions of all fields is made field by field. -/
theorem filterMap_contributions {α : Type} (record : ClassMapping)
    (part? : MappingStep → Option α) (fields : List Field) :
    (fields.filterMap (contribution? record)).filterMap part? =
      fields.flatMap fun field => (contribution? record field).toList.filterMap part? := by
  induction fields with
  | nil => rfl
  | cons field fields ih =>
      rw [List.flatMap_cons, ← ih]
      cases contributed : contribution? record field with
      | none => rw [List.filterMap_cons_none contributed, Option.toList_none, List.filterMap_nil,
          List.nil_append]
      | some step => rw [List.filterMap_cons_some contributed, Option.toList_some,
          ← List.filterMap_append, List.singleton_append]

/-- What is listed item by item is listed result by result. -/
theorem flatMap_of_forall₂ {α β γ : Type} {ofItem : α → List γ} {ofResult : β → List γ}
    {items : List α} {results : List β}
    (each : List.Forall₂ (fun item result => ofResult result = ofItem item) items results) :
    items.flatMap ofItem = results.flatMap ofResult := by
  induction each with
  | nil => rfl
  | cons same _ ih => rw [List.flatMap_cons, List.flatMap_cons, same, ih]

/-- Fields with different names contribute calls for different fields. -/
theorem nodup_contributions {fields : List Field} (record : ClassMapping)
    (distinct : (fields.map Field.name).Nodup) :
    ((fields.filterMap (contribution? record)).map MappingStep.fieldName).Nodup := by
  refine distinct.sublist ?_
  induction fields with
  | nil => exact .slnil
  | cons field fields ih =>
      rw [List.map_cons, List.nodup_cons] at distinct
      cases contributed : contribution? record field with
      | none =>
          rw [List.filterMap_cons_none contributed]
          exact (ih distinct.2).cons _
      | some step =>
          rw [List.filterMap_cons_some contributed, List.map_cons, List.map_cons,
            fieldName_of_contribution? contributed]
          exact (ih distinct.2).cons_cons _

/-- The record of a type with a single field lists what that field contributes. -/
theorem single_sameFields_listing {field : Field} {base alone : ClassMapping}
    (evaluatedBase : evaluateNew className (type.withFields []) = .ok base)
    (evaluated : evaluateNew className (type.withFields [field]) = .ok alone) :
    alone.SameFields (.listing className (contribution? base field).toList) := by
  refine (evaluateNew_single evaluatedBase evaluated).trans
    (ClassMapping.mapAll_sameFields_listing className ?_)
  cases contribution? base field with
  | none => exact .nil
  | some step => exact List.nodup_cons.mpr ⟨List.not_mem_nil, .nil⟩

/-- A type fails like the type without fields, or else like the first field that fails. -/
theorem fails_iff {error : EvaluationError} :
    evaluateNew className type = .error error ↔
      evaluateNew className (type.withFields []) = .error error ∨
        Evaluates className (type.withFields []) ∧
          ∃ fault, error = ⟨className, fault⟩ ∧
            type.fields.mapM FieldSettings.ofField = .error fault := by
  have class_fails : evaluateNew className (type.withFields []) = .error error ↔
      ∃ fault, error = ⟨className, fault⟩ ∧
        ClassSettings.ofDirectives type.directives = .error fault := by
    rw [evaluateNew_eq_error_iff]
    constructor
    · rintro ⟨fault, rfl, failed | ⟨-, none⟩⟩
      · exact ⟨fault, rfl, failed⟩
      · cases none
    · rintro ⟨fault, rfl, failed⟩
      exact ⟨fault, rfl, Or.inl failed⟩
  have class_read : Evaluates className (type.withFields []) ↔
      ∃ ofClass, ClassSettings.ofDirectives type.directives = .ok ofClass := by
    constructor
    · rintro ⟨base, evaluated⟩
      obtain ⟨ofClass, read, -⟩ := evaluateNew_withFields_nil.mp evaluated
      exact ⟨ofClass, read⟩
    · rintro ⟨ofClass, read⟩
      exact ⟨_, evaluateNew_withFields_nil.mpr ⟨ofClass, read, rfl⟩⟩
  rw [evaluateNew_eq_error_iff, class_fails, class_read]
  constructor
  · rintro ⟨fault, rfl, failed | ⟨read, failed⟩⟩
    · exact Or.inl ⟨fault, rfl, failed⟩
    · exact Or.inr ⟨read, fault, rfl, failed⟩
  · rintro (⟨fault, rfl, failed⟩ | ⟨read, fault, rfl, failed⟩)
    · exact ⟨fault, rfl, Or.inl failed⟩
    · exact ⟨fault, rfl, Or.inr ⟨read, failed⟩⟩

/-- Where the class can be read, a type with a single field fails like the field. -/
theorem single_fails_iff {field : Field} {error : EvaluationError}
    (evaluates : Evaluates className (type.withFields [])) :
    evaluateNew className (type.withFields [field]) = .error error ↔
      ∃ fault, error = ⟨className, fault⟩ ∧ FieldSettings.ofField field = .error fault := by
  obtain ⟨base, evaluated⟩ := evaluates
  have ofSingle : ∀ fault, [field].mapM FieldSettings.ofField = .error fault ↔
      FieldSettings.ofField field = .error fault := by
    intro fault
    rw [List.mapM_cons, bind_eq_error_iff]
    constructor
    · rintro (failed | ⟨settings, -, made⟩)
      · exact failed
      · cases made
    · exact Or.inl
  rw [fails_iff]
  constructor
  · rintro (failed | ⟨-, fault, rfl, failed⟩)
    · cases evaluated.symm.trans failed
    · exact ⟨fault, rfl, (ofSingle fault).mp failed⟩
  · rintro ⟨fault, rfl, failed⟩
    exact Or.inr ⟨⟨base, evaluated⟩, fault, rfl, (ofSingle fault).mpr failed⟩

/-- A type fails like the type without fields, or else like the type with the first field
that cannot be evaluated alone. -/
theorem fails_like_first {error : EvaluationError} :
    evaluateNew className type = .error error ↔
      evaluateNew className (type.withFields []) = .error error ∨
        Evaluates className (type.withFields []) ∧
          ∃ before field behind, type.fields = before ++ field :: behind ∧
            (∀ earlier ∈ before, Evaluates className (type.withFields [earlier])) ∧
            evaluateNew className (type.withFields [field]) = .error error := by
  rw [fails_iff]
  refine or_congr_right (and_congr_right fun evaluates => ?_)
  constructor
  · rintro ⟨fault, rfl, failed⟩
    obtain ⟨before, field, behind, split, succeed, fails⟩ := mapM_eq_error_iff.mp failed
    exact ⟨before, field, behind, split,
      fun earlier among => evaluates_single_iff.mpr ⟨evaluates, succeed earlier among⟩,
      (single_fails_iff evaluates).mpr ⟨fault, rfl, fails⟩⟩
  · rintro ⟨before, field, behind, split, succeed, fails⟩
    obtain ⟨fault, rfl, failed⟩ := (single_fails_iff evaluates).mp fails
    exact ⟨fault, rfl, mapM_eq_error_iff.mpr ⟨before, field, behind, split,
      fun earlier among => (evaluates_single_iff.mp (succeed earlier among)).right, failed⟩⟩

/-- The record of a type lists what the records of its fields list. -/
theorem record_lists {record : ClassMapping} (distinct : (type.fields.map Field.name).Nodup)
    (evaluated : evaluateNew className type = .ok record) :
    ∃ base records, evaluateNew className (type.withFields []) = .ok base ∧
      type.fields.mapM (fun field => evaluateNew className (type.withFields [field])) =
        .ok records ∧
      record.columns = records.flatMap ClassMapping.columns ∧
      record.associations = records.flatMap ClassMapping.associations ∧
      record.embedded = records.flatMap ClassMapping.embedded ∧
      record.identifier = records.flatMap ClassMapping.identifier ∧
      record.SameClass base := by
  obtain ⟨base, evaluatedBase, sameClass, contributed⟩ := evaluateNew_contributions evaluated
  have listed := contributed.trans
    (ClassMapping.mapAll_sameFields_listing className (nodup_contributions base distinct))
  obtain ⟨evaluatesBase, eachRead⟩ := evaluates_iff.mp ⟨record, evaluated⟩
  have lists : ∀ field ∈ type.fields, ∃ alone,
      evaluateNew className (type.withFields [field]) = .ok alone ∧
        alone.SameFields (.listing className (contribution? base field).toList) := by
    intro field among
    obtain ⟨alone, evaluatedAlone⟩ :=
      evaluates_single_iff.mpr ⟨evaluatesBase, eachRead field among⟩
    exact ⟨alone, evaluatedAlone, single_sameFields_listing evaluatedBase evaluatedAlone⟩
  obtain ⟨records, made, each⟩ := exists_mapM_eq_ok lists
  refine ⟨base, records, evaluatedBase, made, ?_, ?_, ?_, ?_, sameClass⟩
  · exact listed.columns.trans ((filterMap_contributions base _ _).trans
      (flatMap_of_forall₂ (each.imp fun _ _ same => same.columns)))
  · exact listed.associations.trans ((filterMap_contributions base _ _).trans
      (flatMap_of_forall₂ (each.imp fun _ _ same => same.associations)))
  · exact listed.embedded.trans ((filterMap_contributions base _ _).trans
      (flatMap_of_forall₂ (each.imp fun _ _ same => same.embedded)))
  · exact listed.identifier.trans ((filterMap_contributions base _ _).trans
      (flatMap_of_forall₂ (each.imp fun _ _ same => same.identifier)))

/-- Fields with different names do not interfere.  The type is evaluated just if it is
without fields and with each field alone, and otherwise fails with the error of the type
without fields, or else of the first field that fails.  Its record lists what the records
of the fields list, in the order of the fields, and says about the class as a whole what the
record of the type without fields says. -/
theorem fields_independent (distinct : (type.fields.map Field.name).Nodup) :
    (Evaluates className type ↔ Evaluates className (type.withFields []) ∧
      ∀ field ∈ type.fields, Evaluates className (type.withFields [field])) ∧
    (∀ error, evaluateNew className type = .error error ↔
      evaluateNew className (type.withFields []) = .error error ∨
        Evaluates className (type.withFields []) ∧
          ∃ before field behind, type.fields = before ++ field :: behind ∧
            (∀ earlier ∈ before, Evaluates className (type.withFields [earlier])) ∧
            evaluateNew className (type.withFields [field]) = .error error) ∧
    ∀ record, evaluateNew className type = .ok record →
      ∃ base records, evaluateNew className (type.withFields []) = .ok base ∧
        type.fields.mapM (fun field => evaluateNew className (type.withFields [field])) =
          .ok records ∧
        record.columns = records.flatMap ClassMapping.columns ∧
        record.associations = records.flatMap ClassMapping.associations ∧
        record.embedded = records.flatMap ClassMapping.embedded ∧
        record.identifier = records.flatMap ClassMapping.identifier ∧
        record.SameClass base := by
  refine ⟨?_, fun error => fails_like_first, fun record => record_lists distinct⟩
  rw [evaluates_iff]
  refine and_congr_right fun evaluates => forall₂_congr fun field _ => ?_
  rw [evaluates_single_iff]
  exact (and_iff_right evaluates).symm

end Independence

/-- A type with a key, an association that is cached, a field that is not stored and an
embedded value. -/
def purchaseType : ObjectType :=
  ⟨none, "Purchase", [], [⟨"Entity", [], ⟨0, 0⟩⟩, ⟨"Cache", [], ⟨0, 0⟩⟩],
    [⟨none, "number", [], .named "ID",
        [⟨"Id", [], ⟨0, 0⟩⟩, ⟨"Column", [], ⟨0, 0⟩⟩], ⟨0, 0⟩⟩,
      ⟨none, "buyer", [], .named "ID",
        [⟨"ManyToOne", [⟨"targetEntity", .string "Buyer", ⟨0, 0⟩⟩], ⟨0, 0⟩⟩,
          ⟨"Cache", [], ⟨0, 0⟩⟩], ⟨0, 0⟩⟩,
      ⟨none, "note", [], .named "String", [], ⟨0, 0⟩⟩,
      ⟨none, "place", [], .named "ID",
        [⟨"Embedded", [⟨"class", .string "Place", ⟨0, 0⟩⟩], ⟨0, 0⟩⟩], ⟨0, 0⟩⟩], ⟨0, 0⟩⟩

/-- The fields of a type of four kinds. -/
theorem purchaseType_independent : ∃ record base records,
    evaluateNew "Purchase" purchaseType = .ok record ∧
      evaluateNew "Purchase" (purchaseType.withFields []) = .ok base ∧
      purchaseType.fields.mapM (fun field =>
        evaluateNew "Purchase" (purchaseType.withFields [field])) = .ok records ∧
      record.associations = records.flatMap ClassMapping.associations ∧
      record.associations.length = 1 ∧ record.SameClass base := by
  have distinct : (purchaseType.fields.map Field.name).Nodup := by decide
  have outcome : (evaluateNew "Purchase" purchaseType).map (·.associations.length) = .ok 1 := by
    rfl
  obtain ⟨record, evaluated, single⟩ := map_eq_ok_iff.mp outcome
  obtain ⟨base, records, ofClass, ofFields, -, associations, -, -, same⟩ :=
    (fields_independent distinct).2.2 record evaluated
  exact ⟨record, base, records, evaluated, ofClass, ofFields, associations, single, same⟩

end EntityMapping.Settings
