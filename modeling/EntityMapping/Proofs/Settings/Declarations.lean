import EntityMapping.Proofs.Settings.Decisive
import EntityMapping.Proofs.Settings.Evaluation
import Mathlib.Data.List.Nodup

/-!
# Fields that are declared more than once

Two fields of a type may have the same name.  A later declaration takes the place of an
earlier one only if both are mapped in the same way: columns, associations and embedded
values are lists of their own, and mapping a field in one of them leaves the others alone.
Main statement: the record has the last declaration of each way of mapping, so its fields
have single mappings just if all declarations of a name are mapped in the same way.
-/

namespace EntityMapping.Record

/-- The ways in which a field can be mapped. -/
inductive MappingKind where
  | column
  | association
  | embedded
deriving DecidableEq, Repr

namespace MappingStep

/-- The way in which a call maps its field. -/
def kind : MappingStep → MappingKind
  | column _ => .column
  | association _ => .association
  | embedded _ => .embedded

theorem replaces_iff {later earlier : MappingStep} :
    later.Replaces earlier ↔
      later.kind = earlier.kind ∧ later.fieldName = earlier.fieldName := by
  cases later <;> cases earlier <;> simp [Replaces, kind, fieldName]

theorem Replaces.refl (step : MappingStep) : step.Replaces step :=
  replaces_iff.mpr ⟨rfl, rfl⟩

theorem Replaces.trans {last middle first : MappingStep} (later : last.Replaces middle)
    (earlier : middle.Replaces first) : last.Replaces first := by
  rw [replaces_iff] at later earlier ⊢
  exact ⟨later.1.trans earlier.1, later.2.trans earlier.2⟩

end MappingStep

namespace ClassMapping

/-- The names of all columns, associations and embedded values of the record. -/
def mappedNames (record : ClassMapping) : List String :=
  record.columns.map Column.fieldName ++
    (record.associations.map Association.fieldName ++ record.embedded.map Embedded.fieldName)

theorem SameFields.holds_iff {left right : ClassMapping} (same : left.SameFields right)
    (step : MappingStep) : left.Holds step ↔ right.Holds step := by
  cases step with
  | column mapped => rw [Holds, Holds, column?, column?, same.columns]
  | association mapped => rw [Holds, Holds, association?, association?, same.associations]
  | embedded mapped => rw [Holds, Holds, embedded?, embedded?, same.embedded]

section Entries

variable {record : ClassMapping}

/-- The entries of the record, as the calls that would store them. -/
def entries (record : ClassMapping) : List MappingStep :=
  record.columns.map .column ++
    (record.associations.map .association ++ record.embedded.map .embedded)

theorem mappedNames_eq_map_entries :
    record.mappedNames = record.entries.map MappingStep.fieldName := by
  simp only [mappedNames, entries, List.map_append, List.map_map]
  rfl

theorem WellFormed.mem_entries_iff (wellFormed : record.WellFormed) (step : MappingStep) :
    step ∈ record.entries ↔ record.Holds step := by
  cases step with
  | column mapped =>
      rw [Holds, column?, Named.find?_eq_some_iff_mem wellFormed.columnNames]
      simp [entries]
  | association mapped =>
      rw [Holds, association?, Named.find?_eq_some_iff_mem wellFormed.associationNames]
      simp [entries]
  | embedded mapped =>
      rw [Holds, embedded?, Named.find?_eq_some_iff_mem wellFormed.embeddedNames]
      simp [entries]

theorem WellFormed.nodup_entries (wellFormed : record.WellFormed) : record.entries.Nodup := by
  have columns : (record.columns.map MappingStep.column).Nodup :=
    .of_map MappingStep.fieldName (by rw [List.map_map]; exact wellFormed.columnNames)
  have associations : (record.associations.map MappingStep.association).Nodup :=
    .of_map MappingStep.fieldName (by rw [List.map_map]; exact wellFormed.associationNames)
  have embedded : (record.embedded.map MappingStep.embedded).Nodup :=
    .of_map MappingStep.fieldName (by rw [List.map_map]; exact wellFormed.embeddedNames)
  rw [entries, List.nodup_append, List.nodup_append]
  refine ⟨columns, ⟨associations, embedded, by simp⟩, ?_⟩
  rintro _ isColumn _ isOther rfl
  obtain ⟨column, -, rfl⟩ := List.mem_map.mp isColumn
  simp at isOther

/-- The record has one entry of a kind for a name. -/
theorem eq_of_holds_of_replaces {first second : MappingStep} (holdsFirst : record.Holds first)
    (holdsSecond : record.Holds second) (replaces : first.Replaces second) : first = second := by
  obtain ⟨sameKind, sameName⟩ := MappingStep.replaces_iff.mp replaces
  cases first with
  | column first =>
      cases second with
      | column second =>
          rw [Holds, show first.fieldName = second.fieldName from sameName] at holdsFirst
          rw [Option.some.inj (holdsFirst.symm.trans holdsSecond)]
      | association second => cases sameKind
      | embedded second => cases sameKind
  | association first =>
      cases second with
      | column second => cases sameKind
      | association second =>
          rw [Holds, show first.fieldName = second.fieldName from sameName] at holdsFirst
          rw [Option.some.inj (holdsFirst.symm.trans holdsSecond)]
      | embedded second => cases sameKind
  | embedded first =>
      cases second with
      | column second => cases sameKind
      | association second => cases sameKind
      | embedded second =>
          rw [Holds, show first.fieldName = second.fieldName from sameName] at holdsFirst
          rw [Option.some.inj (holdsFirst.symm.trans holdsSecond)]

/-- No name is mapped twice just if the entries of one name are of one kind. -/
theorem WellFormed.nodup_mappedNames_iff (wellFormed : record.WellFormed) :
    record.mappedNames.Nodup ↔ ∀ first second, record.Holds first → record.Holds second →
      first.fieldName = second.fieldName → first.kind = second.kind := by
  rw [mappedNames_eq_map_entries, List.nodup_map_iff_inj_on wellFormed.nodup_entries]
  simp only [wellFormed.mem_entries_iff]
  constructor
  · intro injective first second holdsFirst holdsSecond sameName
    rw [injective first holdsFirst second holdsSecond sameName]
  · intro sameKind first holdsFirst second holdsSecond sameName
    exact eq_of_holds_of_replaces holdsFirst holdsSecond (MappingStep.replaces_iff.mpr
      ⟨sameKind first second holdsFirst holdsSecond sameName, sameName⟩)

end Entries

theorem not_holds_empty (className : String) (step : MappingStep) :
    ¬ (empty className).Holds step := by
  cases step with
  | column mapped => exact nofun
  | association mapped => exact nofun
  | embedded mapped => exact nofun

/-- Of the calls that replace each other the record has the last. -/
theorem exists_holds_of_mem (className : String) {steps : List MappingStep} {step : MappingStep}
    (member : step ∈ steps) :
    ∃ held ∈ steps, (mapAll steps (.empty className)).Holds held ∧ held.Replaces step := by
  induction steps using List.reverseRecOn with
  | nil => exact absurd member List.not_mem_nil
  | append_singleton steps last ih =>
      have isLast : last ∈ steps ++ [last] := List.mem_append_right _ List.mem_cons_self
      have heldLast : (mapAll (steps ++ [last]) (.empty className)).Holds last := by
        rw [mapAll_append_singleton, holds_apply]
        exact Or.inl rfl
      rcases List.mem_append.mp member with before | here
      · obtain ⟨held, among, holds, replaces⟩ := ih before
        by_cases replaced : last.Replaces held
        · exact ⟨last, isLast, heldLast, replaced.trans replaces⟩
        · refine ⟨held, List.mem_append_left _ among, ?_, replaces⟩
          rw [mapAll_append_singleton, holds_apply]
          exact Or.inr ⟨holds, replaced⟩
      · obtain rfl := List.mem_singleton.mp here
        exact ⟨step, isLast, heldLast, .refl step⟩

end ClassMapping

end EntityMapping.Record

namespace EntityMapping.Settings

open EntityMapping.Document
open EntityMapping.Record

/-- A record has the call by which a field has just been mapped in it. -/
theorem FieldSettings.holds_of_step? {settings : FieldSettings} {record : ClassMapping}
    {step : MappingStep} (isStep : settings.step? record = some step) :
    (settings.apply record).Holds step := by
  rw [(settings.apply_sameFields record).holds_iff, isStep]
  exact (ClassMapping.holds_apply step step record).mpr (Or.inl rfl)

section Declarations

variable {className : String} {type : ObjectType} {record : ClassMapping}

/-- A field alone leaves an entry in the record. -/
def Contributes (className : String) (type : ObjectType) (field : Field) (step : MappingStep) :
    Prop :=
  ∃ alone, evaluateNew className (type.withFields [field]) = .ok alone ∧ alone.Holds step

theorem contributes_iff {base : ClassMapping} {field : Field} {step : MappingStep}
    (evaluatedBase : evaluateNew className (type.withFields []) = .ok base)
    (evaluates : Evaluates className (type.withFields [field])) :
    Contributes className type field step ↔ contribution? base field = some step := by
  obtain ⟨alone, evaluated⟩ := evaluates
  have held : alone.Holds step ↔ contribution? base field = some step := by
    rw [(evaluateNew_single evaluatedBase evaluated).holds_iff]
    cases contribution? base field with
    | none => simp [ClassMapping.mapAll, ClassMapping.not_holds_empty]
    | some only =>
        rw [Option.toList_some, ← List.nil_append [only], ClassMapping.mapAll_append_singleton,
          ClassMapping.holds_apply]
        simp [ClassMapping.mapAll, ClassMapping.not_holds_empty, eq_comm]
  constructor
  · rintro ⟨other, evaluatedOther, holds⟩
    cases evaluated.symm.trans evaluatedOther
    exact held.mp holds
  · exact fun contributed => ⟨alone, evaluated, held.mpr contributed⟩

/-- What the fields contribute, taken in a record of the class. -/
theorem exists_contributions (evaluated : evaluateNew className type = .ok record) :
    ∃ base, record.SameFields (ClassMapping.mapAll
        (type.fields.filterMap (contribution? base)) (.empty className)) ∧
      ∀ field ∈ type.fields, ∀ step,
        Contributes className type field step ↔ contribution? base field = some step := by
  obtain ⟨base, evaluatedBase, -, same⟩ := evaluateNew_contributions evaluated
  obtain ⟨evaluatesBase, eachRead⟩ := evaluates_iff.mp ⟨record, evaluated⟩
  exact ⟨base, same, fun field among step => contributes_iff evaluatedBase
    (evaluates_single_iff.mpr ⟨evaluatesBase, eachRead field among⟩)⟩

/-- The entries of the record are those of the fields that no later field replaces. -/
theorem holds_iff_last (evaluated : evaluateNew className type = .ok record)
    (step : MappingStep) :
    record.Holds step ↔ ∃ before field behind, type.fields = before ++ field :: behind ∧
      Contributes className type field step ∧
      ∀ later ∈ behind, ∀ other, Contributes className type later other →
        ¬ other.Replaces step := by
  obtain ⟨base, same, contributes⟩ := exists_contributions evaluated
  rw [same.holds_iff, ClassMapping.holds_mapAll]
  constructor
  · rintro ⟨stepsBefore, stepsBehind, split, kept⟩
    obtain ⟨before, rest, isSplit, -, ofRest⟩ := List.filterMap_eq_append_iff.mp split
    obtain ⟨skipped, field, behind, rfl, -, ofField, ofBehind⟩ :=
      List.filterMap_eq_cons_iff.mp ofRest
    have among : field ∈ type.fields := by simp [isSplit]
    refine ⟨before ++ skipped, field, behind, by simp [isSplit],
      (contributes field among step).mpr ofField, fun later behindField other contributed => ?_⟩
    have laterAmong : later ∈ type.fields := by simp [isSplit, behindField]
    refine kept other (ofBehind ▸ List.mem_filterMap.mpr ⟨later, behindField, ?_⟩)
    exact (contributes later laterAmong other).mp contributed
  · rintro ⟨before, field, behind, isSplit, contributed, kept⟩
    have among : field ∈ type.fields := by simp [isSplit]
    have ofField := (contributes field among step).mp contributed
    refine ⟨before.filterMap (contribution? base), behind.filterMap (contribution? base), ?_, ?_⟩
    · rw [isSplit, List.filterMap_append, List.filterMap_cons_some ofField]
    · intro other member
      obtain ⟨later, behindField, ofLater⟩ := List.mem_filterMap.mp member
      have laterAmong : later ∈ type.fields := by simp [isSplit, behindField]
      exact kept later behindField other ((contributes later laterAmong other).mpr ofLater)

/-- An entry of the record comes from the settings of a field, and the settings of no later
field replace it. -/
theorem exists_last_declaration (evaluated : evaluateNew className type = .ok record)
    {step : MappingStep} (holds : record.Holds step) :
    ∃ base before field behind settings, type.fields = before ++ field :: behind ∧
      FieldSettings.ofField field = .ok settings ∧ settings.step? base = some step ∧
      ∀ later ∈ behind, ∃ others, FieldSettings.ofField later = .ok others ∧
        ∀ other ∈ others.step? base, ¬ other.Replaces step := by
  obtain ⟨base, -, contributes⟩ := exists_contributions evaluated
  obtain ⟨before, field, behind, split, ofField, kept⟩ := (holds_iff_last evaluated step).mp holds
  have among : ∀ other ∈ field :: behind, other ∈ type.fields := fun other member =>
    split ▸ List.mem_append_right before member
  have contributed := (contributes field (among field List.mem_cons_self) step).mp ofField
  obtain ⟨settings, read, isStep⟩ := exists_settings_of_contribution? contributed
  refine ⟨base, before, field, behind, settings, split, read, isStep, fun later member => ?_⟩
  have laterAmong := among later (List.mem_cons_of_mem field member)
  obtain ⟨others, readLater⟩ := (evaluates_iff.mp ⟨record, evaluated⟩).2 later laterAmong
  refine ⟨others, readLater, fun other isOther => kept later member other ?_⟩
  exact (contributes later laterAmong other).mpr
    ((contribution?_eq_step? readLater base).trans isOther)

/-- What the settings of a field map stays in the record if no later field has its name. -/
theorem exists_holds_of_last (evaluated : evaluateNew className type = .ok record)
    {before behind : List Field} {field : Field}
    (split : type.fields = before ++ field :: behind)
    (last : ∀ later ∈ behind, later.name ≠ field.name) {settings : FieldSettings}
    (read : FieldSettings.ofField field = .ok settings) :
    ∃ base, ∀ step, settings.step? base = some step → record.Holds step := by
  obtain ⟨base, -, contributes⟩ := exists_contributions evaluated
  have among : ∀ other ∈ field :: behind, other ∈ type.fields := fun other member =>
    split ▸ List.mem_append_right before member
  refine ⟨base, fun step isStep => (holds_iff_last evaluated step).mpr
    ⟨before, field, behind, split, ?_, fun later member other contributed replaces => ?_⟩⟩
  · refine (contributes field (among field List.mem_cons_self) step).mpr ?_
    exact (contribution?_eq_step? read base).trans isStep
  · have laterAmong := among later (List.mem_cons_of_mem field member)
    have ofLater := (contributes later laterAmong other).mp contributed
    have ofField := (contribution?_eq_step? read base).trans isStep
    refine last later member ?_
    rw [← fieldName_of_contribution? ofLater, ← fieldName_of_contribution? ofField]
    exact (MappingStep.replaces_iff.mp replaces).2

/-- Where two fields of one name are mapped in different ways, the record has both. -/
theorem sameKind_iff (evaluated : evaluateNew className type = .ok record) :
    (∀ first second, record.Holds first → record.Holds second →
        first.fieldName = second.fieldName → first.kind = second.kind) ↔
      ∀ left ∈ type.fields, ∀ right ∈ type.fields, left.name = right.name →
        ∀ first second, Contributes className type left first →
          Contributes className type right second → first.kind = second.kind := by
  obtain ⟨base, same, contributes⟩ := exists_contributions evaluated
  -- a step that a field contributes, as it stands in the record in the end
  have held : ∀ field ∈ type.fields, ∀ step, contribution? base field = some step →
      ∃ last, record.Holds last ∧ last.Replaces step := by
    intro field among step ofField
    obtain ⟨last, -, holds, replaces⟩ := ClassMapping.exists_holds_of_mem className
      (List.mem_filterMap.mpr ⟨field, among, ofField⟩)
    exact ⟨last, (same.holds_iff last).mpr holds, replaces⟩
  constructor
  · intro sameKind left leftAmong right rightAmong sameName first second ofLeft ofRight
    have ofLeft := (contributes left leftAmong first).mp ofLeft
    have ofRight := (contributes right rightAmong second).mp ofRight
    obtain ⟨lastLeft, holdsLeft, replacesLeft⟩ := held left leftAmong first ofLeft
    obtain ⟨lastRight, holdsRight, replacesRight⟩ := held right rightAmong second ofRight
    obtain ⟨kindLeft, nameLeft⟩ := MappingStep.replaces_iff.mp replacesLeft
    obtain ⟨kindRight, nameRight⟩ := MappingStep.replaces_iff.mp replacesRight
    have named : lastLeft.fieldName = lastRight.fieldName := by
      rw [nameLeft, nameRight, fieldName_of_contribution? ofLeft,
        fieldName_of_contribution? ofRight, sameName]
    rw [← kindLeft, ← kindRight]
    exact sameKind lastLeft lastRight holdsLeft holdsRight named
  · intro sameKind first second holdsFirst holdsSecond sameName
    obtain ⟨_, left, _, splitLeft, ofLeft, -⟩ := (holds_iff_last evaluated first).mp holdsFirst
    obtain ⟨_, right, _, splitRight, ofRight, -⟩ :=
      (holds_iff_last evaluated second).mp holdsSecond
    have leftAmong : left ∈ type.fields := by simp [splitLeft]
    have rightAmong : right ∈ type.fields := by simp [splitRight]
    have nameLeft := fieldName_of_contribution? ((contributes left leftAmong first).mp ofLeft)
    have nameRight :=
      fieldName_of_contribution? ((contributes right rightAmong second).mp ofRight)
    exact sameKind left leftAmong right rightAmong
      (nameLeft.symm.trans (sameName.trans nameRight)) first second ofLeft ofRight

/-- A record has what the fields contribute that are not replaced by later ones, and only a
field that is mapped in the same way replaces another of its name.  So no name is mapped
twice just if no two fields of one name are mapped in different ways. -/
theorem mapping_of_last_declaration (evaluated : evaluateNew className type = .ok record) :
    (∀ step, record.Holds step ↔
      ∃ before field behind, type.fields = before ++ field :: behind ∧
        Contributes className type field step ∧
        ∀ later ∈ behind, ∀ other, Contributes className type later other →
          ¬ other.Replaces step) ∧
    (record.columns.map Column.fieldName).Nodup ∧
    (record.associations.map Association.fieldName).Nodup ∧
    (record.embedded.map Embedded.fieldName).Nodup ∧
    (record.mappedNames.Nodup ↔ ∀ left ∈ type.fields, ∀ right ∈ type.fields,
      left.name = right.name → ∀ first second, Contributes className type left first →
        Contributes className type right second → first.kind = second.kind) := by
  have wellFormed := evaluate_wellFormed (ClassMapping.wellFormed_empty className) evaluated
  refine ⟨holds_iff_last evaluated, wellFormed.columnNames, wellFormed.associationNames,
    wellFormed.embeddedNames, ?_⟩
  rw [wellFormed.nodup_mappedNames_iff, sameKind_iff evaluated]

end Declarations

/-- A type with the same field twice, first as an association and then as a column. -/
def redeclaredType : ObjectType :=
  ⟨none, "Post", [], [⟨"Entity", [], ⟨0, 0⟩⟩],
    [⟨none, "author", [], .named "ID",
        [⟨"ManyToOne", [⟨"targetEntity", .string "A", ⟨0, 0⟩⟩], ⟨0, 0⟩⟩], ⟨0, 0⟩⟩,
      ⟨none, "author", [], .named "ID",
        [⟨"Column", [⟨"name", .string "author", ⟨0, 0⟩⟩], ⟨0, 0⟩⟩], ⟨0, 0⟩⟩], ⟨0, 0⟩⟩

theorem redeclaredType_evaluated :
    ∃ record, evaluateNew "Post" redeclaredType = .ok record ∧
      record.mappedNames = ["author", "author"] ∧
      record.columns.map Column.fieldName = ["author"] ∧
      record.associations.map Association.fieldName = ["author"] := by
  have outcome : (evaluateNew "Post" redeclaredType).map (fun record =>
      (record.mappedNames, record.columns.map Column.fieldName,
        record.associations.map Association.fieldName)) =
      .ok (["author", "author"], ["author"], ["author"]) := by
    rfl
  obtain ⟨record, evaluated, parts⟩ := map_eq_ok_iff.mp outcome
  simp only [Prod.mk.injEq] at parts
  exact ⟨record, evaluated, parts⟩

/-- The column does not take the place of the association. -/
theorem redeclaredType_mappings :
    ∃ record, evaluateNew "Post" redeclaredType = .ok record ∧
      "author" ∈ record.columns.map Column.fieldName ∧
      "author" ∈ record.associations.map Association.fieldName ∧ ¬ record.mappedNames.Nodup := by
  obtain ⟨record, evaluated, names, ofColumns, ofAssociations⟩ := redeclaredType_evaluated
  refine ⟨record, evaluated, ?_, ?_, ?_⟩
  · rw [ofColumns]
    exact List.mem_cons_self
  · rw [ofAssociations]
    exact List.mem_cons_self
  · rw [names]
    decide

/-- Two fields of one name are mapped in different ways, and a name is mapped twice. -/
theorem redeclaredType_kinds : ∃ record, evaluateNew "Post" redeclaredType = .ok record ∧
    (record.columns.map Column.fieldName).Nodup ∧
    (record.associations.map Association.fieldName).Nodup ∧
    ¬ ∀ left ∈ redeclaredType.fields, ∀ right ∈ redeclaredType.fields,
      left.name = right.name → ∀ first second, Contributes "Post" redeclaredType left first →
        Contributes "Post" redeclaredType right second → first.kind = second.kind := by
  obtain ⟨record, evaluated, names, -⟩ := redeclaredType_evaluated
  obtain ⟨-, columns, associations, -, single⟩ := mapping_of_last_declaration evaluated
  refine ⟨record, evaluated, columns, associations, fun sameKinds => ?_⟩
  have distinct := single.mpr sameKinds
  rw [names] at distinct
  exact absurd distinct (by decide)

end EntityMapping.Settings
