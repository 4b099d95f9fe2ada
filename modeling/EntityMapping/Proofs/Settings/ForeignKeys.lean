import EntityMapping.Proofs.Settings.JoinColumns

/-!
# Foreign keys

An association is stored on its owning side, by join columns or a join table.  The inverse side
names the field that owns the association.  Main statement: an inverse side between one and one
keeps the columns of its join, and one between many and many keeps its join table; no other
inverse side carries a foreign key, whatever its field is annotated with.
-/

namespace EntityMapping.Settings

open EntityMapping.Document
open EntityMapping.Record

/-- A field has a join that lists a column. -/
def ListsColumns (field : Field) : Prop :=
  ∃ directive, Marker.join.among field.directives = some directive ∧ directive.joinValues ≠ []

section Associations

variable {field : Field} {settings : FieldSettings} {association : Association}

theorem columns_ne_nil_iff {columns : List JoinColumn}
    (read : FieldSettings.readJoin field = .ok columns) :
    columns ≠ [] ↔ ListsColumns field := by
  cases found : Marker.join.among field.directives with
  | none =>
      rw [FieldSettings.readJoin, found] at read
      cases read
      simp [ListsColumns, found]
  | some directive =>
      obtain ⟨-, described⟩ := FieldSettings.describes_of_readJoin found read
      have sameLength := described.length_eq
      rw [← List.length_pos_iff, ← sameLength, List.length_pos_iff]
      simp [ListsColumns, found]

theorem table_ne_none_iff {table : Option JoinTable}
    (read : FieldSettings.readJoinTable field = .ok table) :
    table ≠ none ↔ Marker.joinTable.isAmong field.directives = true := by
  rw [Marker.isAmong]
  cases found : Marker.joinTable.among field.directives with
  | none =>
      rw [FieldSettings.readJoinTable, found] at read
      cases read
      simp
  | some directive =>
      rw [FieldSettings.readJoinTable, found] at read
      obtain ⟨name, -, read⟩ := bind_eq_ok_iff.mp read
      obtain ⟨schema, -, read⟩ := bind_eq_ok_iff.mp read
      obtain ⟨joinColumns, -, read⟩ := bind_eq_ok_iff.mp read
      obtain ⟨inverseJoinColumns, -, read⟩ := bind_eq_ok_iff.mp read
      cases read
      simp

/-- An association is made by the annotation that decides. -/
theorem exists_relates_of_readKind {joinColumns : List JoinColumn}
    (read : FieldSettings.readKind field joinColumns = .ok (.association association)) :
    ∃ cardinality, Relates field cardinality := by
  unfold FieldSettings.readKind at read
  split at read
  · cases read
  · rename_i marker directive decides
    cases marker with
    | column =>
        obtain ⟨column, -, same⟩ := map_eq_ok_iff.mp read
        cases same
    | embedded =>
        obtain ⟨embedded, -, same⟩ := map_eq_ok_iff.mp read
        cases same
    | oneToOne => exact ⟨.oneToOne, _, directive, decides, rfl⟩
    | oneToMany => exact ⟨.oneToMany, _, directive, decides, rfl⟩
    | manyToOne => exact ⟨.manyToOne, _, directive, decides, rfl⟩
    | manyToMany => exact ⟨.manyToMany, _, directive, decides, rfl⟩
    | _ => cases read

/-- An association that a field is mapped to has the cardinality and the joins of the field. -/
theorem joins_of_step? (read : FieldSettings.ofField field = .ok settings)
    {record : ClassMapping} (isStep : settings.step? record = some (.association association)) :
    Relates field association.cardinality ∧ ∃ joinColumns,
      FieldSettings.readJoin field = .ok joinColumns ∧
        FieldSettings.TakesJoins field joinColumns association := by
  obtain ⟨-, -, joinColumns, readJoin, readKind⟩ := FieldSettings.exists_of_ofField read
  cases isKind : settings.kind with
  | association inner =>
      rw [FieldSettings.step?, isKind] at isStep
      cases isStep
      rw [isKind] at readKind
      obtain ⟨cardinality, relates⟩ := exists_relates_of_readKind readKind
      obtain ⟨other, same, rfl, joins⟩ := FieldSettings.takesJoins_of_readKind relates readKind
      cases same
      exact ⟨relates, joinColumns, readJoin, { joins with }⟩
  | _ =>
      rw [FieldSettings.step?, isKind] at isStep
      cases isStep

/-- A field with the annotation of an association replaces the associations of its name. -/
theorem exists_replacing_association (read : FieldSettings.ofField field = .ok settings)
    {cardinality : Cardinality} (relates : Relates field cardinality) (record : ClassMapping)
    (sameName : association.fieldName = field.name) :
    ∃ step, settings.step? record = some step ∧ step.Replaces (.association association) := by
  obtain ⟨-, -, joinColumns, -, readKind⟩ := FieldSettings.exists_of_ofField read
  obtain ⟨inner, isKind, -⟩ := FieldSettings.takesJoins_of_readKind relates readKind
  have isStep : settings.step? record = some (.association { inner with
      cache := settings.cache.map
        (·.withDefaults (record.associationCache settings.fieldName)) }) := by
    rw [FieldSettings.step?, isKind]
  refine ⟨_, isStep, MappingStep.replaces_iff.mpr ⟨rfl, ?_⟩⟩
  have named := fieldName_of_contribution? ((contribution?_eq_step? read record).trans isStep)
  exact named.trans sameName.symm

end Associations

/-- The inverse side of an association has join columns just if it is between one and one and
its field has a join that lists a column, and a join table just if it is between many and many
and its field is annotated with one. -/
theorem inverse_side_joins {className : String} {type : ObjectType} {record : ClassMapping}
    (evaluated : evaluateNew className type = .ok record) {association : Association}
    (among : association ∈ record.associations) (inverse : association.mappedBy ≠ none) :
    ∃ before field behind, type.fields = before ++ field :: behind ∧
      field.name = association.fieldName ∧ Relates field association.cardinality ∧
      (∀ later ∈ behind, later.name = field.name → ∀ cardinality, ¬ Relates later cardinality) ∧
      (association.joinColumns ≠ [] ↔
        association.cardinality = .oneToOne ∧ ListsColumns field) ∧
      (association.joinTable ≠ none ↔
        association.cardinality = .manyToMany ∧
          Marker.joinTable.isAmong field.directives = true) := by
  have wellFormed := evaluate_wellFormed (ClassMapping.wellFormed_empty className) evaluated
  have entry : MappingStep.association association ∈ record.entries :=
    List.mem_append_right _ (List.mem_append_left _ (List.mem_map_of_mem among))
  have holds := (wellFormed.mem_entries_iff (.association association)).mp entry
  obtain ⟨base, before, field, behind, settings, split, read, isStep, kept⟩ :=
    exists_last_declaration evaluated holds
  obtain ⟨relates, joinColumns, readJoin, joins⟩ := joins_of_step? read isStep
  have named : association.fieldName = field.name :=
    fieldName_of_contribution? ((contribution?_eq_step? read base).trans isStep)
  have shaped := wellFormed.associations association among
  refine ⟨before, field, behind, split, named.symm, relates, fun later member sameName => ?_, ?_⟩
  · intro cardinality ofLater
    obtain ⟨others, readLater, notReplaced⟩ := kept later member
    obtain ⟨step, isLater, replaces⟩ := exists_replacing_association readLater ofLater base
      (named.trans sameName.symm)
    exact notReplaced step isLater replaces
  · cases cardinality : association.cardinality with
    | oneToOne =>
        have columns := joins.columns (by rw [cardinality]; rfl)
        simp [columns, shaped.oneToOne cardinality, columns_ne_nil_iff readJoin]
    | oneToMany => simp [shaped.oneToMany cardinality]
    | manyToOne => exact absurd (shaped.manyToOne cardinality).1 inverse
    | manyToMany =>
        have table := joins.table cardinality
        rw [table_ne_none_iff table]
        simp [shaped.manyToMany cardinality]

/-- A member has three inverse sides, each annotated as if it were the owning side. -/
def memberSidesType : ObjectType :=
  ⟨none, "Member", [], [⟨"Entity", [], ⟨0, 0⟩⟩],
    [⟨none, "profile", [], .named "ID",
        [⟨"OneToOne", [⟨"targetEntity", .string "Profile", ⟨0, 0⟩⟩,
          ⟨"mappedBy", .string "member", ⟨0, 0⟩⟩], ⟨0, 0⟩⟩,
          ⟨"Join", [⟨"column", .string "profile_id", ⟨0, 0⟩⟩], ⟨0, 0⟩⟩], ⟨0, 0⟩⟩,
      ⟨none, "letters", [], .named "ID",
        [⟨"OneToMany", [⟨"targetEntity", .string "Letter", ⟨0, 0⟩⟩,
          ⟨"mappedBy", .string "author", ⟨0, 0⟩⟩], ⟨0, 0⟩⟩,
          ⟨"Join", [⟨"column", .string "letter_id", ⟨0, 0⟩⟩], ⟨0, 0⟩⟩,
          ⟨"JoinTable", [], ⟨0, 0⟩⟩], ⟨0, 0⟩⟩,
      ⟨none, "groups", [], .named "ID",
        [⟨"ManyToMany", [⟨"targetEntity", .string "Group", ⟨0, 0⟩⟩,
          ⟨"mappedBy", .string "members", ⟨0, 0⟩⟩], ⟨0, 0⟩⟩,
          ⟨"JoinTable", [⟨"name", .string "group_members", ⟨0, 0⟩⟩], ⟨0, 0⟩⟩], ⟨0, 0⟩⟩], ⟨0, 0⟩⟩

theorem memberSidesType_evaluated : ∃ record profile letters groups,
    evaluateNew "Member" memberSidesType = .ok record ∧
      record.associations = [profile, letters, groups] ∧
      (profile.mappedBy = some "member" ∧ profile.joinColumns = [.ofName "profile_id"]) ∧
      (letters.mappedBy = some "author" ∧ letters.cardinality = .oneToMany) ∧
      groups.mappedBy = some "members" ∧ groups.joinTable.isSome = true :=
  ⟨_, _, _, _, rfl, rfl, ⟨rfl, rfl⟩, ⟨rfl, rfl⟩, rfl, rfl⟩

/-- The inverse side to many carries nothing. -/
theorem memberSidesType_letters : ∃ record letters,
    evaluateNew "Member" memberSidesType = .ok record ∧ letters ∈ record.associations ∧
      letters.mappedBy = some "author" ∧ letters.joinColumns = [] ∧ letters.joinTable = none := by
  obtain ⟨record, profile, letters, groups, evaluated, associations, -, ⟨inverse, toMany⟩, -⟩ :=
    memberSidesType_evaluated
  have among : letters ∈ record.associations := by simp [associations]
  have isInverse : letters.mappedBy ≠ none := by simp [inverse]
  obtain ⟨before, field, behind, -, -, -, -, columns, table⟩ :=
    inverse_side_joins evaluated among isInverse
  rw [toMany] at columns table
  exact ⟨record, letters, evaluated, among, inverse, by simpa using columns, by simpa using table⟩

/-- The other inverse sides carry join columns and a join table. -/
theorem memberSidesType_joins : ∃ record profile groups,
    evaluateNew "Member" memberSidesType = .ok record ∧
      (profile ∈ record.associations ∧ profile.mappedBy = some "member" ∧
        profile.joinColumns ≠ []) ∧
      groups ∈ record.associations ∧ groups.mappedBy = some "members" ∧
        groups.joinTable ≠ none := by
  obtain ⟨record, profile, letters, groups, evaluated, associations, ⟨inverse, columns⟩, -,
    isInverse, table⟩ := memberSidesType_evaluated
  refine ⟨record, profile, groups, evaluated, ⟨?_, inverse, ?_⟩, ?_, isInverse, ?_⟩
  · simp [associations]
  · simp [columns]
  · simp [associations]
  · exact Option.isSome_iff_ne_none.mp table

end EntityMapping.Settings
