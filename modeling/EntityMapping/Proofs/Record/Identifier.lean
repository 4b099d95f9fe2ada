import EntityMapping.Record.ClassMapping
import Mathlib.Data.List.Induction

/-!
# The identifier and the flags of fields

A field joins the identifier when it is mapped with the flag of an identifier.  The
identifier is a list of its own beside the mappings, and nothing is ever taken out of it.
Main statements: which calls put a name into the identifier, which calls leave their entry
in the record, and that both agree unless a field is mapped again in the same place without
the flag.
-/

namespace EntityMapping.Record

/-- A call that maps a field. -/
inductive MappingStep where
  | column (column : Column)
  | association (association : Association)
  | embedded (embedded : Embedded)

namespace MappingStep

/-- The field that is mapped. -/
def fieldName : MappingStep → String
  | column mapped => mapped.fieldName
  | association mapped => mapped.fieldName
  | embedded mapped => mapped.fieldName

/-- Whether the field is said to belong to the identifier. -/
def isId : MappingStep → Bool
  | column mapped => mapped.isId
  | association mapped => mapped.isId
  | embedded _ => false

/-- The column that a call stores. -/
def column? : MappingStep → Option Column
  | column mapped => some mapped
  | _ => none

/-- The association that a call stores. -/
def association? : MappingStep → Option Association
  | association mapped => some mapped
  | _ => none

/-- The embedded value that a call stores. -/
def embedded? : MappingStep → Option Embedded
  | embedded mapped => some mapped
  | _ => none

/-- What the call does to a record. -/
def apply (record : ClassMapping) : MappingStep → ClassMapping
  | column mapped => record.mapColumn mapped
  | association mapped => record.mapAssociation mapped
  | embedded mapped => record.mapEmbedded mapped

/-- Whether a call puts its entry in the place of the entry of another. -/
def Replaces : MappingStep → MappingStep → Prop
  | column later, column earlier => later.fieldName = earlier.fieldName
  | association later, association earlier => later.fieldName = earlier.fieldName
  | embedded later, embedded earlier => later.fieldName = earlier.fieldName
  | _, _ => False

/-- A call does not take back the flag of another. -/
def KeepsFlag (earlier later : MappingStep) : Prop :=
  later.Replaces earlier → earlier.isId = true → later.isId = true

theorem Replaces.fieldName_eq {later earlier : MappingStep} (replaces : later.Replaces earlier) :
    later.fieldName = earlier.fieldName := by
  cases later with
  | column later =>
      cases earlier with
      | column earlier => exact replaces
      | association earlier => exact False.elim replaces
      | embedded earlier => exact False.elim replaces
  | association later =>
      cases earlier with
      | column earlier => exact False.elim replaces
      | association earlier => exact replaces
      | embedded earlier => exact False.elim replaces
  | embedded later =>
      cases earlier with
      | column earlier => exact False.elim replaces
      | association earlier => exact False.elim replaces
      | embedded earlier => exact replaces

end MappingStep

namespace ClassMapping

/-- Map fields one after another. -/
def mapAll (steps : List MappingStep) (record : ClassMapping) : ClassMapping :=
  steps.foldl MappingStep.apply record

/-- The entry of a call is in the record. -/
def Holds (record : ClassMapping) : MappingStep → Prop
  | .column column => record.column? column.fieldName = some column
  | .association association => record.association? association.fieldName = some association
  | .embedded embedded => record.embedded? embedded.fieldName = some embedded

/-- The column or the association of a field has the flag of an identifier. -/
def HasIdFlag (record : ClassMapping) (fieldName : String) : Prop :=
  (∃ column, record.column? fieldName = some column ∧ column.isId = true) ∨
    ∃ association, record.association? fieldName = some association ∧ association.isId = true

/-- The identifier consists of the fields with the flag. -/
def IdentifierAgrees (record : ClassMapping) : Prop :=
  ∀ fieldName, fieldName ∈ record.identifier ↔ record.HasIdFlag fieldName

theorem mapAll_append_singleton (steps : List MappingStep) (step : MappingStep)
    (record : ClassMapping) : mapAll (steps ++ [step]) record = step.apply (mapAll steps record) :=
  by
  rw [mapAll, mapAll, List.foldl_append]
  rfl

/-! ## Which names are in the identifier -/

theorem mem_identifier_apply (step : MappingStep) (record : ClassMapping) (fieldName : String) :
    fieldName ∈ (step.apply record).identifier ↔
      fieldName ∈ record.identifier ∨ (step.isId = true ∧ fieldName = step.fieldName) := by
  cases step with
  | column mapped =>
      exact mem_identifier_addIdentifier mapped.isId mapped.fieldName fieldName record
  | association mapped =>
      exact mem_identifier_addIdentifier mapped.isId mapped.fieldName fieldName record
  | embedded mapped =>
      constructor
      · exact Or.inl
      · rintro (member | ⟨flagged, -⟩)
        · exact member
        · cases flagged

/-- The names in the identifier are those of all calls with the flag. -/
theorem mem_identifier_mapAll (className : String) (steps : List MappingStep)
    (fieldName : String) :
    fieldName ∈ (mapAll steps (.empty className)).identifier ↔
      ∃ step ∈ steps, step.isId = true ∧ fieldName = step.fieldName := by
  induction steps using List.reverseRecOn with
  | nil => simp [mapAll, empty]
  | append_singleton steps step ih =>
      rw [mapAll_append_singleton, mem_identifier_apply, ih]
      constructor
      · rintro (⟨earlier, member, flagged⟩ | flagged)
        · exact ⟨earlier, List.mem_append_left _ member, flagged⟩
        · exact ⟨step, List.mem_append_right _ List.mem_cons_self, flagged⟩
      · rintro ⟨earlier, member, flagged⟩
        rcases List.mem_append.mp member with before | last
        · exact Or.inl ⟨earlier, before, flagged⟩
        · rw [List.mem_singleton.mp last] at flagged
          exact Or.inr flagged

/-! ## Which entries are in the record -/

theorem holds_apply (step other : MappingStep) (record : ClassMapping) :
    (step.apply record).Holds other ↔
      other = step ∨ (record.Holds other ∧ ¬ step.Replaces other) := by
  cases step with
  | column mapped =>
      cases other with
      | column other =>
          have found := Named.find?_put_eq_some_iff Column.fieldName mapped other record.columns
          rw [← columns_mapColumn] at found
          rw [MappingStep.column.injEq]
          exact found
      | association other =>
          have kept := associations_mapColumn mapped record
          simp [MappingStep.apply, Holds, association?, kept, MappingStep.Replaces]
      | embedded other =>
          have kept := embedded_mapColumn mapped record
          simp [MappingStep.apply, Holds, embedded?, kept, MappingStep.Replaces]
  | association mapped =>
      cases other with
      | column other =>
          have kept := columns_mapAssociation mapped record
          simp [MappingStep.apply, Holds, column?, kept, MappingStep.Replaces]
      | association other =>
          have found :=
            Named.find?_put_eq_some_iff Association.fieldName mapped other record.associations
          rw [← associations_mapAssociation] at found
          rw [MappingStep.association.injEq]
          exact found
      | embedded other =>
          have kept := embedded_mapAssociation mapped record
          simp [MappingStep.apply, Holds, embedded?, kept, MappingStep.Replaces]
  | embedded mapped =>
      cases other with
      | column other =>
          simp [MappingStep.apply, Holds, column?, mapEmbedded, MappingStep.Replaces]
      | association other =>
          simp [MappingStep.apply, Holds, association?, mapEmbedded, MappingStep.Replaces]
      | embedded other =>
          have found := Named.find?_put_eq_some_iff Embedded.fieldName mapped other record.embedded
          rw [MappingStep.embedded.injEq]
          exact found

/-- The entries in the record are those of the calls that no later call replaces. -/
theorem holds_mapAll (className : String) (steps : List MappingStep) (step : MappingStep) :
    (mapAll steps (.empty className)).Holds step ↔
      ∃ before behind, steps = before ++ step :: behind ∧
        ∀ later ∈ behind, ¬ later.Replaces step := by
  induction steps using List.reverseRecOn with
  | nil =>
      constructor
      · intro held
        cases step <;> cases held
      · rintro ⟨before, behind, nothing, -⟩
        simp at nothing
  | append_singleton steps last ih =>
      rw [mapAll_append_singleton, holds_apply, ih]
      constructor
      · rintro (rfl | ⟨⟨before, behind, rfl, kept⟩, notReplaced⟩)
        · exact ⟨steps, [], rfl, List.forall_mem_nil _⟩
        · refine ⟨before, behind ++ [last], by simp, ?_⟩
          exact List.forall_mem_append.mpr ⟨kept, List.forall_mem_singleton.mpr notReplaced⟩
      · rintro ⟨before, behind, same, kept⟩
        induction behind using List.reverseRecOn with
        | nil => exact Or.inl (List.singleton_inj.mp (List.append_inj' same rfl).2).symm
        | append_singleton behind stop _ =>
            rw [← List.cons_append, ← List.append_assoc] at same
            obtain ⟨rfl, isStop⟩ := List.append_inj' same rfl
            cases isStop
            obtain ⟨kept, notReplaced⟩ := List.forall_mem_append.mp kept
            exact Or.inr ⟨⟨before, behind, rfl, kept⟩, notReplaced last List.mem_cons_self⟩

/-! ## Where both agree -/

theorem hasIdFlag_iff (record : ClassMapping) (fieldName : String) :
    record.HasIdFlag fieldName ↔
      ∃ step, record.Holds step ∧ step.isId = true ∧ step.fieldName = fieldName := by
  constructor
  · rintro (⟨mapped, found, flagged⟩ | ⟨mapped, found, flagged⟩)
    · obtain rfl : mapped.fieldName = fieldName := by simpa using List.find?_some found
      exact ⟨.column mapped, found, flagged, rfl⟩
    · obtain rfl : mapped.fieldName = fieldName := by simpa using List.find?_some found
      exact ⟨.association mapped, found, flagged, rfl⟩
  · rintro ⟨step, held, flagged, rfl⟩
    cases step with
    | column mapped => exact Or.inl ⟨mapped, held, flagged⟩
    | association mapped => exact Or.inr ⟨mapped, held, flagged⟩
    | embedded mapped => cases flagged

/-- A field with the flag is in the identifier. -/
theorem mem_identifier_of_hasIdFlag {className fieldName : String} {steps : List MappingStep}
    (flagged : (mapAll steps (.empty className)).HasIdFlag fieldName) :
    fieldName ∈ (mapAll steps (.empty className)).identifier := by
  obtain ⟨step, held, isId, named⟩ := (hasIdFlag_iff _ fieldName).mp flagged
  obtain ⟨before, behind, rfl, -⟩ := (holds_mapAll className steps step).mp held
  exact (mem_identifier_mapAll className _ fieldName).mpr
    ⟨step, List.mem_append_right before List.mem_cons_self, isId, named.symm⟩

/-- If no call takes back a flag, the identifier consists of the fields with the flag. -/
theorem identifierAgrees_mapAll (className : String) {steps : List MappingStep}
    (keep : steps.Pairwise MappingStep.KeepsFlag) :
    (mapAll steps (.empty className)).IdentifierAgrees := by
  refine fun fieldName => ⟨?_, mem_identifier_of_hasIdFlag⟩
  induction steps using List.reverseRecOn with
  | nil => exact fun member => absurd member List.not_mem_nil
  | append_singleton steps last ih =>
      obtain ⟨keepBefore, -, keepLast⟩ := List.pairwise_append.mp keep
      rw [mapAll_append_singleton, mem_identifier_apply, hasIdFlag_iff]
      rintro (before | ⟨isId, named⟩)
      · obtain ⟨step, held, isId, named⟩ := (hasIdFlag_iff _ fieldName).mp (ih keepBefore before)
        by_cases replaced : last.Replaces step
        · obtain ⟨front, behind, rfl, -⟩ := (holds_mapAll className steps step).mp held
          have among : step ∈ front ++ step :: behind :=
            List.mem_append_right front List.mem_cons_self
          refine ⟨last, (holds_apply last last _).mpr (Or.inl rfl),
            keepLast step among last List.mem_cons_self replaced isId, ?_⟩
          exact replaced.fieldName_eq.trans named
        · exact ⟨step, (holds_apply last step _).mpr (Or.inr ⟨held, replaced⟩), isId, named⟩
      · exact ⟨last, (holds_apply last last _).mpr (Or.inl rfl), isId, named.symm⟩

/-! ## Records with the same mapped fields -/

/-- Two records in which the same fields are mapped and belong to the identifier. -/
structure SameFields (left right : ClassMapping) : Prop where
  columns : left.columns = right.columns
  associations : left.associations = right.associations
  embedded : left.embedded = right.embedded
  identifier : left.identifier = right.identifier

namespace SameFields

variable {left middle right : ClassMapping}

theorem refl (record : ClassMapping) : SameFields record record :=
  ⟨rfl, rfl, rfl, rfl⟩

theorem trans (first : SameFields left middle) (second : SameFields middle right) :
    SameFields left right where
  columns := first.columns.trans second.columns
  associations := first.associations.trans second.associations
  embedded := first.embedded.trans second.embedded
  identifier := first.identifier.trans second.identifier

theorem symm (same : SameFields left right) : SameFields right left where
  columns := same.columns.symm
  associations := same.associations.symm
  embedded := same.embedded.symm
  identifier := same.identifier.symm

theorem identifier_addIdentifier (same : SameFields left right) (isId : Bool)
    (fieldName : String) :
    (left.addIdentifier isId fieldName).identifier =
      (right.addIdentifier isId fieldName).identifier := by
  unfold addIdentifier
  rw [same.identifier]
  split
  · rfl
  · exact same.identifier

theorem apply (same : SameFields left right) (step : MappingStep) :
    SameFields (step.apply left) (step.apply right) := by
  cases step with
  | column mapped =>
      exact
        { columns := by
            rw [MappingStep.apply, MappingStep.apply, columns_mapColumn, columns_mapColumn,
              same.columns]
          associations := by
            rw [MappingStep.apply, MappingStep.apply, associations_mapColumn,
              associations_mapColumn, same.associations]
          embedded := by
            rw [MappingStep.apply, MappingStep.apply, embedded_mapColumn, embedded_mapColumn,
              same.embedded]
          identifier := same.identifier_addIdentifier mapped.isId mapped.fieldName }
  | association mapped =>
      exact
        { columns := by
            rw [MappingStep.apply, MappingStep.apply, columns_mapAssociation,
              columns_mapAssociation, same.columns]
          associations := by
            rw [MappingStep.apply, MappingStep.apply, associations_mapAssociation,
              associations_mapAssociation, same.associations]
          embedded := by
            rw [MappingStep.apply, MappingStep.apply, embedded_mapAssociation,
              embedded_mapAssociation, same.embedded]
          identifier := same.identifier_addIdentifier mapped.isId mapped.fieldName }
  | embedded mapped =>
      exact
        { same with
          embedded := congrArg (Named.put Embedded.fieldName mapped) same.embedded }

theorem mapAll (same : SameFields left right) (steps : List MappingStep) :
    SameFields (left.mapAll steps) (right.mapAll steps) := by
  induction steps generalizing left right with
  | nil => exact same
  | cons step steps ih => exact ih (same.apply step)

theorem hasIdFlag_iff (same : SameFields left right) (fieldName : String) :
    left.HasIdFlag fieldName ↔ right.HasIdFlag fieldName := by
  rw [HasIdFlag, HasIdFlag, column?, column?, association?, association?, same.columns,
    same.associations]

end SameFields

end ClassMapping

end EntityMapping.Record
