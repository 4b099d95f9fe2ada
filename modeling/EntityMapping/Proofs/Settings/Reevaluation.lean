import EntityMapping.Proofs.Record.MappingLists
import EntityMapping.Proofs.Settings.ExplicitStrategy
import EntityMapping.Proofs.Settings.Independence

/-!
# Evaluating a type again

The annotations of a type may be evaluated into a record that already has them.  Whatever they
set is set again, and whatever they only add to a list without doubles is there; keys and
versions are set, or chosen in the place of none.  Only queries and result sets are listed once
more.  Main statement: a second evaluation changes a record in nothing else.
-/

namespace EntityMapping.Named

variable {α : Type} {name : α → String}

theorem mem_names_putAll (added items : List α) (wanted : String) :
    wanted ∈ (putAll name added items).map name ↔
      wanted ∈ items.map name ∨ wanted ∈ added.map name := by
  induction added generalizing items with
  | nil => simp [putAll]
  | cons first others ih =>
      rw [putAll_cons, ih, mem_names_put, or_assoc, List.map_cons, List.mem_cons]

/-- An item that is put in the end need not be put before, if all others have a place. -/
theorem put_putAll_put {added items : List α} (item : α)
    (present : ∀ other ∈ added, name other ∈ items.map name) :
    put name item (putAll name added (put name item items)) =
      put name item (putAll name added items) := by
  induction added generalizing items with
  | nil => exact put_put name rfl items
  | cons first others ih =>
      obtain ⟨here, behind⟩ := List.forall_mem_cons.mp present
      rw [putAll_cons, putAll_cons]
      by_cases same : name first = name item
      · rw [put_put name same]
      · rw [put_comm same here]
        refine ih fun other among => ?_
        exact (mem_names_put name first items (name other)).mpr (Or.inl (behind other among))

/-- Items that have been put can be put again without effect. -/
theorem putAll_putAll (added items : List α) :
    putAll name added (putAll name added items) = putAll name added items := by
  induction added using List.reverseRecOn with
  | nil => rfl
  | append_singleton added last ih =>
      have present : ∀ other ∈ added, name other ∈ (putAll name added items).map name :=
        fun other among =>
          (mem_names_putAll added items (name other)).mpr (Or.inr (List.mem_map_of_mem among))
      calc putAll name (added ++ [last]) (putAll name (added ++ [last]) items)
          = put name last (putAll name added (put name last (putAll name added items))) := by
            rw [putAll_append_singleton, putAll_append_singleton]
        _ = put name last (putAll name added (putAll name added items)) :=
            put_putAll_put last present
        _ = put name last (putAll name added items) := by rw [ih]
        _ = putAll name (added ++ [last]) items := (putAll_append_singleton added last items).symm

end EntityMapping.Named

namespace EntityMapping.Record

/-! ## Calls -/

namespace ClassMapping

/-- A name that is in the identifier takes its own place. -/
theorem identifier_addIdentifier (isId : Bool) (fieldName : String) (record : ClassMapping) :
    (record.addIdentifier isId fieldName).identifier =
      Named.putAll id (if isId then some fieldName else none).toList record.identifier := by
  have put := Named.map_name_put id fieldName record.identifier
  simp only [List.map_id, id] at put
  cases isId with
  | false => rfl
  | true =>
      change _ = Named.put id fieldName record.identifier
      rw [put]
      by_cases present : fieldName ∈ record.identifier
      · simp [addIdentifier, present]
      · simp [addIdentifier, present]

theorem putInto_identifier : PutInto identifier MappingStep.identifier? id := by
  intro step record
  cases step with
  | column mapped => exact identifier_addIdentifier mapped.isId mapped.fieldName record
  | association mapped => exact identifier_addIdentifier mapped.isId mapped.fieldName record
  | embedded mapped => rfl

namespace PutInto

variable {α : Type} {part : ClassMapping → List α} {part? : MappingStep → Option α}
  {name : α → String}

theorem mapAll_mapAll (puts : PutInto part part? name) (steps : List MappingStep)
    (record : ClassMapping) :
    part ((record.mapAll steps).mapAll steps) = part (record.mapAll steps) := by
  rw [puts.mapAll steps (record.mapAll steps), puts.mapAll steps record, Named.putAll_putAll]

end PutInto

/-- Calls that have been made can be made again without effect. -/
theorem mapAll_mapAll_sameFields (steps : List MappingStep) (record : ClassMapping) :
    ((record.mapAll steps).mapAll steps).SameFields (record.mapAll steps) where
  columns := putInto_columns.mapAll_mapAll steps record
  associations := putInto_associations.mapAll_mapAll steps record
  embedded := putInto_embedded.mapAll_mapAll steps record
  identifier := putInto_identifier.mapAll_mapAll steps record

/-- The class, the fields, and keys and versions are all that a record holds. -/
theorem eq_of_same {left right : ClassMapping} (sameClass : left.SameClass right)
    (sameFields : left.SameFields right)
    (sameKeys : left.keyGeneration = right.keyGeneration) : left = right := by
  rw [keyGeneration, keyGeneration, KeyGeneration.mk.injEq] at sameKeys
  cases left
  cases right
  obtain ⟨rfl, rfl, rfl, rfl, rfl, rfl, rfl, rfl, rfl, rfl, rfl, rfl, rfl⟩ := sameClass
  obtain ⟨rfl, rfl, rfl, rfl⟩ := sameFields
  obtain ⟨rfl, rfl, rfl, rfl⟩ := sameKeys
  rfl

end ClassMapping

end EntityMapping.Record

namespace EntityMapping.Settings

open EntityMapping.Document
open EntityMapping.Record

/-! ## Keys and versions -/

/-- An entry that a run sets to something else, or leaves as it is. -/
def Sets {α : Type} (run : KeyGeneration → KeyGeneration) (entry : KeyGeneration → Option α) :
    Prop :=
  ∃ set : Option α, ∀ before, entry (run before) = set.or (entry before)

/-- What a run makes of the strategy does not depend on the one before, or it chooses a strategy
in the place of none. -/
def SetsStrategy (run : KeyGeneration → KeyGeneration) : Prop :=
  (∃ strategy, ∀ before, (run before).strategy = strategy) ∨
    ∃ strategy, ∀ before, (run before).strategy = before.strategy.or strategy

/-- A run that makes the same of keys and versions when it comes to them again. -/
structure Overrides (run : KeyGeneration → KeyGeneration) : Prop where
  strategy : SetsStrategy run
  sequence : Sets run KeyGeneration.sequence
  custom : Sets run KeyGeneration.custom
  versionField : Sets run KeyGeneration.versionField

section Runs

variable {α : Type} {first last run : KeyGeneration → KeyGeneration}
  {entry : KeyGeneration → Option α}

theorem Sets.comp (ofLast : Sets last entry) (ofFirst : Sets first entry) :
    Sets (last ∘ first) entry := by
  obtain ⟨late, setLast⟩ := ofLast
  obtain ⟨early, setFirst⟩ := ofFirst
  refine ⟨late.or early, fun before => ?_⟩
  rw [Function.comp_apply, setLast, setFirst, Option.or_assoc]

theorem Sets.again (sets : Sets run entry) (before : KeyGeneration) :
    entry (run (run before)) = entry (run before) := by
  obtain ⟨set, isSet⟩ := sets
  rw [isSet, isSet, ← Option.or_assoc, Option.or_self]

theorem SetsStrategy.comp (ofLast : SetsStrategy last) (ofFirst : SetsStrategy first) :
    SetsStrategy (last ∘ first) := by
  rcases ofLast with ⟨strategy, sets⟩ | ⟨strategy, chooses⟩
  · exact Or.inl ⟨strategy, fun before => sets (first before)⟩
  · rcases ofFirst with ⟨earlier, sets⟩ | ⟨earlier, choosesFirst⟩
    · refine Or.inl ⟨earlier.or strategy, fun before => ?_⟩
      rw [Function.comp_apply, chooses, sets]
    · refine Or.inr ⟨earlier.or strategy, fun before => ?_⟩
      rw [Function.comp_apply, chooses, choosesFirst, IdGenerator.or_assoc]

theorem SetsStrategy.again (sets : SetsStrategy run) (before : KeyGeneration) :
    (run (run before)).strategy = (run before).strategy := by
  rcases sets with ⟨strategy, isSet⟩ | ⟨strategy, chooses⟩
  · rw [isSet, isSet]
  · rw [chooses, chooses, IdGenerator.or_assoc, IdGenerator.or_self]

namespace Overrides

theorem id : Overrides id where
  strategy := Or.inr ⟨.none, fun before => before.strategy.or_none.symm⟩
  sequence := ⟨none, fun _ => rfl⟩
  custom := ⟨none, fun _ => rfl⟩
  versionField := ⟨none, fun _ => rfl⟩

theorem comp (ofLast : Overrides last) (ofFirst : Overrides first) :
    Overrides (last ∘ first) where
  strategy := ofLast.strategy.comp ofFirst.strategy
  sequence := ofLast.sequence.comp ofFirst.sequence
  custom := ofLast.custom.comp ofFirst.custom
  versionField := ofLast.versionField.comp ofFirst.versionField

theorem again (overrides : Overrides run) (before : KeyGeneration) :
    run (run before) = run before := by
  have strategy := overrides.strategy.again before
  have sequence := overrides.sequence.again before
  have custom := overrides.custom.again before
  have versionField := overrides.versionField.again before
  generalize run (run before) = second at *
  generalize run before = once at *
  cases second
  cases once
  rw [KeyGeneration.mk.injEq]
  exact ⟨strategy, sequence, custom, versionField⟩

end Overrides

theorem KeySource.exists_choose_eq_or (source : KeySource) :
    ∃ other, ∀ strategy, source.choose strategy = strategy.or other := by
  cases source with
  | unspecified => exact ⟨.none, fun strategy => strategy.or_none.symm⟩
  | sequence definition => exact ⟨.sequence, fun _ => rfl⟩
  | custom className => exact ⟨.custom, fun _ => rfl⟩

theorem ColumnSettings.overrides_generate (settings : ColumnSettings) :
    Overrides settings.generate where
  strategy := by
    obtain ⟨other, chooses⟩ := settings.keySource.exists_choose_eq_or
    cases named : settings.generator with
    | some strategy =>
        refine Or.inl ⟨strategy.or other, fun before => ?_⟩
        rw [generate, nextStrategy, named, chooses, Option.getD_some]
    | none =>
        refine Or.inr ⟨other, fun before => ?_⟩
        rw [generate, nextStrategy, named, chooses, Option.getD_none]
  sequence := ⟨settings.keySource.sequence?, fun _ => rfl⟩
  custom := ⟨settings.keySource.custom?, fun _ => rfl⟩
  versionField := by
    cases counts : settings.isVersion with
    | true => exact ⟨some settings.column.fieldName, fun _ => by rw [generate, counts]; rfl⟩
    | false => exact ⟨none, fun _ => by rw [generate, counts]; rfl⟩

theorem FieldSettings.overrides_generate (settings : FieldSettings) :
    Overrides settings.generate := by
  obtain ⟨fieldName, cache, kind⟩ := settings
  cases kind with
  | column column => exact column.overrides_generate
  | association association => exact .id
  | embedded embedded => exact .id
  | transient => exact .id

theorem overrides_generate (field : Field) : Overrides (generate · field) := by
  unfold generate
  cases FieldSettings.ofField field with
  | error fault => exact .id
  | ok settings => exact settings.overrides_generate

/-- Fields make the same of keys and versions when they come to them again. -/
theorem overrides_foldl_generate (fields : List Field) :
    Overrides (fields.foldl generate ·) := by
  induction fields with
  | nil => exact .id
  | cons field fields ih => exact ih.comp (overrides_generate field)

end Runs

/-! ## The class -/

namespace KindSettings

/-- The kind of class that is set. -/
def entityKind : KindSettings → EntityKind
  | entity _ _ => .entity
  | mappedSuperclass _ => .mappedSuperclass
  | embeddable => .embeddable

/-- The repository class that is set, if there is one. -/
def repositoryClass? : KindSettings → Option String
  | entity repositoryClass _ => repositoryClass
  | mappedSuperclass repositoryClass => repositoryClass
  | embeddable => none

/-- Whether the class is set to be read only. -/
def isReadOnly : KindSettings → Bool
  | entity _ readOnly => readOnly
  | _ => false

theorem apply_eq (settings : KindSettings) (record : ClassMapping) :
    settings.apply record =
      { record with
        kind := settings.entityKind
        repositoryClass := settings.repositoryClass?.or record.repositoryClass
        readOnly := settings.isReadOnly || record.readOnly } := by
  cases settings <;> rfl

end KindSettings

namespace InheritanceSettings

/-- The way of inheriting that is set. -/
def strategy : InheritanceSettings → Inheritance
  | none => .none
  | hierarchy strategy _ _ => strategy

/-- The discriminator that is set, if there is a hierarchy. -/
def discriminator? : InheritanceSettings → Option Discriminator
  | none => .none
  | hierarchy _ discriminator _ => some discriminator

/-- The classes by discriminator value that are set, if there is a hierarchy. -/
def classes? : InheritanceSettings → Option (Keyed String)
  | none => .none
  | hierarchy _ _ classes => some classes

theorem apply_eq (settings : InheritanceSettings) (record : ClassMapping) :
    settings.apply record =
      { record with
        inheritance := settings.strategy
        discriminator := settings.discriminator?.or record.discriminator
        discriminatorMap := settings.classes?.getD record.discriminatorMap } := by
  cases settings <;> rfl

end InheritanceSettings

namespace ClassSettings

theorem apply_eq (className : String) (settings : ClassSettings) (record : ClassMapping) :
    settings.apply className record =
      { record with
        kind := settings.kind.entityKind
        repositoryClass := settings.kind.repositoryClass?.or record.repositoryClass
        readOnly := settings.kind.isReadOnly || record.readOnly
        table := settings.table.or record.table
        cache := (settings.cache.map
          (·.withDefaults ⟨.readOnly, defaultRegion className⟩)).or record.cache
        inheritance := (settings.inheritance.map (·.strategy)).getD record.inheritance
        discriminator := (settings.inheritance.bind (·.discriminator?)).or record.discriminator
        discriminatorMap := (settings.inheritance.bind (·.classes?)).getD record.discriminatorMap
        changeTracking := settings.changeTracking.getD record.changeTracking
        namedQueries := record.namedQueries ++ settings.namedQueries
        nativeQueries := record.nativeQueries ++ settings.nativeQueries
        resultSetMappings := record.resultSetMappings ++ settings.resultSetMappings } := by
  rw [apply, settings.kind.apply_eq]
  cases settings.inheritance with
  | none => rfl
  | some inheritance => exact inheritance.apply_eq _

/-- The record with queries and result sets listed behind its own. -/
def listQueries (settings : ClassSettings) (record : ClassMapping) : ClassMapping :=
  { record with
    namedQueries := record.namedQueries ++ settings.namedQueries
    nativeQueries := record.nativeQueries ++ settings.nativeQueries
    resultSetMappings := record.resultSetMappings ++ settings.resultSetMappings }

/-- What has been set in the place of something else can be set again. -/
theorem or_eq_of_eq_or {α : Type} {set before after : Option α} (same : after = set.or before) :
    set.or after = after := by
  rw [same, ← Option.or_assoc, Option.or_self]

theorem getD_eq_of_eq_getD {α : Type} {set : Option α} {before after : α}
    (same : after = set.getD before) : set.getD after = after := by
  rw [same]
  cases set <;> rfl

/-- Where a class has been set, setting it again only lists queries and result sets. -/
theorem apply_again {className : String} {settings : ClassSettings} {record first : ClassMapping}
    (same : first.SameClass (settings.apply className record)) :
    (settings.apply className first).SameClass (settings.listQueries first) := by
  rw [apply_eq] at same
  rw [apply_eq]
  exact
    { name := rfl
      kind := same.kind.symm
      repositoryClass := or_eq_of_eq_or same.repositoryClass
      readOnly := by
        change (settings.kind.isReadOnly || first.readOnly) = first.readOnly
        rw [same.readOnly, ← Bool.or_assoc, Bool.or_self]
      table := or_eq_of_eq_or same.table
      cache := or_eq_of_eq_or same.cache
      inheritance := getD_eq_of_eq_getD same.inheritance
      discriminator := or_eq_of_eq_or same.discriminator
      discriminatorMap := getD_eq_of_eq_getD same.discriminatorMap
      changeTracking := getD_eq_of_eq_getD same.changeTracking
      namedQueries := rfl
      nativeQueries := rfl
      resultSetMappings := rfl }

end ClassSettings

/-! ## The type -/

section Types

variable {className : String} {type : ObjectType} {record first : ClassMapping}

/-- Where settings have been applied, applying them again only lists queries and result sets. -/
theorem TypeSettings.apply_again {settings : TypeSettings} (read : ofType type = .ok settings)
    (record : ClassMapping) :
    settings.apply className (settings.apply className record) =
      settings.ofClass.listQueries (settings.apply className record) := by
  obtain ⟨ofClass, -, read⟩ := bind_eq_ok_iff.mp read
  obtain ⟨ofFields, readFields, read⟩ := bind_eq_ok_iff.mp read
  cases read
  rw [apply, apply]
  dsimp only
  -- what the first run makes of the class, before it comes to the fields
  generalize onceSet : ofClass.apply className record = base
  obtain ⟨firstClass, firstFields⟩ := FieldSettings.applyAll_same (.refl base) ofFields
  have firstKeys := keyGeneration_foldl readFields base
  generalize ofFields.foldl (fun record field => field.apply record) base = first at *
  have again := ClassSettings.apply_again (onceSet ▸ firstClass)
  have unchanged := ofClass.apply_sameFields className first
  have kept := ofClass.keyGeneration_apply className first
  generalize ofClass.apply className first = next at *
  obtain ⟨secondClass, secondFields⟩ := FieldSettings.applyAll_same (.refl next) ofFields
  have secondKeys := keyGeneration_foldl readFields next
  -- associations are cached as in the first run, so fields are mapped by the same calls
  have sameCalls : FieldSettings.step? next = FieldSettings.step? base := by
    refine funext (FieldSettings.step?_congr fun fieldName => ?_)
    exact (again.associationCache fieldName).trans (firstClass.associationCache fieldName)
  rw [sameCalls] at secondFields
  refine ClassMapping.eq_of_same (secondClass.trans again) ?_ ?_
  · have mappedAgain := secondFields.trans ((unchanged.trans firstFields).mapAll _)
    have same := (mappedAgain.trans (ClassMapping.mapAll_mapAll_sameFields _ base)).trans
      firstFields.symm
    exact { same with }
  · calc _ = type.fields.foldl generate first.keyGeneration := by rw [secondKeys, kept]
      _ = type.fields.foldl generate (type.fields.foldl generate base.keyGeneration) := by
        rw [firstKeys]
      _ = first.keyGeneration := by
        rw [firstKeys]
        exact (overrides_foldl_generate type.fields).again base.keyGeneration

theorem evaluate_eq_ok_iff :
    evaluate className type record = .ok first ↔
      ∃ settings, TypeSettings.ofType type = .ok settings ∧
        settings.apply className record = first := by
  unfold evaluate
  cases TypeSettings.ofType type <;> simp

/-- A type that has been evaluated into a record can be evaluated into it again, and this leaves
the record as it is, except that the queries and the result sets which the type declares, and
which the first run has listed, are listed once more. -/
theorem evaluate_again (evaluated : evaluate className type record = .ok first) :
    ∃ namedQueries nativeQueries resultSetMappings,
      ClassSettings.readEach .namedQueries "queries" ClassSettings.readNamedQuery
        type.directives = .ok namedQueries ∧
      ClassSettings.readEach .nativeQueries "queries" ClassSettings.readNativeQuery
        type.directives = .ok nativeQueries ∧
      ClassSettings.readEach .resultSetMappings "mappings" ClassSettings.readResultSetMapping
        type.directives = .ok resultSetMappings ∧
      first.namedQueries = record.namedQueries ++ namedQueries ∧
      first.nativeQueries = record.nativeQueries ++ nativeQueries ∧
      first.resultSetMappings = record.resultSetMappings ++ resultSetMappings ∧
      evaluate className type first = .ok
        { first with
          namedQueries := first.namedQueries ++ namedQueries
          nativeQueries := first.nativeQueries ++ nativeQueries
          resultSetMappings := first.resultSetMappings ++ resultSetMappings } := by
  obtain ⟨settings, read, rfl⟩ := evaluate_eq_ok_iff.mp evaluated
  have second : evaluate className type (settings.apply className record) =
      .ok (settings.ofClass.listQueries (settings.apply className record)) :=
    evaluate_eq_ok_iff.mpr ⟨settings, read, TypeSettings.apply_again read record⟩
  obtain ⟨ofClass, readClass, read⟩ := bind_eq_ok_iff.mp read
  obtain ⟨ofFields, readFields, read⟩ := bind_eq_ok_iff.mp read
  cases read
  have declares := ClassSettings.readFrom_of_ofDirectives readClass
  obtain ⟨listed, -⟩ :=
    FieldSettings.applyAll_same (.refl (ofClass.apply className record)) ofFields
  have once := ofClass.apply_eq className record
  refine ⟨_, _, _, declares.namedQueries, declares.nativeQueries, declares.resultSetMappings,
    listed.namedQueries.trans ?_, listed.nativeQueries.trans ?_,
    listed.resultSetMappings.trans ?_, second⟩
  · rw [once]
  · rw [once]
  · rw [once]

end Types

/-- A ledger with a query, and a key that is declared twice: with a sequence, and without a
strategy. -/
def ledgerType : ObjectType :=
  ⟨none, "Ledger", [],
    [⟨"Entity", [], ⟨0, 0⟩⟩, ⟨"Cache", [], ⟨0, 0⟩⟩,
      ⟨"NamedQueries", [⟨"queries", .list [.object [("name", .string "all"),
        ("query", .string "SELECT")]], ⟨0, 0⟩⟩], ⟨0, 0⟩⟩],
    [⟨none, "key", [], .named "ID",
        [⟨"Column", [], ⟨0, 0⟩⟩, ⟨"Id", [], ⟨0, 0⟩⟩,
          ⟨"SequenceGenerator", [⟨"name", .string "keys", ⟨0, 0⟩⟩], ⟨0, 0⟩⟩], ⟨0, 0⟩⟩,
      ⟨none, "key", [], .named "ID",
        [⟨"Column", [], ⟨0, 0⟩⟩, ⟨"Cache", [], ⟨0, 0⟩⟩,
          ⟨"GeneratedValue", [⟨"strategy", .string "NONE", ⟨0, 0⟩⟩], ⟨0, 0⟩⟩], ⟨0, 0⟩⟩], ⟨0, 0⟩⟩

/-- The ledger's query is listed twice, and nothing else changes. -/
theorem ledgerType_again : ∃ first,
    evaluateNew "Ledger" ledgerType = .ok first ∧ first.namedQueries = [⟨"all", "SELECT"⟩] ∧
      evaluate "Ledger" ledgerType first =
        .ok { first with namedQueries := [⟨"all", "SELECT"⟩, ⟨"all", "SELECT"⟩] } := by
  have succeeds : (evaluateNew "Ledger" ledgerType).map (fun _ => ()) = .ok () := by
    rfl
  obtain ⟨first, evaluated, -⟩ := map_eq_ok_iff.mp succeeds
  obtain ⟨named, native, mappings, readNamed, readNative, readMappings, ofNamed, ofNative,
    ofMappings, again⟩ := evaluate_again evaluated
  cases readNamed
  cases readNative
  cases readMappings
  refine ⟨first, evaluated, ofNamed, ?_⟩
  rw [again, ofNamed, List.append_nil, List.append_nil]
  rfl

end EntityMapping.Settings
