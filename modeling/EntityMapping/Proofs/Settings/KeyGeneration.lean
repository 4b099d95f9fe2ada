import EntityMapping.Proofs.Settings.Contribution

/-!
# Keys and versions

Four entries of a record say how keys are made and which field counts versions.  They are
shared by all fields: a column may set each of them, and a column whose keys come from
somewhere of its own chooses the strategy as long as there is none.  Main statement: what an
evaluated record says of keys is what its fields, one after another, make of a record that
says nothing.
-/

namespace EntityMapping.Record

/-- How the keys and versions of a class come about. -/
structure KeyGeneration where
  strategy : IdGenerator
  sequence : Option Attributes
  custom : Option String
  versionField : Option String

namespace KeyGeneration

/-- Keys and versions about which nothing is known yet. -/
def unknown : KeyGeneration :=
  ⟨.none, none, none, none⟩

end KeyGeneration

/-- What a record says of keys and versions. -/
def ClassMapping.keyGeneration (record : ClassMapping) : KeyGeneration :=
  ⟨record.idGenerator, record.sequenceDefinition, record.customGenerator, record.versionField⟩

theorem ClassMapping.keyGeneration_mapColumn (column : Column) (record : ClassMapping) :
    (record.mapColumn column).keyGeneration = record.keyGeneration := by
  unfold mapColumn addIdentifier
  dsimp only
  split <;> rfl

theorem ClassMapping.keyGeneration_mapAssociation (association : Association)
    (record : ClassMapping) :
    (record.mapAssociation association).keyGeneration = record.keyGeneration := by
  unfold mapAssociation addIdentifier
  dsimp only
  split <;> rfl

end EntityMapping.Record

namespace EntityMapping.Settings

open EntityMapping.Document
open EntityMapping.Record

/-! ## What a column makes of them -/

namespace KeySource

/-- The strategy that a source stands for, in the place of none. -/
def choose (strategy : IdGenerator) : KeySource → IdGenerator
  | unspecified => strategy
  | sequence _ => if strategy = .none then .sequence else strategy
  | custom _ => if strategy = .none then .custom else strategy

/-- The definition of a sequence, where there is one. -/
def sequence? : KeySource → Option Attributes
  | sequence definition => some definition
  | _ => none

/-- The class of a custom generator, where there is one. -/
def custom? : KeySource → Option String
  | custom className => some className
  | _ => none

/-- A strategy that has been chosen stays. -/
theorem choose_of_ne_none {strategy : IdGenerator} (chosen : strategy ≠ .none)
    (source : KeySource) : source.choose strategy = strategy := by
  cases source with
  | unspecified => rfl
  | sequence definition => exact if_neg chosen
  | custom className => exact if_neg chosen

end KeySource

namespace ColumnSettings

/-- The strategy after a column: the one that it names, or the one from before, unless there
is none and the column has a source of its own. -/
def nextStrategy (settings : ColumnSettings) (strategy : IdGenerator) : IdGenerator :=
  settings.keySource.choose (settings.generator.getD strategy)

/-- What a column makes of keys and versions. -/
def generate (settings : ColumnSettings) (before : KeyGeneration) : KeyGeneration where
  strategy := settings.nextStrategy before.strategy
  sequence := settings.keySource.sequence?.or before.sequence
  custom := settings.keySource.custom?.or before.custom
  versionField :=
    if settings.isVersion then some settings.column.fieldName else before.versionField

theorem keyGeneration_applyKeySource (record : ClassMapping) (source : KeySource) :
    (applyKeySource record source).keyGeneration =
      ⟨source.choose record.idGenerator, source.sequence?.or record.sequenceDefinition,
        source.custom?.or record.customGenerator, record.versionField⟩ := by
  cases source with
  | unspecified => rfl
  | sequence definition =>
      rw [applyKeySource, chooseGenerator, KeySource.choose]
      split <;> rfl
  | custom className =>
      rw [applyKeySource, chooseGenerator, KeySource.choose]
      split <;> rfl

theorem keyGeneration_apply (cache : Option CacheSettings) (settings : ColumnSettings)
    (record : ClassMapping) :
    (settings.apply cache record).keyGeneration = settings.generate record.keyGeneration := by
  have mapped := ClassMapping.keyGeneration_mapColumn (settings.stored cache)
    { record with
      idGenerator := settings.generator.getD record.idGenerator
      versionField :=
        if settings.isVersion then some settings.column.fieldName else record.versionField }
  rw [ClassMapping.keyGeneration, ClassMapping.keyGeneration, KeyGeneration.mk.injEq] at mapped
  obtain ⟨strategy, sequence, custom, version⟩ := mapped
  rw [apply, keyGeneration_applyKeySource, strategy, sequence, custom, version]
  rfl

/-- Two columns that do not both say the same thing about keys, and do not name the strategy
of having none. -/
structure Apart (left right : ColumnSettings) : Prop where
  strategy : left.generator = none ∨ right.generator = none
  source : left.keySource = .unspecified ∨ right.keySource = .unspecified
  version : left.isVersion = false ∨ right.isVersion = false
  left : left.generator ≠ some .none
  right : right.generator ≠ some .none

namespace Apart

variable {left right : ColumnSettings}

/-- A column that names a strategy, and one with a source of its own, in either order. -/
theorem nextStrategy_comm_of_sourceless (unnamed : left.generator = none)
    (sourceless : right.keySource = .unspecified) (notNone : right.generator ≠ some .none)
    (strategy : IdGenerator) :
    left.nextStrategy (right.nextStrategy strategy) =
      right.nextStrategy (left.nextStrategy strategy) := by
  rw [nextStrategy, nextStrategy, nextStrategy, nextStrategy, unnamed, sourceless]
  cases named : right.generator with
  | none => rfl
  | some generator =>
      have chosen : generator ≠ .none := fun isNone => notNone (named.trans (congrArg some isNone))
      exact left.keySource.choose_of_ne_none chosen

theorem nextStrategy_comm (apart : left.Apart right) (strategy : IdGenerator) :
    left.nextStrategy (right.nextStrategy strategy) =
      right.nextStrategy (left.nextStrategy strategy) := by
  rcases apart.strategy with unnamed | unnamed
  · rcases apart.source with sourceless | sourceless
    · -- the left column leaves the strategy alone
      simp only [nextStrategy, unnamed, sourceless, KeySource.choose, Option.getD_none]
    · exact nextStrategy_comm_of_sourceless unnamed sourceless apart.right strategy
  · rcases apart.source with sourceless | sourceless
    · exact (nextStrategy_comm_of_sourceless unnamed sourceless apart.left strategy).symm
    · simp only [nextStrategy, unnamed, sourceless, KeySource.choose, Option.getD_none]

theorem generate_comm (apart : left.Apart right) (before : KeyGeneration) :
    left.generate (right.generate before) = right.generate (left.generate before) := by
  rw [generate, generate, generate, generate, KeyGeneration.mk.injEq]
  refine ⟨apart.nextStrategy_comm before.strategy, ?_, ?_, ?_⟩
  · rcases apart.source with sourceless | sourceless
    · rw [sourceless]; rfl
    · rw [sourceless]; rfl
  · rcases apart.source with sourceless | sourceless
    · rw [sourceless]; rfl
    · rw [sourceless]; rfl
  · rcases apart.version with unversioned | unversioned
    · rw [unversioned]; rfl
    · rw [unversioned]; rfl

end Apart

end ColumnSettings

/-! ## What a field makes of them -/

/-- What a field makes of keys and versions: nothing, unless it is a column. -/
def FieldSettings.generate (settings : FieldSettings) (before : KeyGeneration) : KeyGeneration :=
  match settings.kind with
  | .column column => column.generate before
  | _ => before

theorem FieldSettings.keyGeneration_apply (settings : FieldSettings) (record : ClassMapping) :
    (settings.apply record).keyGeneration = settings.generate record.keyGeneration := by
  obtain ⟨fieldName, cache, kind⟩ := settings
  cases kind with
  | column column => exact column.keyGeneration_apply _ record
  | association association => exact ClassMapping.keyGeneration_mapAssociation _ record
  | embedded embedded => rfl
  | transient => rfl

/-- What the annotations of a field make of keys and versions. -/
def generate (before : KeyGeneration) (field : Field) : KeyGeneration :=
  match FieldSettings.ofField field with
  | .ok settings => settings.generate before
  | .error _ => before

theorem keyGeneration_foldl {fields : List Field} {settings : List FieldSettings}
    (read : fields.mapM FieldSettings.ofField = .ok settings) (record : ClassMapping) :
    (settings.foldl (fun record field => field.apply record) record).keyGeneration =
      fields.foldl generate record.keyGeneration := by
  induction fields generalizing settings record with
  | nil =>
      cases read
      rfl
  | cons field fields ih =>
      rw [List.mapM_cons] at read
      obtain ⟨first, readFirst, read⟩ := bind_eq_ok_iff.mp read
      obtain ⟨others, readOthers, read⟩ := bind_eq_ok_iff.mp read
      cases read
      have ofFirst : generate record.keyGeneration field = (first.apply record).keyGeneration := by
        rw [generate, readFirst, first.keyGeneration_apply]
      rw [List.foldl_cons, List.foldl_cons, ofFirst]
      exact ih readOthers (first.apply record)

/-- The settings of a class do not touch keys and versions. -/
theorem ClassSettings.keyGeneration_apply (className : String) (settings : ClassSettings)
    (record : ClassMapping) :
    (settings.apply className record).keyGeneration = record.keyGeneration := by
  have kind : (settings.kind.apply record).keyGeneration = record.keyGeneration := by
    cases settings.kind <;> rfl
  unfold ClassSettings.apply
  split
  · exact kind
  · rename_i inheritance _
    cases inheritance <;> exact kind

/-- What an evaluated record says of keys and versions its fields have made one after
another. -/
theorem evaluateNew_keyGeneration {className : String} {type : ObjectType}
    {record : ClassMapping} (evaluated : evaluateNew className type = .ok record) :
    record.keyGeneration = type.fields.foldl generate .unknown := by
  obtain ⟨ofClass, ofFields, -, readFields, rfl⟩ := evaluateNew_eq_ok_iff.mp evaluated
  rw [keyGeneration_foldl readFields, ofClass.keyGeneration_apply]
  rfl

end EntityMapping.Settings
