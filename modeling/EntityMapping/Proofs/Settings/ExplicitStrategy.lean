import EntityMapping.Proofs.Settings.FieldOrder
import EntityMapping.Proofs.Settings.RepeatedArguments

/-!
# Strategies that are asked for

A column may ask for the strategy by which keys are made, and any column may say where keys come
from.  The latter chooses a strategy of its own in the place of none, which is what a record
begins with.  Main statement: the strategy that a single column asks for is kept, whatever stands
before it or behind it, unless it asks for none and a column from there on says where keys come
from.
-/

namespace EntityMapping.Record

namespace IdGenerator

/-- A strategy, or another one in the place of none. -/
def or (strategy other : IdGenerator) : IdGenerator :=
  if strategy = .none then other else strategy

@[simp] theorem none_or (other : IdGenerator) : or .none other = other := rfl

@[simp] theorem or_none (strategy : IdGenerator) : strategy.or .none = strategy := by
  cases strategy <;> rfl

@[simp] theorem or_self (strategy : IdGenerator) : strategy.or strategy = strategy := by
  cases strategy <;> rfl

theorem or_of_ne_none {strategy : IdGenerator} (chosen : strategy ≠ .none)
    (other : IdGenerator) : strategy.or other = strategy :=
  if_neg chosen

theorem or_assoc (first second third : IdGenerator) :
    (first.or second).or third = first.or (second.or third) := by
  cases first <;> rfl

theorem or_eq_none_iff {first second : IdGenerator} :
    first.or second = .none ↔ first = .none ∧ second = .none := by
  cases first <;> simp [or]

end IdGenerator

end EntityMapping.Record

namespace EntityMapping.Settings

open EntityMapping.Document
open EntityMapping.Record

/-- The strategy that a field asks for: the one that the argument of its first directive for
generated values names, or the automatic one if there is no such argument. -/
inductive AsksFor (field : Field) : IdGenerator → Prop where
  | automatic {directive : Directive}
      (found : Marker.generatedValue.among field.directives = some directive)
      (absent : ∀ value ∈ directive.argument? "strategy", value.isNull = true) :
      AsksFor field .auto
  | named {directive : Directive} {written : String} {strategy : IdGenerator}
      (found : Marker.generatedValue.among field.directives = some directive)
      (isText : directive.text? "strategy" = some written)
      (denotes : Vocabulary.read? written = some strategy) : AsksFor field strategy

/-- The strategy that a field stands for because it is a column that says where keys come from;
none if it is not. -/
def sourceStrategy (field : Field) : IdGenerator :=
  if isColumnWith .sequenceGenerator field then .sequence
  else if isColumnWith .customGenerator field then .custom
  else .none

/-- The strategy that the first field stands for of those that say where keys come from. -/
def firstSource (fields : List Field) : IdGenerator :=
  fields.foldr (fun field rest => (sourceStrategy field).or rest) .none

theorem firstSource_eq_none_iff {fields : List Field} :
    firstSource fields = .none ↔ ∀ field ∈ fields, sourceStrategy field = .none := by
  induction fields with
  | nil => exact ⟨fun _ => nofun, fun _ => rfl⟩
  | cons field fields ih =>
      rw [List.forall_mem_cons, ← ih]
      exact IdGenerator.or_eq_none_iff

/-! ## Reading the strategy -/

theorem text?_eq_ok_none_iff {directive : Directive} {name : String} :
    (Arguments.ofDirective directive).text? name = .ok none ↔
      ∀ value ∈ directive.argument? name, value.isNull = true := by
  have notGiven : (Arguments.ofDirective directive).get? name = none ↔
      ∀ value ∈ directive.argument? name, value.isNull = true := by
    simp only [get?_ofDirective, Option.filter_eq_none_iff, Bool.not_eq_true', Bool.not_eq_false]
    rfl
  rw [← notGiven]
  refine ⟨get?_eq_none_of_demanded, fun absent => ?_⟩
  rw [Arguments.text?, Arguments.demanded, absent]

theorem text?_eq_ok_some_iff {directive : Directive} {name written : String} :
    (Arguments.ofDirective directive).text? name = .ok (some written) ↔
      directive.text? name = some written := by
  constructor
  · intro read
    obtain ⟨value, found, isText⟩ := exists_get?_of_demanded read
    rw [get?_ofDirective] at found
    exact Option.bind_eq_some_iff.mpr ⟨value, (Option.filter_eq_some_iff.mp found).1, isText⟩
  · intro isText
    obtain ⟨value, given, asText⟩ := Option.bind_eq_some_iff.mp isText
    have notNull : value.isNull = false := by
      cases value with
      | null => cases asText
      | _ => rfl
    have found : (Arguments.ofDirective directive).get? name = some value := by
      rw [get?_ofDirective, given, Option.filter_some, notNull]
      rfl
    rw [Arguments.text?, Arguments.demanded, found]
    simp only [asText]

theorem vocabulary_eq_ok_iff {α : Type} [Vocabulary α] {fault : String → Fault}
    {written : String} {value : α} :
    Arguments.vocabulary fault written = .ok value ↔ Vocabulary.read? written = some value := by
  unfold Arguments.vocabulary
  cases Vocabulary.read? (α := α) written <;> simp

/-- The strategy that is read of a field is the one that it asks for. -/
theorem readGenerator_eq_ok_some_iff {field : Field} {strategy : IdGenerator} :
    FieldSettings.readGenerator field = .ok (some strategy) ↔ AsksFor field strategy := by
  constructor
  · intro read
    cases found : Marker.generatedValue.among field.directives with
    | none =>
        rw [FieldSettings.readGenerator, found] at read
        cases read
    | some directive =>
        rw [FieldSettings.readGenerator, found] at read
        obtain ⟨given, readText, read⟩ := bind_eq_ok_iff.mp read
        obtain ⟨named, denotes, same⟩ := bind_eq_ok_iff.mp read
        cases same
        rw [vocabulary_eq_ok_iff] at denotes
        cases given with
        | none =>
            cases denotes
            exact .automatic found (text?_eq_ok_none_iff.mp readText)
        | some written => exact .named found (text?_eq_ok_some_iff.mp readText) denotes
  · intro asks
    cases asks with
    | automatic found absent =>
        rw [FieldSettings.readGenerator, found]
        exact bind_eq_ok_iff.mpr ⟨none, text?_eq_ok_none_iff.mpr absent, rfl⟩
    | named found isText denotes =>
        rw [FieldSettings.readGenerator, found]
        refine bind_eq_ok_iff.mpr ⟨_, text?_eq_ok_some_iff.mpr isText, ?_⟩
        exact bind_eq_ok_iff.mpr ⟨strategy, vocabulary_eq_ok_iff.mpr denotes, rfl⟩

/-- A column chooses what it stands for in the place of no strategy. -/
theorem KeysRead.choose_eq {field : Field} {column : ColumnSettings}
    (keys : KeysRead field column) (strategy : IdGenerator) :
    column.keySource.choose strategy = strategy.or (sourceStrategy field) := by
  have read := keys.keySource
  rw [sourceStrategy, keys.isColumnWith_eq, keys.isColumnWith_eq]
  cases sequence : Marker.sequenceGenerator.among field.directives with
  | some directive =>
      rw [FieldSettings.readKeySource, sequence] at read
      rw [Marker.isAmong, sequence, ← Except.ok.inj read]
      rfl
  | none =>
      rw [FieldSettings.readKeySource, sequence] at read
      rw [Marker.isAmong, Marker.isAmong, sequence]
      cases custom : Marker.customGenerator.among field.directives with
      | some directive =>
          rw [custom] at read
          obtain ⟨className, -, same⟩ := bind_eq_ok_iff.mp read
          rw [← Except.ok.inj same]
          rfl
      | none =>
          rw [custom] at read
          rw [← Except.ok.inj read]
          exact strategy.or_none.symm

/-! ## One field after another -/

/-- A field without a fault either is a column, or leaves keys and versions as they are. -/
theorem generate_cases {field : Field} {settings : FieldSettings}
    (read : FieldSettings.ofField field = .ok settings) :
    (∃ column, KeysRead field column ∧
      ∀ before, generate before field = column.generate before) ∨
    Marker.column.isAmong field.directives = false ∧ ∀ before, generate before field = before := by
  unfold generate
  rw [read]
  cases found : Marker.column.among field.directives with
  | some directive =>
      obtain ⟨column, isColumn⟩ := FieldSettings.exists_kind_of_column read found
      refine Or.inl ⟨column, .of_ofField read isColumn, fun before => ?_⟩
      change settings.generate before = _
      rw [FieldSettings.generate, isColumn]
  | none =>
      refine Or.inr ⟨by rw [Marker.isAmong, found]; rfl, fun before => ?_⟩
      change settings.generate before = _
      unfold FieldSettings.generate
      split
      · rename_i column isColumn
        obtain ⟨directive, given, -⟩ := FieldSettings.exists_column_of_ofField read isColumn
        cases found.symm.trans given
      · rfl

/-- A field that does not ask for a strategy keeps the one before it, and in the place of none
puts what it stands for. -/
theorem strategy_generate_of_silent {field : Field} {settings : FieldSettings}
    (read : FieldSettings.ofField field = .ok settings)
    (silent : isColumnWith .generatedValue field = false) (before : KeyGeneration) :
    (generate before field).strategy = before.strategy.or (sourceStrategy field) := by
  rcases generate_cases read with ⟨column, keys, generated⟩ | ⟨notColumn, generated⟩
  · rw [generated]
    change column.nextStrategy before.strategy = _
    rw [ColumnSettings.nextStrategy, keys.generator_eq_none silent, Option.getD_none,
      keys.choose_eq]
  · rw [generated, sourceStrategy, isColumnWith, isColumnWith, notColumn]
    exact before.strategy.or_none.symm

/-- A column that asks for a strategy puts that one, whatever was before it, and in the place of
none what it stands for. -/
theorem strategy_generate_of_asks {field : Field} {settings : FieldSettings}
    (read : FieldSettings.ofField field = .ok settings)
    (isColumn : Marker.column.isAmong field.directives = true) {strategy : IdGenerator}
    (asks : AsksFor field strategy) (before : KeyGeneration) :
    (generate before field).strategy = strategy.or (sourceStrategy field) := by
  rcases generate_cases read with ⟨column, keys, generated⟩ | ⟨notColumn, -⟩
  · have named : column.generator = some strategy :=
      Except.ok.inj (keys.generator.symm.trans (readGenerator_eq_ok_some_iff.mpr asks))
    rw [generated]
    change column.nextStrategy before.strategy = _
    rw [ColumnSettings.nextStrategy, named, Option.getD_some, keys.choose_eq]
  · cases isColumn.symm.trans notColumn

/-- Fields that do not ask for a strategy keep the one before them, and in the place of none put
what the first of them stands for. -/
theorem strategy_foldl_of_silent {fields : List Field}
    (read : ∀ field ∈ fields, ∃ settings, FieldSettings.ofField field = .ok settings)
    (silent : ∀ field ∈ fields, isColumnWith .generatedValue field = false)
    (before : KeyGeneration) :
    (fields.foldl generate before).strategy = before.strategy.or (firstSource fields) := by
  induction fields generalizing before with
  | nil => exact before.strategy.or_none.symm
  | cons field fields ih =>
      rw [List.forall_mem_cons] at read silent
      obtain ⟨⟨settings, readField⟩, readOthers⟩ := read
      calc ((field :: fields).foldl generate before).strategy
          = (generate before field).strategy.or (firstSource fields) :=
            ih readOthers silent.2 (generate before field)
        _ = (before.strategy.or (sourceStrategy field)).or (firstSource fields) := by
            rw [strategy_generate_of_silent readField silent.1]
        _ = before.strategy.or (firstSource (field :: fields)) := IdGenerator.or_assoc _ _ _

/-- The strategy that is asked for is kept.  If a type is evaluated, and of its columns just one
asks for a strategy, then the record has that strategy, whatever its fields say of where keys
come from, except that no strategy gives way to the first source that stands at the column or
behind it. -/
theorem explicit_strategy_kept {className : String} {type : ObjectType} {record : ClassMapping}
    {before after : List Field} {field : Field} {strategy : IdGenerator}
    (evaluated : evaluateNew className type = .ok record)
    (fields : type.fields = before ++ field :: after)
    (asking : isColumnWith .generatedValue field = true)
    (silent : ∀ other ∈ before ++ after, isColumnWith .generatedValue other = false)
    (asks : AsksFor field strategy) :
    (record.idGenerator = strategy ↔
      strategy ≠ .none ∨ ∀ other ∈ field :: after, sourceStrategy other = .none) ∧
    (strategy = .none → record.idGenerator = firstSource (field :: after)) := by
  obtain ⟨-, ofFields, -, readFields, -⟩ := evaluateNew_eq_ok_iff.mp evaluated
  have read : ∀ other ∈ before ++ field :: after,
      ∃ settings, FieldSettings.ofField other = .ok settings :=
    fun other among => exists_ok_of_mapM_eq_ok readFields other (fields ▸ among)
  rw [List.forall_mem_append] at silent
  rw [List.forall_mem_append, List.forall_mem_cons] at read
  obtain ⟨-, ⟨settings, readField⟩, readAfter⟩ := read
  have isColumn : Marker.column.isAmong field.directives = true :=
    (Bool.and_eq_true_iff.mp asking).1
  have chosen : record.idGenerator = strategy.or (firstSource (field :: after)) := by
    calc record.idGenerator
        = (type.fields.foldl generate .unknown).strategy :=
          congrArg KeyGeneration.strategy (evaluateNew_keyGeneration evaluated)
      _ = (after.foldl generate (generate (before.foldl generate .unknown) field)).strategy := by
          rw [fields, List.foldl_append, List.foldl_cons]
      _ = (strategy.or (sourceStrategy field)).or (firstSource after) := by
          rw [strategy_foldl_of_silent readAfter silent.2,
            strategy_generate_of_asks readField isColumn asks]
      _ = strategy.or (firstSource (field :: after)) := IdGenerator.or_assoc _ _ _
  rw [chosen, ← firstSource_eq_none_iff]
  by_cases none : strategy = .none
  · subst none
    rw [IdGenerator.none_or]
    exact ⟨⟨Or.inr, fun kept => kept.resolve_left (absurd rfl)⟩, fun _ => rfl⟩
  · rw [IdGenerator.or_of_ne_none none]
    exact ⟨⟨fun _ => Or.inl none, fun _ => rfl⟩, fun isNone => absurd isNone none⟩

/-- The key of a parcel, with a strategy and a generator of its own. -/
def parcelKey : Field :=
  ⟨none, "key", [], .named "ID",
    [⟨"Column", [], ⟨0, 0⟩⟩, ⟨"Id", [], ⟨0, 0⟩⟩,
      ⟨"GeneratedValue", [⟨"strategy", .string "uuid", ⟨0, 0⟩⟩], ⟨0, 0⟩⟩,
      ⟨"CustomIdGenerator", [⟨"class", .string "Keys", ⟨0, 0⟩⟩], ⟨0, 0⟩⟩], ⟨0, 0⟩⟩

/-- A column of a parcel whose values come from a sequence. -/
def parcelNumber (name : String) : Field :=
  ⟨none, name, [], .named "Int",
    [⟨"Column", [], ⟨0, 0⟩⟩,
      ⟨"SequenceGenerator", [⟨"name", .string "numbers", ⟨0, 0⟩⟩], ⟨0, 0⟩⟩], ⟨0, 0⟩⟩

/-- A type with a sequence before its key and another one behind it. -/
def parcelType : ObjectType :=
  ⟨none, "Parcel", [], [⟨"Entity", [], ⟨0, 0⟩⟩],
    [parcelNumber "label", parcelKey, parcelNumber "weight"], ⟨0, 0⟩⟩

/-- No source of keys changes the strategy of the parcel's key. -/
theorem parcelType_strategy_kept : ∃ record,
    evaluateNew "Parcel" parcelType = .ok record ∧ AsksFor parcelKey .uuid ∧
      record.idGenerator = .uuid := by
  have succeeds : (evaluateNew "Parcel" parcelType).map (fun _ => ()) = .ok () := by
    rfl
  obtain ⟨record, evaluated, -⟩ := map_eq_ok_iff.mp succeeds
  have asks : AsksFor parcelKey .uuid := .named rfl rfl rfl
  have fields : parcelType.fields =
      [parcelNumber "label"] ++ parcelKey :: [parcelNumber "weight"] := rfl
  have kept := explicit_strategy_kept evaluated fields (by decide) (by decide) asks
  exact ⟨record, evaluated, asks, kept.1.mpr (Or.inl (by decide))⟩

/-- A key that asks for no strategy and says where its values come from. -/
def givenKey : Field :=
  ⟨none, "id", [], .named "ID",
    [⟨"Column", [], ⟨0, 0⟩⟩, ⟨"Id", [], ⟨0, 0⟩⟩,
      ⟨"GeneratedValue", [⟨"strategy", .string "NONE", ⟨0, 0⟩⟩], ⟨0, 0⟩⟩,
      ⟨"SequenceGenerator", [⟨"sequenceName", .string "s", ⟨0, 0⟩⟩], ⟨0, 0⟩⟩], ⟨0, 0⟩⟩

/-- A strategy that is asked for is not kept always: none gives way to a sequence. -/
theorem givenKey_strategy_replaced : ∃ record,
    evaluateNew "User" ⟨none, "User", [], [⟨"Entity", [], ⟨0, 0⟩⟩], [givenKey], ⟨0, 0⟩⟩ =
        .ok record ∧
      isColumnWith .generatedValue givenKey = true ∧ AsksFor givenKey .none ∧
      record.idGenerator = .sequence := by
  have outcome : (evaluateNew "User"
      ⟨none, "User", [], [⟨"Entity", [], ⟨0, 0⟩⟩], [givenKey], ⟨0, 0⟩⟩).map
        (·.idGenerator) = .ok .sequence := by
    rfl
  obtain ⟨record, evaluated, chosen⟩ := map_eq_ok_iff.mp outcome
  exact ⟨record, evaluated, by decide, .named rfl rfl rfl, chosen⟩

end EntityMapping.Settings
