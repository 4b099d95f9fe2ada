import EntityMapping.Proofs.Settings.Declarations
import EntityMapping.Proofs.Settings.Faults

/-!
# Arguments that are given more than once

Nothing keeps a directive from having several arguments of one name.  Looking an argument up
finds the first of them.  But the attributes of a column are all its arguments, of which the
last stays, and an ordering has a term for each argument.  Main statements: a column shows the
first name and type that are written, beside attributes that are those written last; and each
term of an ordering has the direction that the first argument of its name gives.  Where a name
is given once, this is the argument's own value.
-/

namespace EntityMapping.Document

namespace Directive

variable {directive : Directive} {name : String}

/-- The value of the last argument of a name. -/
def lastArgument? (name : String) (directive : Directive) : Option Value :=
  (directive.arguments.reverse.find? (·.name == name)).map (·.value)

/-- The text of the first argument of a name, if its value is a text. -/
def text? (name : String) (directive : Directive) : Option String :=
  (directive.argument? name).bind Value.asText?

/-- No two arguments have the name. -/
def GivesOnce (name : String) (directive : Directive) : Prop :=
  directive.arguments.countP (·.name == name) ≤ 1

instance (name : String) (directive : Directive) : Decidable (directive.GivesOnce name) :=
  inferInstanceAs (Decidable (_ ≤ 1))

/-- The arguments of a name that is given once. -/
theorem GivesOnce.filter_eq (once : directive.GivesOnce name) :
    directive.arguments.filter (·.name == name) =
      (directive.arguments.find? (·.name == name)).toList := by
  rw [GivesOnce, List.countP_eq_length_filter] at once
  rw [← List.head?_filter]
  cases found : directive.arguments.filter (·.name == name) with
  | nil => rfl
  | cons first others =>
      rw [found, List.length_cons] at once
      rw [List.length_eq_zero_iff.mp (Nat.le_zero.mp (Nat.le_of_succ_le_succ once))]
      rfl

theorem GivesOnce.lastArgument?_eq (once : directive.GivesOnce name) :
    directive.lastArgument? name = directive.argument? name := by
  rw [lastArgument?, argument?, ← List.head?_filter, List.filter_reverse, once.filter_eq]
  cases directive.arguments.find? (·.name == name) with
  | none => rfl
  | some argument => rfl

theorem GivesOnce.argument?_eq {argument : Argument} (among : argument ∈ directive.arguments)
    (once : directive.GivesOnce argument.name) :
    directive.argument? argument.name = some argument.value := by
  have kept : argument ∈ directive.arguments.filter (·.name == argument.name) :=
    List.mem_filter.mpr ⟨among, beq_self_eq_true _⟩
  rw [once.filter_eq, Option.mem_toList] at kept
  rw [argument?, kept, Option.map_some]

end Directive

end EntityMapping.Document

namespace EntityMapping.Record

/-- Data, if there is any, is a text, or else a text is the default. -/
def Shows (default : String) (data : Option Json) (shown : String) : Prop :=
  data = some (.text shown) ∨ (data = none ∨ data = some .null) ∧ shown = default

end EntityMapping.Record

namespace EntityMapping.Settings

open EntityMapping.Document
open EntityMapping.Record

/-! ## Looking arguments up -/

section Arguments

variable {directive : Directive}

theorem get?_ofDirective (directive : Directive) (name : String) :
    (Arguments.ofDirective directive).get? name =
      (directive.argument? name).filter fun value => !value.isNull :=
  congrArg _ (lookup_said directive name)

theorem lookup_attributes (directive : Directive) (name : String) :
    (Arguments.ofDirective directive).attributes.lookup name =
      (directive.lastArgument? name).map Value.toJson := by
  have listed : (Arguments.ofDirective directive).entries.map
      (fun entry => (entry.1, entry.2.toJson)) =
      directive.arguments.map fun argument => (argument.name, argument.value.toJson) := by
    rw [Arguments.ofDirective, List.map_map]
    rfl
  rw [Arguments.attributes, Keyed.lookup_ofEntries, listed, ← List.map_reverse,
    lookup_arguments (fun argument => argument.value.toJson), Directive.lastArgument?,
    Option.map_map]
  rfl

theorem toJson_of_asText? {value : Value} {text : String} (isText : value.asText? = some text) :
    value.toJson = .text text := by
  cases value with
  | string content =>
      cases isText
      rfl
  | enum word =>
      cases isText
      rfl
  | _ => cases isText

/-- A text that is read, or else its default, is that of the first argument. -/
theorem shows_of_text? {name : String} {given : Option String}
    (read : (Arguments.ofDirective directive).text? name = .ok given) (default : String) :
    Shows default ((directive.argument? name).map Value.toJson) (given.getD default) := by
  cases given with
  | some text =>
      obtain ⟨value, found, isText⟩ := exists_get?_of_demanded read
      rw [get?_ofDirective] at found
      rw [(Option.filter_eq_some_iff.mp found).1, Option.map_some, toJson_of_asText? isText]
      exact Or.inl rfl
  | none =>
      have absent := get?_eq_none_of_demanded read
      rw [get?_ofDirective, Option.filter_eq_none_iff] at absent
      refine Or.inr ⟨?_, rfl⟩
      cases found : directive.argument? name with
      | none => exact Or.inl rfl
      | some value =>
          have isNull : value.isNull = true := by simpa using absent value found
          rw [(Value.isNull_eq_true_iff value).mp isNull]
          exact Or.inr rfl

theorem text?_of_text {name written : String}
    (read : (Arguments.ofDirective directive).text name = .ok written) :
    directive.text? name = some written := by
  obtain ⟨given, ofText, read⟩ := bind_eq_ok_iff.mp read
  cases given with
  | none => cases read
  | some text =>
      cases read
      obtain ⟨value, found, isText⟩ := exists_get?_of_demanded ofText
      rw [get?_ofDirective] at found
      rw [Directive.text?, (Option.filter_eq_some_iff.mp found).1, Option.bind_some, isText]

theorem read?_of_vocabulary {α : Type} [Vocabulary α] {fault : String → Fault} {written : String}
    {value : α} (read : Arguments.vocabulary fault written = .ok value) :
    Vocabulary.read? written = some value := by
  unfold Arguments.vocabulary at read
  split at read
  · cases read
    assumption
  · cases read

end Arguments

/-! ## Columns -/

/-- Arguments of a column that are stored as they are written.  The name of the field goes
before an argument of that name, and so do the cache settings if the field has any. -/
def IsStored (field : Field) (name : String) : Prop :=
  name ≠ "fieldName" ∧ (name = "cache" → Marker.cache.isAmong field.directives = false)

theorem isStored_of_ne {field : Field} {name : String} (notField : name ≠ "fieldName")
    (notCache : name ≠ "cache") : IsStored field name :=
  ⟨notField, fun isCache => absurd isCache notCache⟩

/-- A column is made from a directive: its attributes are the last arguments, and its own name
and type the first ones. -/
structure MadeFrom (field : Field) (directive : Directive) (column : Column) : Prop where
  found : Marker.column.among field.directives = some directive
  fieldName : column.fieldName = field.name
  attributes : ∀ name, IsStored field name →
    column.attribute? name = (directive.lastArgument? name).map Value.toJson
  columnName : Shows field.name ((directive.argument? "name").map Value.toJson) column.columnName
  typeName :
    Shows Column.defaultType ((directive.argument? "type").map Value.toJson) column.typeName

namespace MadeFrom

variable {field : Field} {directive : Directive} {column : Column} {name : String}

/-- An attribute is the argument of its name, if that is given once. -/
theorem attribute?_of_givesOnce (made : MadeFrom field directive column)
    (stored : IsStored field name) (once : directive.GivesOnce name) :
    column.attribute? name = (directive.argument? name).map Value.toJson := by
  rw [made.attributes name stored, once.lastArgument?_eq]

/-- What is shown of an argument that is given once is shown of its attribute. -/
theorem shows_of_givesOnce (made : MadeFrom field directive column)
    (stored : IsStored field name) (once : directive.GivesOnce name) {default shown : String}
    (shows : Shows default ((directive.argument? name).map Value.toJson) shown) :
    Shows default (column.attribute? name) shown := by
  rw [made.attribute?_of_givesOnce stored once]
  exact shows

end MadeFrom

section Columns

variable {field : Field} {settings : FieldSettings}

theorem attribute?_stored {column : ColumnSettings} {cache : Option CacheSettings} {name : String}
    (notField : name ≠ "fieldName") (notCache : name = "cache" → cache = none) :
    (column.stored cache).attribute? name = column.column.attributes.lookup name := by
  cases cache with
  | none => exact Keyed.lookup_insert_of_ne _ _ notField
  | some settings =>
      have otherName : name ≠ "cache" := fun same => nomatch notCache same
      exact (Keyed.lookup_insert_of_ne _ _ otherName).trans
        (Keyed.lookup_insert_of_ne _ _ notField)

theorem cacheOverride_of_absent {directives : List Directive}
    (absent : Marker.cache.isAmong directives = false) {override : Option CacheOverride}
    (read : CacheOverride.ofDirectives directives = .ok override) : override = none := by
  rw [CacheOverride.ofDirectives, Marker.among_eq_none absent] at read
  cases read
  rfl

/-- The settings of a column make a column from its directive, in any record. -/
theorem exists_madeFrom (read : FieldSettings.ofField field = .ok settings)
    {record : ClassMapping} {column : Column}
    (isColumn : settings.step? record = some (.column column)) :
    ∃ directive, MadeFrom field directive column := by
  obtain ⟨-, readCache, -⟩ := FieldSettings.exists_of_ofField read
  cases isKind : settings.kind with
  | column inner =>
      rw [FieldSettings.step?, isKind] at isColumn
      cases isColumn
      obtain ⟨directive, found, readInner⟩ := FieldSettings.exists_column_of_ofField read isKind
      obtain ⟨columnName, typeName, readName, readType, -, -, -, isInner⟩ :=
        FieldSettings.exists_of_readColumn readInner
      refine ⟨directive, found, congrArg Column.fieldName isInner, fun name stored => ?_, ?_, ?_⟩
      · rw [attribute?_stored stored.1 fun same => ?_, isInner, lookup_attributes]
        rw [cacheOverride_of_absent (stored.2 same) readCache, Option.map_none]
      · simp only [ColumnSettings.stored, isInner]
        exact shows_of_text? readName field.name
      · simp only [ColumnSettings.stored, isInner]
        exact shows_of_text? readType Column.defaultType
  | _ =>
      rw [FieldSettings.step?, isKind] at isColumn
      cases isColumn

/-- A field with the directive of a column replaces the columns of its name. -/
theorem exists_replacing_column (read : FieldSettings.ofField field = .ok settings)
    (isColumn : Marker.column.isAmong field.directives = true) (record : ClassMapping)
    {column : Column} (sameName : column.fieldName = field.name) :
    ∃ step, settings.step? record = some step ∧ step.Replaces (.column column) := by
  obtain ⟨directive, found⟩ := Option.isSome_iff_exists.mp isColumn
  obtain ⟨inner, isKind⟩ := FieldSettings.exists_kind_of_column read found
  have isStep : settings.step? record = some (.column (inner.stored
      (settings.cache.map (·.withDefaults (record.associationCache settings.fieldName))))) := by
    rw [FieldSettings.step?, isKind]
  refine ⟨_, isStep, MappingStep.replaces_iff.mpr ⟨rfl, ?_⟩⟩
  have named := fieldName_of_contribution? ((contribution?_eq_step? read record).trans isStep)
  exact named.trans sameName.symm

/-- A column shows the name and the type that are written first, and has the arguments that are
written last as its attributes.  For each argument that is given once these are the same. -/
theorem column_of_arguments {className : String} {type : ObjectType} {record : ClassMapping}
    (evaluated : evaluateNew className type = .ok record) {column : Column}
    (among : column ∈ record.columns) :
    ∃ before field behind directive, type.fields = before ++ field :: behind ∧
      (∀ later ∈ behind, later.name = field.name →
        Marker.column.isAmong later.directives = false) ∧
      MadeFrom field directive column ∧
      (∀ name, IsStored field name → directive.GivesOnce name →
        column.attribute? name = (directive.argument? name).map Value.toJson) ∧
      (directive.GivesOnce "name" →
        Shows field.name (column.attribute? "name") column.columnName) ∧
      (directive.GivesOnce "type" →
        Shows Column.defaultType (column.attribute? "type") column.typeName) := by
  have wellFormed := evaluate_wellFormed (ClassMapping.wellFormed_empty className) evaluated
  have holds := (wellFormed.mem_entries_iff (.column column)).mp
    (List.mem_append_left _ (List.mem_map_of_mem among))
  obtain ⟨base, before, field, behind, settings, split, read, isStep, kept⟩ :=
    exists_last_declaration evaluated holds
  obtain ⟨directive, made⟩ := exists_madeFrom read isStep
  have nameStored : IsStored field "name" := isStored_of_ne (by decide) (by decide)
  have typeStored : IsStored field "type" := isStored_of_ne (by decide) (by decide)
  refine ⟨before, field, behind, directive, split, fun later member sameName => ?_, made,
    fun name stored once => made.attribute?_of_givesOnce stored once,
    fun once => made.shows_of_givesOnce nameStored once made.columnName,
    fun once => made.shows_of_givesOnce typeStored once made.typeName⟩
  obtain ⟨others, readLater, notReplaced⟩ := kept later member
  by_contra isColumn
  obtain ⟨step, isStep, replaces⟩ := exists_replacing_column readLater
    (Bool.not_eq_false _ ▸ isColumn) base (made.fieldName.trans sameName.symm)
  exact notReplaced step isStep replaces

end Columns

/-- The directive of a column whose name is given twice. -/
def renamedDirective : Directive :=
  ⟨"Column", [⟨"name", .string "a", ⟨0, 0⟩⟩, ⟨"name", .string "b", ⟨0, 0⟩⟩,
    ⟨"type", .enum "text", ⟨0, 0⟩⟩], ⟨0, 0⟩⟩

def renamedField : Field :=
  ⟨none, "email", [], .named "String", [renamedDirective], ⟨0, 0⟩⟩

def renamedType : ObjectType :=
  ⟨none, "User", [], [⟨"Entity", [], ⟨0, 0⟩⟩], [renamedField], ⟨0, 0⟩⟩

theorem renamedType_evaluated : ∃ record column, evaluateNew "User" renamedType = .ok record ∧
    record.columns = [column] ∧ column.columnName = "a" ∧
    column.attribute? "name" = some (.text "b") := by
  have outcome : (evaluateNew "User" renamedType).map (fun record =>
      record.columns.map fun column => (column.columnName, column.attribute? "name")) =
      .ok [("a", some (.text "b"))] := by
    rfl
  obtain ⟨record, evaluated, parts⟩ := map_eq_ok_iff.mp outcome
  obtain ⟨column, others, isColumns, isColumn, noOthers⟩ := List.map_eq_cons_iff.mp parts
  rw [Prod.mk.injEq] at isColumn
  rw [List.map_eq_nil_iff.mp noOthers] at isColumns
  exact ⟨record, column, evaluated, isColumns, isColumn.1, isColumn.2⟩

/-- The type is given once, and shown as it is stored. -/
theorem renamedType_typeName : ∃ record column, evaluateNew "User" renamedType = .ok record ∧
    column ∈ record.columns ∧ MadeFrom renamedField renamedDirective column ∧
    Shows Column.defaultType (column.attribute? "type") column.typeName := by
  obtain ⟨record, column, evaluated, isColumns, -⟩ := renamedType_evaluated
  have among : column ∈ record.columns := isColumns ▸ List.mem_cons_self
  obtain ⟨before, field, behind, directive, split, -, made, -, -, shows⟩ :=
    column_of_arguments evaluated among
  obtain ⟨rfl, rfl, rfl⟩ : before = [] ∧ field = renamedField ∧ behind = [] := by
    cases before with
    | nil => exact ⟨rfl, (List.cons.inj split).1.symm, (List.cons.inj split).2.symm⟩
    | cons first before => exact absurd (List.cons.inj split).2 (by simp)
  have isDirective : Marker.column.among renamedField.directives = some renamedDirective := by rfl
  cases made.found.symm.trans isDirective
  exact ⟨record, column, evaluated, among, made, shows (by decide)⟩

/-- The first name is shown and the last one stored. -/
theorem renamedType_name : ∃ record column, evaluateNew "User" renamedType = .ok record ∧
    record.columns = [column] ∧
    Marker.column.among renamedField.directives = some renamedDirective ∧
    column.attribute? "name" ≠ (renamedDirective.argument? "name").map Value.toJson ∧
    ¬ Shows renamedField.name (column.attribute? "name") column.columnName := by
  obtain ⟨record, column, evaluated, isColumns, shown, stored⟩ := renamedType_evaluated
  have different : some (Json.text "b") ≠ some (Json.text "a") := by simp
  refine ⟨record, column, evaluated, isColumns, rfl, stored ▸ different, ?_⟩
  rw [stored, shown]
  rintro (same | ⟨absent | isNull, -⟩)
  · exact different same
  · cases absent
  · cases isNull

/-! ## Orderings -/

/-- A term is made from an argument: its name, and the direction that the first argument of the
name gives. -/
structure TermOf (directive : Directive) (argument : Argument) (term : OrderTerm) : Prop where
  field : term.field = argument.name
  direction : (directive.text? argument.name).bind Vocabulary.read? = some term.direction

/-- An ordering has one term for each argument of the directive, if there is one. -/
def Orders (field : Field) (terms : List OrderTerm) : Prop :=
  match Marker.orderBy.among field.directives with
  | none => terms = []
  | some directive => List.Forall₂ (TermOf directive) directive.arguments terms

/-- A field is mapped to many objects. -/
def IsToMany (field : Field) : Prop :=
  ∃ marker ∈ [Marker.oneToMany, Marker.manyToMany], ∃ directive,
    FieldSettings.decisive? field = some (marker, directive)

namespace TermOf

variable {directive : Directive} {argument : Argument} {term : OrderTerm}

theorem of_readOrderTerm
    (read : FieldSettings.readOrderTerm (.ofDirective directive) argument.name = .ok term) :
    TermOf directive argument term := by
  obtain ⟨written, readText, read⟩ := bind_eq_ok_iff.mp read
  obtain ⟨direction, readDirection, read⟩ := bind_eq_ok_iff.mp read
  cases read
  refine ⟨rfl, ?_⟩
  rw [text?_of_text readText, Option.bind_some, read?_of_vocabulary readDirection]

/-- An argument whose name is given once gives the direction of its term itself. -/
theorem direction_of_givesOnce (made : TermOf directive argument term)
    (among : argument ∈ directive.arguments) (once : directive.GivesOnce argument.name) :
    argument.value.asText?.bind Vocabulary.read? = some term.direction := by
  have direction := made.direction
  rwa [Directive.text?, once.argument?_eq among, Option.bind_some] at direction

end TermOf

section Orderings

variable {field : Field} {settings : FieldSettings} {association : Association}

theorem orders_of_readOrderBy {terms : List OrderTerm}
    (read : FieldSettings.readOrderBy field = .ok terms) : Orders field terms := by
  rw [FieldSettings.readOrderBy] at read
  cases found : Marker.orderBy.among field.directives with
  | none =>
      rw [found] at read
      cases read
      rw [Orders, found]
  | some directive =>
      rw [found] at read
      have made := forall₂_of_mapM_eq_ok read
      rw [Arguments.ofDirective, List.forall₂_map_left_iff] at made
      rw [Orders, found]
      exact made.imp fun argument term ofArgument => .of_readOrderTerm ofArgument

theorem orders_of_readOneToMany {arguments : Arguments}
    (read : FieldSettings.readOneToMany field arguments = .ok association) :
    Orders field association.orderBy := by
  obtain ⟨plain, -, read⟩ := bind_eq_ok_iff.mp read
  obtain ⟨mappedBy, -, read⟩ := bind_eq_ok_iff.mp read
  obtain ⟨indexBy, -, read⟩ := bind_eq_ok_iff.mp read
  obtain ⟨orphanRemoval, -, read⟩ := bind_eq_ok_iff.mp read
  obtain ⟨terms, readTerms, read⟩ := bind_eq_ok_iff.mp read
  cases read
  exact orders_of_readOrderBy readTerms

theorem orders_of_readManyToMany {arguments : Arguments}
    (read : FieldSettings.readManyToMany field arguments = .ok association) :
    Orders field association.orderBy := by
  obtain ⟨plain, -, read⟩ := bind_eq_ok_iff.mp read
  obtain ⟨sides, -, read⟩ := bind_eq_ok_iff.mp read
  obtain ⟨indexBy, -, read⟩ := bind_eq_ok_iff.mp read
  obtain ⟨orphanRemoval, -, read⟩ := bind_eq_ok_iff.mp read
  obtain ⟨terms, readTerms, read⟩ := bind_eq_ok_iff.mp read
  obtain ⟨joinTable, -, read⟩ := bind_eq_ok_iff.mp read
  cases read
  exact orders_of_readOrderBy readTerms

/-- A field that is mapped to many objects is an association with an ordering. -/
theorem exists_orders_of_ofField (read : FieldSettings.ofField field = .ok settings)
    (toMany : IsToMany field) :
    ∃ association, settings.kind = .association association ∧ Orders field association.orderBy := by
  obtain ⟨-, -, joinColumns, -, readKind⟩ := FieldSettings.exists_of_ofField read
  obtain ⟨marker, isMarker, directive, decides⟩ := toMany
  rw [FieldSettings.readKind, decides] at readKind
  rcases List.mem_cons.mp isMarker with rfl | isMarker
  · obtain ⟨association, made, same⟩ := map_eq_ok_iff.mp readKind
    exact ⟨association, same.symm, orders_of_readOneToMany made⟩
  · cases List.mem_singleton.mp isMarker
    obtain ⟨association, made, same⟩ := map_eq_ok_iff.mp readKind
    exact ⟨association, same.symm, orders_of_readManyToMany made⟩

/-- An association stands under the name of its field in every record that has it, and only its
cache settings depend on the record. -/
theorem association?_of_holds (read : FieldSettings.ofField field = .ok settings)
    (isKind : settings.kind = .association association) {base record : ClassMapping}
    (holds : ∀ step, settings.step? base = some step → record.Holds step) {α : Type}
    {part : Association → α}
    (uncached : ∀ cache, part { association with cache := cache } = part association) :
    (record.association? field.name).map part = some (part association) := by
  have isStep : settings.step? base = some (.association { association with
      cache := settings.cache.map
        (·.withDefaults (base.associationCache settings.fieldName)) }) := by
    rw [FieldSettings.step?, isKind]
  have held := holds _ isStep
  have named : association.fieldName = field.name :=
    fieldName_of_contribution? ((contribution?_eq_step? read base).trans isStep)
  rw [ClassMapping.Holds] at held
  rw [← named, held, Option.map_some, uncached]

/-- A field that is mapped to many objects has one term for each argument of its ordering.  The
term has the name of the argument and the direction that the first argument of the name gives,
which is the argument's own direction if the name is given once. -/
theorem ordering_of_arguments (read : FieldSettings.ofField field = .ok settings)
    (toMany : IsToMany field) :
    ∃ terms, Orders field terms ∧
      (∀ directive, Marker.orderBy.among field.directives = some directive →
        List.Forall₂ (fun argument term => directive.GivesOnce argument.name →
          argument.value.asText?.bind Vocabulary.read? = some term.direction)
          directive.arguments terms) ∧
      (∀ record, ((settings.apply record).association? field.name).map Association.orderBy =
        some terms) ∧
      ∀ className type record before behind, evaluateNew className type = .ok record →
        type.fields = before ++ field :: behind →
        (∀ later ∈ behind, later.name ≠ field.name) →
        (record.association? field.name).map Association.orderBy = some terms := by
  obtain ⟨association, isKind, orders⟩ := exists_orders_of_ofField read toMany
  refine ⟨association.orderBy, orders, fun directive found => ?_, fun record => ?_, ?_⟩
  · rw [Orders, found] at orders
    have placed := (List.forall₂_and_left directive.arguments association.orderBy).mpr
      ⟨fun argument among => among, orders⟩
    exact placed.imp fun argument term made => made.2.direction_of_givesOnce made.1
  · exact association?_of_holds read isKind (fun step => FieldSettings.holds_of_step?)
      fun _ => rfl
  · intro className type record before behind evaluated split last
    obtain ⟨base, holds⟩ := exists_holds_of_last evaluated split last read
    exact association?_of_holds read isKind holds fun _ => rfl

end Orderings

/-- An ordering by one name in both directions, and then by another. -/
def twiceOrdering : Directive :=
  ⟨"OrderBy", [⟨"name", .enum "ASC", ⟨0, 0⟩⟩, ⟨"name", .enum "DESC", ⟨0, 0⟩⟩,
    ⟨"rank", .string "desc", ⟨0, 0⟩⟩], ⟨0, 0⟩⟩

def twiceOrderedField : Field :=
  ⟨none, "tags", [], .named "ID",
    [⟨"ManyToMany", [⟨"targetEntity", .string "Tag", ⟨0, 0⟩⟩], ⟨0, 0⟩⟩, twiceOrdering], ⟨0, 0⟩⟩

def twiceOrderedType : ObjectType :=
  ⟨none, "Post", [], [⟨"Entity", [], ⟨0, 0⟩⟩], [twiceOrderedField], ⟨0, 0⟩⟩

theorem twiceOrdered_among :
    Marker.orderBy.among twiceOrderedField.directives = some twiceOrdering := by
  rfl

theorem twiceOrderedField_read : ∃ settings,
    FieldSettings.ofField twiceOrderedField = .ok settings ∧ IsToMany twiceOrderedField :=
  ⟨_, rfl, .manyToMany, by decide, _, rfl⟩

/-- The record has the terms of the field, of which that of the second name has the direction
that is written. -/
theorem twiceOrderedType_ordering : ∃ record terms,
    evaluateNew "Post" twiceOrderedType = .ok record ∧
    (record.association? "tags").map Association.orderBy = some terms ∧
    Orders twiceOrderedField terms ∧
    (terms[2]?).map OrderTerm.direction = some .descending := by
  obtain ⟨settings, read, toMany⟩ := twiceOrderedField_read
  obtain ⟨terms, orders, own, -, inRecord⟩ := ordering_of_arguments read toMany
  have evaluates : ∃ record, evaluateNew "Post" twiceOrderedType = .ok record := ⟨_, rfl⟩
  obtain ⟨record, evaluated⟩ := evaluates
  refine ⟨record, terms, evaluated, inRecord "Post" twiceOrderedType record [] [] evaluated rfl
    (List.forall_mem_nil _), orders, ?_⟩
  cases own twiceOrdering twiceOrdered_among with
  | cons _ others =>
      cases others with
      | cons _ others =>
          cases others with
          | cons direction _ => exact (direction (by decide)).symm

/-- The second term has the direction of the first argument instead of its own. -/
theorem twiceOrderedType_directions : ∃ record terms,
    evaluateNew "Post" twiceOrderedType = .ok record ∧
    (record.association? "tags").map Association.orderBy = some terms ∧
    terms = [⟨"name", .ascending⟩, ⟨"name", .ascending⟩, ⟨"rank", .descending⟩] ∧
    ¬ List.Forall₂ (fun argument term =>
        term.field = argument.name ∧
          argument.value.asText?.bind Vocabulary.read? = some term.direction)
      twiceOrdering.arguments terms := by
  refine ⟨_, _, rfl, rfl, rfl, fun own => ?_⟩
  cases own with
  | cons _ others =>
      cases others with
      | cons second _ => exact absurd second.2 (by decide)

end EntityMapping.Settings
