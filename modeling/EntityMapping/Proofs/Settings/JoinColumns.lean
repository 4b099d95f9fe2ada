import EntityMapping.Proofs.Settings.RepeatedArguments

/-!
# Join columns

A join lists columns in two arguments, of which each may be a name, an object, or, for the
second, a list of these.  Main statement: an association to one object has the column of the
first argument and then those of the second, each as it is described.  There is none just if the
second argument is an empty list and stands alone: then a join is given that has no column.
-/

namespace EntityMapping.Document

/-- The value of the first argument of a name, unless it is null. -/
def Directive.given? (name : String) (directive : Directive) : Option Value :=
  (directive.argument? name).filter fun value => !value.isNull

namespace Value

/-- The value under the first key of a name in an object, unless it is null. -/
def given? (key : String) (value : Value) : Option Value :=
  (value.field? key).filter fun value => !value.isNull

/-- The items of a list; any other value stands for the list of itself. -/
def listed : Value → List Value
  | list items => items
  | single => [single]

/-- A value has a form with this content, or both are absent. -/
def HasContent {α : Type} (form : Value → Option α) (value : Option Value) (content : Option α) :
    Prop :=
  value.map form = content.map some

end Value

/-- The values that a join lists: that of its column, and then those of its columns. -/
def Directive.joinValues (directive : Directive) : List Value :=
  (directive.given? "column").toList ++ ((directive.given? "columns").map Value.listed).getD []

theorem Directive.joinValues_eq_nil_iff {directive : Directive} :
    directive.joinValues = [] ↔ directive.given? "column" = none ∧
      ∀ value ∈ directive.given? "columns", value = .list [] := by
  rw [joinValues, List.append_eq_nil_iff, Option.toList_eq_nil_iff]
  refine and_congr_right fun _ => ?_
  cases directive.given? "columns" with
  | none => simp
  | some value => cases value <;> simp [Value.listed]

end EntityMapping.Document

namespace EntityMapping.Settings

open EntityMapping.Document
open EntityMapping.Record

/-! ## What describes a join column -/

/-- A join column is taken from an object: its name has to be there, and what else is not given
is absent, but the column may hold null. -/
structure TakenFrom (object : Value) (column : JoinColumn) : Prop where
  name : (object.given? "name").bind Value.asText? = some column.name
  referencedColumn :
    Value.HasContent Value.asText? (object.given? "referencedColumnName") column.referencedColumn
  isUnique : ∃ flag, Value.HasContent Value.asBool? (object.given? "unique") flag ∧
    column.isUnique = flag.getD false
  isNullable : ∃ flag, Value.HasContent Value.asBool? (object.given? "nullable") flag ∧
    column.isNullable = flag.getD true
  onDelete : Value.HasContent Value.asText? (object.given? "onDelete") column.onDelete
  columnDefinition :
    Value.HasContent Value.asText? (object.given? "columnDefinition") column.columnDefinition

/-- The join column that a value describes. -/
inductive Describes : Value → JoinColumn → Prop where
  /-- A text is the name of a column that may hold null, need not be unique, and has nothing
  else. -/
  | name (text : String) : Describes (.string text) ⟨text, none, false, true, none, none⟩
  | object {fields : List (String × Value)} {column : JoinColumn}
      (taken : TakenFrom (.object fields) column) : Describes (.object fields) column

theorem hasContent_of_demanded {α : Type} {demand : Demand} {form : Value → Option α}
    {name : String} {arguments : Arguments} {content : Option α}
    (read : arguments.demanded demand form name = .ok content) :
    Value.HasContent form (arguments.get? name) content := by
  cases content with
  | none => rw [Value.HasContent, get?_eq_none_of_demanded read]; rfl
  | some content =>
      obtain ⟨value, given, ofForm⟩ := exists_get?_of_demanded read
      rw [Value.HasContent, given, Option.map_some, ofForm]
      rfl

theorem bind_asText?_of_text {name written : String} {arguments : Arguments}
    (read : arguments.text name = .ok written) :
    (arguments.get? name).bind Value.asText? = some written := by
  obtain ⟨given, ofText, read⟩ := bind_eq_ok_iff.mp read
  cases given with
  | none => cases read
  | some text =>
      cases read
      exact Option.bind_eq_some_iff.mpr (exists_get?_of_demanded ofText)

namespace FieldSettings

theorem describes_of_readJoinColumn {arguments : Arguments} {path : ArgumentPath} {value : Value}
    {column : JoinColumn} (read : readJoinColumn arguments path value = .ok column) :
    Describes value column := by
  cases value with
  | string text =>
      cases read
      exact .name text
  | object fields =>
      obtain ⟨name, readName, read⟩ := bind_eq_ok_iff.mp read
      obtain ⟨referencedColumn, readReferenced, read⟩ := bind_eq_ok_iff.mp read
      obtain ⟨isUnique, readUnique, read⟩ := bind_eq_ok_iff.mp read
      obtain ⟨isNullable, readNullable, read⟩ := bind_eq_ok_iff.mp read
      obtain ⟨onDelete, readDelete, read⟩ := bind_eq_ok_iff.mp read
      obtain ⟨columnDefinition, readDefinition, read⟩ := bind_eq_ok_iff.mp read
      obtain ⟨flag, readFlag, isFlag⟩ := map_eq_ok_iff.mp readUnique
      cases read
      exact .object
        { name := bind_asText?_of_text readName
          referencedColumn := hasContent_of_demanded readReferenced
          isUnique := ⟨flag, hasContent_of_demanded readFlag, isFlag.symm⟩
          isNullable := ⟨isNullable, hasContent_of_demanded readNullable, rfl⟩
          onDelete := hasContent_of_demanded readDelete
          columnDefinition := hasContent_of_demanded readDefinition }
  | _ => cases read

theorem map_snd_placed (arguments : Arguments) (name : String) (items : List Value) :
    (arguments.placed name items).map Prod.snd = items := by
  rw [Arguments.placed, List.map_map]
  exact List.zipIdx_map_fst 0 items

theorem describes_of_readJoinColumns {arguments : Arguments} {name : String}
    {columns : List JoinColumn} (read : readJoinColumns name arguments = .ok columns) :
    List.Forall₂ Describes (((arguments.get? name).map Value.listed).getD []) columns := by
  cases given : arguments.get? name with
  | none =>
      rw [readJoinColumns, given] at read
      cases read
      exact .nil
  | some value =>
      rw [readJoinColumns, given] at read
      cases value with
      | list items =>
          have each := (forall₂_of_mapM_eq_ok read).imp fun _ _ => describes_of_readJoinColumn
          have listed := List.forall₂_map_left_iff.mpr each
          rwa [map_snd_placed] at listed
      | _ =>
          obtain ⟨column, readColumn, rfl⟩ := map_eq_ok_iff.mp read
          exact .cons (describes_of_readJoinColumn readColumn) .nil

section Join

variable {field : Field} {directive : Directive} {columns : List JoinColumn}

theorem get?_eq_given? (directive : Directive) (name : String) :
    (Arguments.ofDirective directive).get? name = directive.given? name :=
  get?_ofDirective directive name

/-- A join has one of its arguments, and its columns are described by what both list. -/
theorem describes_of_readJoin (found : Marker.join.among field.directives = some directive)
    (read : readJoin field = .ok columns) :
    (directive.given? "column" ≠ none ∨ directive.given? "columns" ≠ none) ∧
      List.Forall₂ Describes directive.joinValues columns := by
  rw [readJoin, found] at read
  dsimp only at read
  split at read
  · rename_i has
    rw [Bool.or_eq_true, Arguments.has, Arguments.has, Option.isSome_iff_ne_none,
      Option.isSome_iff_ne_none, get?_eq_given?, get?_eq_given?] at has
    refine ⟨has, ?_⟩
    rw [Directive.joinValues, ← get?_eq_given?, ← get?_eq_given?]
    cases given : (Arguments.ofDirective directive).get? "column" with
    | none =>
        rw [given] at read
        obtain ⟨single, noSingle, read⟩ := bind_eq_ok_iff.mp read
        obtain ⟨several, readSeveral, read⟩ := bind_eq_ok_iff.mp read
        cases noSingle
        cases read
        exact describes_of_readJoinColumns readSeveral
    | some value =>
        rw [given] at read
        obtain ⟨single, readSingle, read⟩ := bind_eq_ok_iff.mp read
        obtain ⟨several, readSeveral, read⟩ := bind_eq_ok_iff.mp read
        obtain ⟨column, readColumn, rfl⟩ := map_eq_ok_iff.mp readSingle
        cases read
        exact .cons (describes_of_readJoinColumn readColumn)
          (describes_of_readJoinColumns readSeveral)
  · cases read

end Join

end FieldSettings

/-! ## Associations -/

/-- The cardinality of the associations that an annotation makes. -/
def Marker.cardinality? : Marker → Option Cardinality
  | oneToOne => some .oneToOne
  | oneToMany => some .oneToMany
  | manyToOne => some .manyToOne
  | manyToMany => some .manyToMany
  | _ => none

/-- The annotation that decides makes an association of a cardinality. -/
def Relates (field : Field) (cardinality : Cardinality) : Prop :=
  ∃ marker directive, FieldSettings.decisive? field = some (marker, directive) ∧
    marker.cardinality? = some cardinality

namespace FieldSettings

section Associations

variable {field : Field} {joinColumns : List JoinColumn} {arguments : Arguments}
  {association : Association}

theorem readOneToOne_joins (read : readOneToOne field joinColumns arguments = .ok association) :
    association.cardinality = .oneToOne ∧ association.joinColumns = joinColumns := by
  obtain ⟨plain, readPlain, read⟩ := bind_eq_ok_iff.mp read
  obtain ⟨sides, -, read⟩ := bind_eq_ok_iff.mp read
  obtain ⟨orphanRemoval, -, read⟩ := bind_eq_ok_iff.mp read
  obtain ⟨target, cascade, fetch, rfl⟩ := readAssociation_eq_plain readPlain
  cases read
  exact ⟨rfl, rfl⟩

theorem readOneToMany_cardinality (read : readOneToMany field arguments = .ok association) :
    association.cardinality = .oneToMany := by
  obtain ⟨plain, readPlain, read⟩ := bind_eq_ok_iff.mp read
  obtain ⟨mappedBy, -, read⟩ := bind_eq_ok_iff.mp read
  obtain ⟨indexBy, -, read⟩ := bind_eq_ok_iff.mp read
  obtain ⟨orphanRemoval, -, read⟩ := bind_eq_ok_iff.mp read
  obtain ⟨orderBy, -, read⟩ := bind_eq_ok_iff.mp read
  obtain ⟨target, cascade, fetch, rfl⟩ := readAssociation_eq_plain readPlain
  cases read
  rfl

theorem readManyToOne_joins (read : readManyToOne field joinColumns arguments = .ok association) :
    association.cardinality = .manyToOne ∧ association.joinColumns = joinColumns := by
  obtain ⟨plain, readPlain, read⟩ := bind_eq_ok_iff.mp read
  obtain ⟨inversedBy, -, read⟩ := bind_eq_ok_iff.mp read
  obtain ⟨target, cascade, fetch, rfl⟩ := readAssociation_eq_plain readPlain
  cases read
  exact ⟨rfl, rfl⟩

theorem readManyToMany_joins (read : readManyToMany field arguments = .ok association) :
    association.cardinality = .manyToMany ∧ readJoinTable field = .ok association.joinTable := by
  obtain ⟨plain, readPlain, read⟩ := bind_eq_ok_iff.mp read
  obtain ⟨sides, -, read⟩ := bind_eq_ok_iff.mp read
  obtain ⟨indexBy, -, read⟩ := bind_eq_ok_iff.mp read
  obtain ⟨orphanRemoval, -, read⟩ := bind_eq_ok_iff.mp read
  obtain ⟨orderBy, -, read⟩ := bind_eq_ok_iff.mp read
  obtain ⟨joinTable, readTable, read⟩ := bind_eq_ok_iff.mp read
  obtain ⟨target, cascade, fetch, rfl⟩ := readAssociation_eq_plain readPlain
  cases read
  exact ⟨rfl, readTable⟩

/-- What an association takes from the joins of its field: columns if it refers to one object,
and the table if it is between many and many. -/
structure TakesJoins (field : Field) (joinColumns : List JoinColumn) (association : Association) :
    Prop where
  columns : association.cardinality.isToOne = true → association.joinColumns = joinColumns
  table : association.cardinality = .manyToMany → readJoinTable field = .ok association.joinTable

theorem takesJoins_of_readKind {kind : FieldKind} {cardinality : Cardinality}
    (relates : Relates field cardinality) (read : readKind field joinColumns = .ok kind) :
    ∃ association, kind = .association association ∧ association.cardinality = cardinality ∧
      TakesJoins field joinColumns association := by
  obtain ⟨marker, directive, decides, isCardinality⟩ := relates
  rw [readKind, decides] at read
  cases marker with
  | oneToOne =>
      cases isCardinality
      obtain ⟨association, readInner, rfl⟩ := map_eq_ok_iff.mp read
      obtain ⟨ofKind, columns⟩ := readOneToOne_joins readInner
      refine ⟨association, rfl, ofKind, fun _ => columns, ?_⟩
      exact fun toMany => absurd (ofKind.symm.trans toMany) (by decide)
  | oneToMany =>
      cases isCardinality
      obtain ⟨association, readInner, rfl⟩ := map_eq_ok_iff.mp read
      have ofKind := readOneToMany_cardinality readInner
      refine ⟨association, rfl, ofKind, ?_, ?_⟩
      · rw [ofKind]
        exact fun toOne => absurd toOne (by decide)
      · exact fun toMany => absurd (ofKind.symm.trans toMany) (by decide)
  | manyToOne =>
      cases isCardinality
      obtain ⟨association, readInner, rfl⟩ := map_eq_ok_iff.mp read
      obtain ⟨ofKind, columns⟩ := readManyToOne_joins readInner
      refine ⟨association, rfl, ofKind, fun _ => columns, ?_⟩
      exact fun toMany => absurd (ofKind.symm.trans toMany) (by decide)
  | manyToMany =>
      cases isCardinality
      obtain ⟨association, readInner, rfl⟩ := map_eq_ok_iff.mp read
      obtain ⟨ofKind, table⟩ := readManyToMany_joins readInner
      refine ⟨association, rfl, ofKind, ?_, fun _ => table⟩
      rw [ofKind]
      exact fun toOne => absurd toOne (by decide)
  | _ => cases isCardinality

end Associations

end FieldSettings

/-- A field refers to one object. -/
def IsToOne (field : Field) : Prop :=
  ∃ cardinality, Relates field cardinality ∧ cardinality.isToOne = true

section ToOne

variable {field : Field} {settings : FieldSettings} {directive : Directive}

/-- A field that refers to one object is an association with the columns of its join. -/
theorem exists_columns_of_ofField (read : FieldSettings.ofField field = .ok settings)
    (toOne : IsToOne field) :
    ∃ association, settings.kind = .association association ∧
      FieldSettings.readJoin field = .ok association.joinColumns := by
  obtain ⟨-, -, joinColumns, readJoin, readKind⟩ := FieldSettings.exists_of_ofField read
  obtain ⟨cardinality, relates, isToOne⟩ := toOne
  obtain ⟨association, isKind, rfl, joins⟩ :=
    FieldSettings.takesJoins_of_readKind relates readKind
  exact ⟨association, isKind, (joins.columns isToOne).symm ▸ readJoin⟩

/-- A field that refers to one object has the join columns that the values of its join describe,
in order: that of the first argument and then those of the second.  There is none just if the
first is not given and the second is an empty list. -/
theorem join_lists_columns (read : FieldSettings.ofField field = .ok settings)
    (toOne : IsToOne field) (found : Marker.join.among field.directives = some directive) :
    ∃ columns, List.Forall₂ Describes directive.joinValues columns ∧
      (columns = [] ↔
        directive.given? "column" = none ∧ directive.given? "columns" = some (.list [])) ∧
      (∀ record, ((settings.apply record).association? field.name).map Association.joinColumns =
        some columns) ∧
      ∀ className type record before behind, evaluateNew className type = .ok record →
        type.fields = before ++ field :: behind →
        (∀ later ∈ behind, later.name ≠ field.name) →
        (record.association? field.name).map Association.joinColumns = some columns := by
  obtain ⟨association, isKind, readJoin⟩ := exists_columns_of_ofField read toOne
  obtain ⟨given, described⟩ := FieldSettings.describes_of_readJoin found readJoin
  refine ⟨association.joinColumns, described, ?_, fun record => ?_, ?_⟩
  · have none : association.joinColumns = [] ↔ directive.joinValues = [] := by
      rw [← List.length_eq_zero_iff, ← List.length_eq_zero_iff, described.length_eq]
    rw [none, Directive.joinValues_eq_nil_iff]
    refine and_congr_right fun noColumn => ?_
    obtain ⟨value, several⟩ := Option.ne_none_iff_exists'.mp (given.resolve_left (absurd noColumn))
    simp [several]
  · exact association?_of_holds read isKind (fun step => FieldSettings.holds_of_step?)
      fun _ => rfl
  · intro className type record before behind evaluated split last
    obtain ⟨base, holds⟩ := exists_holds_of_last evaluated split last read
    exact association?_of_holds read isKind holds fun _ => rfl

end ToOne

/-- A join by two columns, of which the second is described by an object in the place of a
list. -/
def authorJoin : Directive :=
  ⟨"Join", [⟨"column", .string "author_id", ⟨0, 0⟩⟩,
    ⟨"columns", .object [("name", .string "site_id"), ("nullable", .boolean false)], ⟨0, 0⟩⟩],
    ⟨0, 0⟩⟩

/-- A field that refers to one object by a join. -/
def joinedField (join : Directive) : Field :=
  ⟨none, "author", [], .named "ID",
    [⟨"ManyToOne", [⟨"targetEntity", .string "Author", ⟨0, 0⟩⟩], ⟨0, 0⟩⟩, join], ⟨0, 0⟩⟩

def joinedType (join : Directive) : ObjectType :=
  ⟨none, "Letter", [], [⟨"Entity", [], ⟨0, 0⟩⟩], [joinedField join], ⟨0, 0⟩⟩

theorem authorJoin_isToOne : IsToOne (joinedField authorJoin) :=
  ⟨.manyToOne, ⟨.manyToOne, _, rfl, rfl⟩, rfl⟩

theorem authorJoin_columns : ∃ record columns,
    evaluateNew "Letter" (joinedType authorJoin) = .ok record ∧
    (record.association? "author").map Association.joinColumns = some columns ∧
    List.Forall₂ Describes [.string "author_id",
      .object [("name", .string "site_id"), ("nullable", .boolean false)]] columns ∧
    columns ≠ [] := by
  have reads : ∃ settings, FieldSettings.ofField (joinedField authorJoin) = .ok settings :=
    ⟨_, rfl⟩
  have evaluates : ∃ record, evaluateNew "Letter" (joinedType authorJoin) = .ok record := ⟨_, rfl⟩
  obtain ⟨settings, read⟩ := reads
  obtain ⟨record, evaluated⟩ := evaluates
  obtain ⟨columns, described, noColumn, -, inRecord⟩ :=
    join_lists_columns read authorJoin_isToOne rfl
  refine ⟨record, columns, evaluated, ?_, described, fun none => nomatch (noColumn.mp none).1⟩
  exact inRecord "Letter" (joinedType authorJoin) record [] [] evaluated rfl
    (List.forall_mem_nil _)

/-- A join by no column. -/
def emptyJoin : Directive :=
  ⟨"Join", [⟨"columns", .list [], ⟨0, 0⟩⟩], ⟨0, 0⟩⟩

/-- A join by no column is evaluated, and the association has none. -/
theorem emptyJoin_columns : IsToOne (joinedField emptyJoin) ∧
    Marker.join.among (joinedField emptyJoin).directives = some emptyJoin ∧
    ∃ record, evaluateNew "Letter" (joinedType emptyJoin) = .ok record ∧
      (record.association? "author").map Association.joinColumns = some [] :=
  ⟨⟨.manyToOne, ⟨.manyToOne, _, rfl, rfl⟩, rfl⟩, rfl, _, rfl, rfl⟩

end EntityMapping.Settings
