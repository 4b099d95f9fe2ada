import EntityMapping.Proofs.Settings.FirstDirectives

/-!
# Faults and where they are

A fault that evaluation reports can be checked against the type alone: the path of a fault
leads, from the first directive of its name, to where the argument is missing or to the value
that is of the wrong kind; fields and values that a fault names are those of the type.  Main
statement: whatever evaluation reports is true in this sense.
-/

namespace EntityMapping.Settings

open EntityMapping.Document
open EntityMapping.Record

/-! ## Paths into values -/

/-- The value that one step leads to: the first field of a key, or the item at an index. -/
def Step.into? (value : Value) : Step → Option Value
  | key name => value.field? name
  | index place => value.item? place

/-- The value that a path leads to. -/
def ArgumentPath.follow? : ArgumentPath → Value → Option Value
  | [], value => some value
  | step :: rest, value => (step.into? value).bind (follow? rest)

/-- The value that a path leads to from the arguments of a directive. -/
def reached? (directive : Directive) (path : ArgumentPath) : Option Value :=
  ArgumentPath.follow? path (.object (said directive))

theorem ArgumentPath.follow?_append (front back : ArgumentPath) (value : Value) :
    ArgumentPath.follow? (front ++ back) value =
      (ArgumentPath.follow? front value).bind (ArgumentPath.follow? back) := by
  induction front generalizing value with
  | nil => rfl
  | cons step front ih =>
      rw [List.cons_append, follow?, follow?, Option.bind_assoc]
      exact congrArg _ (funext ih)

/-! ## Faults that are true -/

/-- The place is that of the columns of an index, in which an empty list will not do. -/
def NeedsColumns (directive : Directive) (place : ArgumentPath) (name : String) : Prop :=
  directive.name = Marker.table.text ∧ name = "columns" ∧
    ∃ list ∈ ["indexes", "uniqueConstraints"], ∃ index, place = [.key list, .index index]

/-- The path leads to an argument, or field of an object, that is absent or null; columns of an
index may also be an empty list. -/
def IsMissing (directive : Directive) (path : ArgumentPath) : Prop :=
  ∃ place name fields, path = place ++ [.key name] ∧
    reached? directive place = some (.object fields) ∧
    ((∀ value ∈ fields.lookup name, value = .null) ∨
      NeedsColumns directive place name ∧ fields.lookup name = some (.list []))

/-- The path leads to a value of the kind, or to a list with an item of the kind. -/
def IsOfKind (directive : Directive) (path : ArgumentPath) (found : ValueKind) : Prop :=
  ∃ value, reached? directive path = some value ∧
    (value.kind = found ∨ ∃ items, value = .list items ∧ ∃ item ∈ items, item.kind = found)

/-- A text is the value of an argument. -/
def Writes (directive : Directive) (written : String) : Prop :=
  ∃ argument ∈ directive.arguments, argument.value.asText? = some written

/-- A fault that is about the arguments of a directive is true of it. -/
def TrueOfDirective (directive : Directive) : Fault → Prop
  | .missingArgument name path => name = directive.name ∧ IsMissing directive path
  | .wrongKind name path _ found => name = directive.name ∧ IsOfKind directive path found
  | .unknownCacheUsage written => Writes directive written
  | .unknownValue _ written => Writes directive written
  | _ => False

/-- A fault that is about the arguments of a directive is true of the first one of its name
among the given directives. -/
def TrueAmong (directives : List Directive) (fault : Fault) : Prop :=
  ∃ name directive, Directive.find? name directives = some directive ∧
    TrueOfDirective directive fault

/-- An argument of a directive is given and not null. -/
def IsGiven (name : String) (directive : Directive) : Prop :=
  ∃ value, directive.argument? name = some value ∧ value ≠ .null

/-- A fault that names a field is true of the field. -/
def TrueOfField (field : Field) : Fault → Prop
  | .tableGenerator name => name = field.name ∧ Marker.tableGenerator.isAmong field.directives
  | .noJoinColumn name => name = field.name ∧
      ∃ directive, Marker.join.among field.directives = some directive ∧
        ¬ IsGiven "column" directive ∧ ¬ IsGiven "columns" directive
  | .bothSides name => name = field.name ∧
      ∃ marker ∈ [Marker.oneToOne, Marker.manyToMany], ∃ directive,
        marker.among field.directives = some directive ∧
        IsGiven "mappedBy" directive ∧ IsGiven "inversedBy" directive
  | fault => TrueAmong field.directives fault

/-- A fault that names no field is true of a type. -/
def TrueOfClass (directives : List Directive) : Fault → Prop
  | .noKind => ∀ marker ∈ [Marker.entity, .mappedSuperclass, .embeddable],
      ¬ marker.isAmong directives
  | .noDiscriminator strategy => strategy ≠ .none ∧ Marker.inheritance.isAmong directives ∧
      ¬ Marker.discriminator.isAmong directives
  | fault => TrueAmong directives fault

/-! ## Computations that fail with faults of a kind -/

/-- A computation that only fails with faults of which something holds. -/
def FailsOnly {α : Type} (holds : Fault → Prop) (result : Checked α) : Prop :=
  ∀ fault, result = .error fault → holds fault

namespace FailsOnly

variable {α β : Type} {holds weaker : Fault → Prop}

theorem ok (value : α) : FailsOnly holds (.ok value : Checked α) :=
  fun _ failed => nomatch failed

theorem error {fault : Fault} (isTrue : holds fault) :
    FailsOnly holds (.error fault : Checked α) := by
  intro other failed
  cases failed
  exact isTrue

theorem mono {result : Checked α} (fails : FailsOnly holds result)
    (implies : ∀ fault, holds fault → weaker fault) : FailsOnly weaker result :=
  fun fault failed => implies fault (fails fault failed)

theorem bind {first : Checked α} {next : α → Checked β} (fails : FailsOnly holds first)
    (others : ∀ value, first = .ok value → FailsOnly holds (next value)) :
    FailsOnly holds (first >>= next) := by
  intro fault failed
  rcases bind_eq_error_iff.mp failed with ofFirst | ⟨value, isValue, behind⟩
  · exact fails fault ofFirst
  · exact others value isValue fault behind

theorem map {result : Checked α} (fails : FailsOnly holds result) (f : α → β) :
    FailsOnly holds (result.map f) := by
  cases result with
  | error fault => exact error (fails fault rfl)
  | ok value => exact ok (f value)

theorem mapM {f : α → Checked β} {items : List α}
    (each : ∀ item ∈ items, FailsOnly holds (f item)) : FailsOnly holds (items.mapM f) := by
  intro fault failed
  obtain ⟨before, item, behind, rfl, -, ofItem⟩ := mapM_eq_error_iff.mp failed
  exact each item (List.mem_append_right before List.mem_cons_self) fault ofItem

end FailsOnly

/-! ## Reading arguments -/

theorem get?_eq_none_of_demanded {α : Type} {demand : Demand} {form : Value → Option α}
    {name : String} {arguments : Arguments}
    (absent : arguments.demanded demand form name = .ok none) : arguments.get? name = none := by
  unfold Arguments.demanded at absent
  split at absent
  · assumption
  · split at absent
    · cases absent
    · cases absent

theorem exists_get?_of_demanded {α : Type} {demand : Demand} {form : Value → Option α}
    {name : String} {arguments : Arguments} {content : α}
    (given : arguments.demanded demand form name = .ok (some content)) :
    ∃ value, arguments.get? name = some value ∧ form value = some content := by
  unfold Arguments.demanded at given
  split at given
  · cases given
  · rename_i value isValue
    split at given
    · rename_i ofForm
      cases given
      exact ⟨value, isValue, ofForm⟩
    · cases given

/-- There is no text when nothing is given or the list is empty. -/
theorem get?_of_texts_eq_nil {name : String} {arguments : Arguments}
    (nothing : arguments.texts name = .ok []) :
    arguments.get? name = none ∨ arguments.get? name = some (.list []) := by
  unfold Arguments.texts at nothing
  split at nothing
  · exact Or.inl ‹_›
  · rename_i items given
    cases items with
    | nil => exact Or.inr given
    | cons item items =>
        rw [List.mapM_cons] at nothing
        obtain ⟨first, -, nothing⟩ := bind_eq_ok_iff.mp nothing
        obtain ⟨others, -, nothing⟩ := bind_eq_ok_iff.mp nothing
        cases nothing
  · split at nothing
    · cases nothing
    · cases nothing

/-- Whatever is made of the arguments, under a name stands what is made of the first one. -/
theorem lookup_arguments {α : Type} (content : Argument → α) (arguments : List Argument)
    (name : String) :
    (arguments.map fun argument => (argument.name, content argument)).lookup name =
      (arguments.find? (·.name == name)).map content := by
  induction arguments with
  | nil => rfl
  | cons argument others ih =>
      rw [List.map_cons, List.lookup_cons, List.find?_cons, ih, BEq.comm]
      cases argument.name == name with
      | true => rfl
      | false => rfl

theorem lookup_said (directive : Directive) (name : String) :
    (said directive).lookup name = directive.argument? name :=
  lookup_arguments Argument.value directive.arguments name

theorem isGiven_iff {directive : Directive} {name : String} :
    IsGiven name directive ↔ ((Arguments.ofDirective directive).get? name).isSome = true := by
  have entries : (Arguments.ofDirective directive).entries.lookup name =
      directive.argument? name := lookup_said directive name
  rw [Arguments.get?, entries, IsGiven, Option.isSome_filter, Option.any_eq_true]
  refine exists_congr fun value => and_congr_right fun _ => ?_
  rw [Bool.not_eq_true', ← Bool.not_eq_true, Value.isNull_eq_true_iff]

theorem isGiven_of_text? {directive : Directive} {name : String} {given : Option String}
    (isGiven : (Arguments.ofDirective directive).text? name = .ok given)
    (isText : given.isSome = true) : IsGiven name directive := by
  obtain ⟨text, rfl⟩ := Option.isSome_iff_exists.mp isText
  obtain ⟨value, isValue, -⟩ := exists_get?_of_demanded isGiven
  exact isGiven_iff.mpr (isValue ▸ rfl)

/-- Arguments, or the fields of an object, where they stand in a directive. -/
structure StandsIn (directive : Directive) (arguments : Arguments) : Prop where
  name : arguments.directive = directive.name
  reached : reached? directive arguments.place = some (.object arguments.entries)

theorem standsIn_ofDirective (directive : Directive) :
    StandsIn directive (.ofDirective directive) :=
  ⟨rfl, rfl⟩

namespace StandsIn

variable {directive : Directive} {arguments : Arguments}

theorem reached?_path (stands : StandsIn directive arguments) (name : String) :
    reached? directive (arguments.path name) = arguments.entries.lookup name := by
  rw [Arguments.path, reached?, ArgumentPath.follow?_append]
  have reached := stands.reached
  rw [reached?] at reached
  rw [reached, Option.bind_some, ArgumentPath.follow?]
  exact Option.bind_fun_some _

theorem reached?_of_get? (stands : StandsIn directive arguments) {name : String} {value : Value}
    (given : arguments.get? name = some value) :
    reached? directive (arguments.path name) = some value := by
  rw [stands.reached?_path name]
  exact (Option.filter_eq_some_iff.mp given).1

theorem missing (stands : StandsIn directive arguments) {name : String}
    (absent : arguments.get? name = none) :
    TrueOfDirective directive (arguments.missing name) := by
  refine ⟨stands.name, arguments.place, name, arguments.entries, rfl, stands.reached, Or.inl ?_⟩
  intro value isValue
  have isNull := Option.filter_eq_none_iff.mp absent value isValue
  simpa [Value.isNull_eq_true_iff] using isNull

theorem wrong (stands : StandsIn directive arguments) {path : ArgumentPath} {value : Value}
    (reached : reached? directive path = some value) (demand : Demand) :
    TrueOfDirective directive (arguments.wrongAt path demand value) :=
  ⟨stands.name, value, reached, Or.inl rfl⟩

theorem wrongItem (stands : StandsIn directive arguments) {path : ArgumentPath}
    {items : List Value} (reached : reached? directive path = some (.list items)) {item : Value}
    (among : item ∈ items) (demand : Demand) :
    TrueOfDirective directive (arguments.wrongAt path demand item) :=
  ⟨stands.name, .list items, reached, Or.inr ⟨items, rfl, item, among, rfl⟩⟩

theorem demanded {α : Type} (stands : StandsIn directive arguments) (demand : Demand)
    (form : Value → Option α) (name : String) :
    FailsOnly (TrueOfDirective directive) (arguments.demanded demand form name) := by
  unfold Arguments.demanded
  split
  · exact .ok _
  · rename_i value given
    split
    · exact .ok _
    · exact .error (stands.wrong (stands.reached?_of_get? given) demand)

theorem text? (stands : StandsIn directive arguments) (name : String) :
    FailsOnly (TrueOfDirective directive) (arguments.text? name) :=
  stands.demanded .text _ name

theorem text (stands : StandsIn directive arguments) (name : String) :
    FailsOnly (TrueOfDirective directive) (arguments.text name) := by
  refine .bind (stands.text? name) fun given isGiven => ?_
  cases given with
  | some value => exact .ok value
  | none => exact .error (stands.missing (get?_eq_none_of_demanded isGiven))

theorem boolean? (stands : StandsIn directive arguments) (name : String) :
    FailsOnly (TrueOfDirective directive) (arguments.boolean? name) :=
  stands.demanded .boolean _ name

theorem flag (stands : StandsIn directive arguments) (name : String) :
    FailsOnly (TrueOfDirective directive) (arguments.flag name) :=
  (stands.boolean? name).map _

theorem natural? (stands : StandsIn directive arguments) (name : String) :
    FailsOnly (TrueOfDirective directive) (arguments.natural? name) :=
  stands.demanded .natural _ name

theorem texts (stands : StandsIn directive arguments) (name : String) :
    FailsOnly (TrueOfDirective directive) (arguments.texts name) := by
  unfold Arguments.texts
  split
  · exact .ok []
  · rename_i items given
    refine .mapM fun item among => ?_
    split
    · exact .ok _
    · exact .error (stands.wrongItem (stands.reached?_of_get? given) among .texts)
  · rename_i value _ given
    split
    · exact .ok _
    · exact .error (stands.wrong (stands.reached?_of_get? given) .texts)

theorem nested (stands : StandsIn directive arguments) {path : ArgumentPath} {value : Value}
    (reached : reached? directive path = some value) :
    FailsOnly (TrueOfDirective directive) (arguments.nested path value) := by
  unfold Arguments.nested
  split
  · exact .ok _
  · exact .error (stands.wrong reached .object)

theorem of_nested (stands : StandsIn directive arguments) {path : ArgumentPath} {value : Value}
    (reached : reached? directive path = some value) {inner : Arguments}
    (made : arguments.nested path value = .ok inner) :
    StandsIn directive inner ∧ inner.place = path := by
  unfold Arguments.nested at made
  cases value with
  | object fields =>
      cases made
      exact ⟨⟨stands.name, reached⟩, rfl⟩
  | _ => cases made

/-- The place of an item of a list leads to the item. -/
theorem reached?_placed (stands : StandsIn directive arguments) {name : String}
    {items : List Value} (given : arguments.get? name = some (.list items))
    {placed : ArgumentPath × Value} (among : placed ∈ arguments.placed name items) :
    reached? directive placed.1 = some placed.2 ∧
      ∃ index, placed.1 = arguments.path name ++ [.index index] := by
  obtain ⟨⟨item, index⟩, isItem, rfl⟩ := List.mem_map.mp among
  have atIndex : items[index]? = some item := List.mem_zipIdx_iff_getElem?.mp isItem
  have reached := stands.reached?_of_get? given
  rw [reached?] at reached
  refine ⟨?_, index, rfl⟩
  rw [reached?, ArgumentPath.follow?_append, reached]
  simp [ArgumentPath.follow?, Step.into?, Value.item?, Value.asList?, atIndex]

theorem objects (stands : StandsIn directive arguments) (name : String) :
    FailsOnly (TrueOfDirective directive) (arguments.objects name) := by
  unfold Arguments.objects
  split
  · exact .ok []
  · rename_i items given
    exact .mapM fun placed among => stands.nested (stands.reached?_placed given among).1
  · rename_i value _ given
    exact .error (stands.wrong (stands.reached?_of_get? given) .objects)

theorem of_objects (stands : StandsIn directive arguments) {name : String}
    {objects : List Arguments} (made : arguments.objects name = .ok objects) :
    ∀ inner ∈ objects, StandsIn directive inner ∧
      ∃ index, inner.place = arguments.path name ++ [.index index] := by
  unfold Arguments.objects at made
  split at made
  · cases made
    exact List.forall_mem_nil _
  · rename_i items given
    intro inner among
    obtain ⟨placed, isPlaced, ofPlaced⟩ := exists_of_mapM_eq_ok made inner among
    obtain ⟨reached, index, path⟩ := stands.reached?_placed given isPlaced
    obtain ⟨standsInner, place⟩ := stands.of_nested reached ofPlaced
    exact ⟨standsInner, index, place.trans path⟩
  · cases made

theorem objectAttributes (stands : StandsIn directive arguments) (name : String) :
    FailsOnly (TrueOfDirective directive) (arguments.objectAttributes name) := by
  unfold Arguments.objectAttributes
  split
  · exact .ok []
  · rename_i value given
    exact (stands.nested (stands.reached?_of_get? given)).map _

theorem dataList (stands : StandsIn directive arguments) (name : String) :
    FailsOnly (TrueOfDirective directive) (arguments.dataList name) := by
  unfold Arguments.dataList
  split
  · exact .ok []
  · exact .ok _
  · rename_i value _ given
    exact .error (stands.wrong (stands.reached?_of_get? given) .list)

end StandsIn

/-! ## Values of vocabularies -/

theorem FailsOnly.vocabulary {α : Type} [Vocabulary α] {holds : Fault → Prop}
    {fault : String → Fault} {written : String} (isTrue : holds (fault written)) :
    FailsOnly holds (Arguments.vocabulary fault written : Checked α) := by
  unfold Arguments.vocabulary
  split
  · exact .ok _
  · exact .error isTrue

theorem writes_of_text? {directive : Directive} {name written : String}
    (given : (Arguments.ofDirective directive).text? name = .ok (some written)) :
    Writes directive written := by
  obtain ⟨value, isValue, isText⟩ := exists_get?_of_demanded given
  obtain ⟨front, back, split, -⟩ :=
    List.lookup_eq_some_iff.mp (Option.filter_eq_some_iff.mp isValue).1
  have among : (name, value) ∈ (Arguments.ofDirective directive).entries := by
    rw [split]
    exact List.mem_append_right front List.mem_cons_self
  obtain ⟨argument, isArgument, same⟩ := List.mem_map.mp among
  cases same
  exact ⟨argument, isArgument, isText⟩

theorem writes_of_text {directive : Directive} {name written : String}
    (given : (Arguments.ofDirective directive).text name = .ok written) :
    Writes directive written := by
  obtain ⟨value, ofText, isWritten⟩ := bind_eq_ok_iff.mp given
  cases value with
  | some text =>
      cases isWritten
      exact writes_of_text? ofText
  | none => cases isWritten

theorem vocabulary?_failsOnly {α : Type} [Vocabulary α] {directive : Directive}
    {fault : String → Fault} (name : String)
    (isTrue : ∀ written, Writes directive written → TrueOfDirective directive (fault written)) :
    FailsOnly (TrueOfDirective directive)
      ((Arguments.ofDirective directive).vocabulary? fault name : Checked (Option α)) := by
  refine .bind ((standsIn_ofDirective directive).text? name) fun given isGiven => ?_
  cases given with
  | none => exact .ok none
  | some written => exact (FailsOnly.vocabulary (isTrue written (writes_of_text? isGiven))).map some

theorem cacheOverride_failsOnly {directives : List Directive} :
    FailsOnly (fun fault => ∃ directive, Marker.cache.among directives = some directive ∧
      TrueOfDirective directive fault) (CacheOverride.ofDirectives directives) := by
  unfold CacheOverride.ofDirectives
  split
  · exact .ok none
  · rename_i directive found
    refine .mono ?_ fun fault isTrue => ⟨directive, found, isTrue⟩
    refine .bind (vocabulary?_failsOnly "usage" fun _ writes => writes) fun usage _ => ?_
    exact .bind ((standsIn_ofDirective directive).text? "region") fun region _ => .ok _

end EntityMapping.Settings
