import EntityMapping.Proofs.Outcome
import EntityMapping.Settings.Evaluation
import Mathlib.Data.List.Forall2

/-!
# What evaluation depends on

Of the directives of a type and of its fields, evaluation only sees the arguments of the
first one of each annotation, and of the fields otherwise their names.  Main statement: two
types that say the same in this way are evaluated alike, so directives can be rearranged and
everything else changed without any effect.
-/

namespace EntityMapping.Settings

open EntityMapping.Document
open EntityMapping.Record

/-! ## Types that say the same -/

/-- The arguments of a directive, wherever they stand. -/
def said (directive : Directive) : List (String × Value) :=
  directive.arguments.map fun argument => (argument.name, argument.value)

/-- For every annotation the first directive that carries it has the same arguments in both
lists, or neither list has one. -/
def SaySame (left right : List Directive) : Prop :=
  ∀ marker : Marker, (marker.among left).map said = (marker.among right).map said

/-- Fields of one name whose directives say the same. -/
structure FieldsSaySame (left right : Field) : Prop where
  name : left.name = right.name
  directives : SaySame left.directives right.directives

/-- Types whose directives say the same, and with them those of their fields in order. -/
structure TypesSaySame (left right : ObjectType) : Prop where
  directives : SaySame left.directives right.directives
  fields : List.Forall₂ FieldsSaySame left.fields right.fields

theorem Marker.name_of_among {directives : List Directive} {directive : Directive}
    {marker : Marker} (found : marker.among directives = some directive) :
    directive.name = marker.text := by
  have isNamed := List.find?_some found
  exact beq_iff_eq.mp isNamed

namespace SaySame

variable {left right : List Directive}

/-- An annotation is in neither list, or its arguments read the same in both. -/
theorem among_cases (same : SaySame left right) (marker : Marker) :
    (marker.among left = none ∧ marker.among right = none) ∨
      ∃ first second, marker.among left = some first ∧ marker.among right = some second ∧
        Arguments.ofDirective first = Arguments.ofDirective second := by
  have sameSaid := same marker
  cases inLeft : marker.among left with
  | none =>
      rw [inLeft, Option.map_none, eq_comm, Option.map_eq_none_iff] at sameSaid
      exact Or.inl ⟨rfl, sameSaid⟩
  | some first =>
      rw [inLeft, Option.map_some, eq_comm] at sameSaid
      obtain ⟨second, inRight, sameArguments⟩ := Option.map_eq_some_iff.mp sameSaid
      refine Or.inr ⟨first, second, rfl, inRight, ?_⟩
      have sameName := (Marker.name_of_among inLeft).trans (Marker.name_of_among inRight).symm
      unfold said at sameArguments
      rw [Arguments.ofDirective, Arguments.ofDirective, sameName, sameArguments]

/-- What is read of the first directive of an annotation is the same in both lists, if it only
depends on the arguments. -/
theorem read_eq {α : Type} (same : SaySame left right) (marker : Marker)
    {absent : α} {ofLeft ofRight : Directive → α}
    (present : ∀ first second, Arguments.ofDirective first = Arguments.ofDirective second →
      ofLeft first = ofRight second) :
    (match marker.among left with
      | none => absent
      | some directive => ofLeft directive) =
    match marker.among right with
      | none => absent
      | some directive => ofRight directive := by
  rcases same.among_cases marker with ⟨inLeft, inRight⟩ | ⟨first, second, inLeft, inRight, read⟩
  · rw [inLeft, inRight]
  · simp only [inLeft, inRight, present first second read]

theorem isAmong_eq (same : SaySame left right) (marker : Marker) :
    marker.isAmong left = marker.isAmong right := by
  have sameSome := congrArg Option.isSome (same marker)
  rwa [Option.isSome_map, Option.isSome_map] at sameSome

/-! ## Settings of a class -/

theorem readKind_eq (same : SaySame left right) :
    ClassSettings.readKind left = ClassSettings.readKind right := by
  unfold ClassSettings.readKind
  rcases same.among_cases .entity with ⟨inLeft, inRight⟩ | ⟨_, _, inLeft, inRight, read⟩
  · rw [inLeft, inRight, same.isAmong_eq]
    rcases same.among_cases .mappedSuperclass with
      ⟨inLeft, inRight⟩ | ⟨_, _, inLeft, inRight, read⟩
    · simp only [inLeft, inRight]
    · simp only [inLeft, inRight, read]
  · simp only [inLeft, inRight, read]

theorem cache_eq (same : SaySame left right) :
    CacheOverride.ofDirectives left = CacheOverride.ofDirectives right :=
  same.read_eq .cache fun _ _ read => by rw [read]

theorem readEach_eq {α : Type} (same : SaySame left right) (marker : Marker) (name : String)
    (read : Arguments → Checked α) :
    ClassSettings.readEach marker name read left = ClassSettings.readEach marker name read right :=
  same.read_eq marker fun _ _ read => by rw [read]

theorem readInheritance_eq (same : SaySame left right) :
    ClassSettings.readInheritance left = ClassSettings.readInheritance right := by
  unfold ClassSettings.readInheritance
  rcases same.among_cases .inheritance with ⟨inLeft, inRight⟩ | ⟨_, _, inLeft, inRight, read⟩
  · rw [inLeft, inRight]
  · simp only [inLeft, inRight, read]
    rcases same.among_cases .discriminator with ⟨inLeft, inRight⟩ | ⟨_, _, inLeft, inRight, read⟩
    · simp only [inLeft, inRight]
    · simp only [inLeft, inRight, read]

theorem readChangeTracking_eq (same : SaySame left right) :
    ClassSettings.readChangeTracking left = ClassSettings.readChangeTracking right :=
  same.read_eq .changeTracking fun _ _ read => by rw [read]

theorem ofDirectives_eq (same : SaySame left right) :
    ClassSettings.ofDirectives left = ClassSettings.ofDirectives right := by
  unfold ClassSettings.ofDirectives
  rw [same.readKind_eq, same.cache_eq, same.readEach_eq, same.readEach_eq, same.readEach_eq,
    same.readInheritance_eq, same.readChangeTracking_eq]
  rcases same.among_cases .table with ⟨inLeft, inRight⟩ | ⟨_, _, inLeft, inRight, read⟩
  · rw [inLeft, inRight]
  · simp only [inLeft, inRight, read]

end SaySame

/-! ## Settings of a field -/

namespace FieldsSaySame

variable {left right : Field}

theorem readJoin_eq (same : FieldsSaySame left right) :
    FieldSettings.readJoin left = FieldSettings.readJoin right :=
  same.directives.read_eq .join fun _ _ read => by rw [read, same.name]

theorem readJoinTable_eq (same : FieldsSaySame left right) :
    FieldSettings.readJoinTable left = FieldSettings.readJoinTable right :=
  same.directives.read_eq .joinTable fun _ _ read => by rw [read]

theorem readOrderBy_eq (same : FieldsSaySame left right) :
    FieldSettings.readOrderBy left = FieldSettings.readOrderBy right :=
  same.directives.read_eq .orderBy fun _ _ read => by rw [read]

theorem readGenerator_eq (same : FieldsSaySame left right) :
    FieldSettings.readGenerator left = FieldSettings.readGenerator right :=
  same.directives.read_eq .generatedValue fun _ _ read => by rw [read]

theorem readKeySource_eq (same : FieldsSaySame left right) :
    FieldSettings.readKeySource left = FieldSettings.readKeySource right := by
  unfold FieldSettings.readKeySource
  rcases same.directives.among_cases .sequenceGenerator with
    ⟨inLeft, inRight⟩ | ⟨_, _, inLeft, inRight, read⟩
  · simp only [inLeft, inRight]
    exact same.directives.read_eq .customGenerator fun _ _ read => by rw [read]
  · simp only [inLeft, inRight, read]

theorem readColumn_eq (same : FieldsSaySame left right) (arguments : Arguments) :
    FieldSettings.readColumn left arguments = FieldSettings.readColumn right arguments := by
  unfold FieldSettings.readColumn
  simp only [same.readGenerator_eq, same.readKeySource_eq, same.directives.isAmong_eq, same.name]

theorem readOneToOne_eq (same : FieldsSaySame left right) (joinColumns : List JoinColumn)
    (arguments : Arguments) :
    FieldSettings.readOneToOne left joinColumns arguments =
      FieldSettings.readOneToOne right joinColumns arguments := by
  unfold FieldSettings.readOneToOne
  simp only [same.directives.isAmong_eq, same.name]

theorem readOneToMany_eq (same : FieldsSaySame left right) (arguments : Arguments) :
    FieldSettings.readOneToMany left arguments = FieldSettings.readOneToMany right arguments := by
  unfold FieldSettings.readOneToMany
  simp only [same.readOrderBy_eq, same.name]

theorem readManyToOne_eq (same : FieldsSaySame left right) (joinColumns : List JoinColumn)
    (arguments : Arguments) :
    FieldSettings.readManyToOne left joinColumns arguments =
      FieldSettings.readManyToOne right joinColumns arguments := by
  unfold FieldSettings.readManyToOne
  simp only [same.directives.isAmong_eq, same.name]

theorem readManyToMany_eq (same : FieldsSaySame left right) (arguments : Arguments) :
    FieldSettings.readManyToMany left arguments =
      FieldSettings.readManyToMany right arguments := by
  unfold FieldSettings.readManyToMany
  simp only [same.readOrderBy_eq, same.readJoinTable_eq, same.name]

/-- No annotation maps the fields, or the same one does in both, with the same arguments. -/
theorem decisive?_cases (same : FieldsSaySame left right) :
    (FieldSettings.decisive? left = none ∧ FieldSettings.decisive? right = none) ∨
      ∃ marker first second, FieldSettings.decisive? left = some (marker, first) ∧
        FieldSettings.decisive? right = some (marker, second) ∧
        Arguments.ofDirective first = Arguments.ofDirective second := by
  unfold FieldSettings.decisive?
  generalize FieldSettings.kindMarkers = markers
  induction markers with
  | nil => exact Or.inl ⟨rfl, rfl⟩
  | cons marker markers ih =>
      rw [List.findSome?_cons, List.findSome?_cons]
      rcases same.directives.among_cases marker with
        ⟨inLeft, inRight⟩ | ⟨first, second, inLeft, inRight, arguments⟩
      · rw [inLeft, inRight]
        exact ih
      · rw [inLeft, inRight]
        exact Or.inr ⟨marker, first, second, rfl, rfl, arguments⟩

theorem readKind_eq (same : FieldsSaySame left right) (joinColumns : List JoinColumn) :
    FieldSettings.readKind left joinColumns = FieldSettings.readKind right joinColumns := by
  unfold FieldSettings.readKind
  rcases same.decisive?_cases with
    ⟨inLeft, inRight⟩ | ⟨marker, first, second, inLeft, inRight, arguments⟩
  · rw [inLeft, inRight]
  · simp only [inLeft, inRight, arguments, same.readColumn_eq, same.readOneToOne_eq,
      same.readOneToMany_eq, same.readManyToOne_eq, same.readManyToMany_eq, same.name]

theorem ofField_eq (same : FieldsSaySame left right) :
    FieldSettings.ofField left = FieldSettings.ofField right := by
  unfold FieldSettings.ofField
  simp only [same.directives.isAmong_eq, same.directives.cache_eq, same.readJoin_eq,
    same.readKind_eq, same.name]

end FieldsSaySame

/-! ## Types -/

theorem mapM_eq_of_forall₂ {ε α β γ : Type} {f : α → Except ε γ} {g : β → Except ε γ}
    {left : List α} {right : List β}
    (each : List.Forall₂ (fun first second => f first = g second) left right) :
    left.mapM f = right.mapM g := by
  induction each with
  | nil => rfl
  | cons same _ ih => rw [List.mapM_cons, List.mapM_cons, same, ih]

theorem TypesSaySame.evaluate_eq {left right : ObjectType} (same : TypesSaySame left right)
    (className : String) (record : ClassMapping) :
    evaluate className left record = evaluate className right record := by
  have fields : left.fields.mapM FieldSettings.ofField = right.fields.mapM FieldSettings.ofField :=
    mapM_eq_of_forall₂ (same.fields.imp fun _ _ sameField => sameField.ofField_eq)
  rw [evaluate, evaluate, TypeSettings.ofType, TypeSettings.ofType,
    same.directives.ofDirectives_eq, fields]

/-! ## Rearrangements -/

/-- Ways to change directives that leave alone what they say: those of different names can
change places, unknown ones and repetitions can be added, and what has no name or value in
them, like a span, can be anything. -/
inductive Rearranged : List Directive → List Directive → Prop where
  | refl (directives : List Directive) : Rearranged directives directives
  | swap {before behind : List Directive} {first second : Directive}
      (different : first.name ≠ second.name) :
      Rearranged (before ++ first :: second :: behind) (before ++ second :: first :: behind)
  | unknown {before behind : List Directive} {directive : Directive}
      (ignored : ∀ marker : Marker, marker.text ≠ directive.name) :
      Rearranged (before ++ behind) (before ++ directive :: behind)
  | repetition {before behind : List Directive} {first directive : Directive}
      (earlier : first ∈ before) (sameName : first.name = directive.name) :
      Rearranged (before ++ behind) (before ++ directive :: behind)
  | moved {before behind : List Directive} {first second : Directive}
      (sameName : first.name = second.name) (sameSaid : said first = said second) :
      Rearranged (before ++ first :: behind) (before ++ second :: behind)
  | symm {left right : List Directive} (back : Rearranged right left) : Rearranged left right
  | trans {left middle right : List Directive} (front : Rearranged left middle)
      (back : Rearranged middle right) : Rearranged left right

/-- Types whose directives, and those of their fields, arise from each other by rearrangement.
All the rest may differ, but for the names of the fields. -/
structure TypesRearranged (left right : ObjectType) : Prop where
  directives : Rearranged left.directives right.directives
  fields : List.Forall₂ (fun first second : Field =>
    first.name = second.name ∧ Rearranged first.directives second.directives)
    left.fields right.fields

theorem Marker.among_append (front back : List Directive) (marker : Marker) :
    marker.among (front ++ back) = (marker.among front).or (marker.among back) :=
  List.find?_append

theorem Marker.among_cons_of_ne {directive : Directive} {marker : Marker}
    (different : marker.text ≠ directive.name) (others : List Directive) :
    marker.among (directive :: others) = marker.among others := by
  have skipped : (directive.name == marker.text) = false := beq_eq_false_iff_ne.mpr different.symm
  rw [Marker.among, Directive.find?, List.find?_cons, skipped]
  rfl

theorem Marker.among_cons_of_eq {directive : Directive} {marker : Marker}
    (same : marker.text = directive.name) (others : List Directive) :
    marker.among (directive :: others) = some directive := by
  have taken : (directive.name == marker.text) = true := beq_iff_eq.mpr same.symm
  rw [Marker.among, Directive.find?, List.find?_cons, taken]

theorem Rearranged.saySame {left right : List Directive} (rearranged : Rearranged left right) :
    SaySame left right := by
  intro marker
  induction rearranged with
  | refl directives => rfl
  | @swap before behind first second different =>
      rw [Marker.among_append, Marker.among_append]
      congr 2
      by_cases isFirst : marker.text = first.name
      · rw [Marker.among_cons_of_eq isFirst, Marker.among_cons_of_ne (isFirst ▸ different),
          Marker.among_cons_of_eq isFirst]
      · rw [Marker.among_cons_of_ne isFirst]
        by_cases isSecond : marker.text = second.name
        · rw [Marker.among_cons_of_eq isSecond, Marker.among_cons_of_eq isSecond]
        · rw [Marker.among_cons_of_ne isSecond, Marker.among_cons_of_ne isSecond,
            Marker.among_cons_of_ne isFirst]
  | @unknown before behind directive ignored =>
      rw [Marker.among_append, Marker.among_append, Marker.among_cons_of_ne (ignored marker)]
  | @repetition before behind first directive earlier sameName =>
      rw [Marker.among_append, Marker.among_append]
      by_cases isNamed : marker.text = directive.name
      · have found : (marker.among before).isSome = true := by
          rw [Marker.among, Directive.find?, List.find?_isSome]
          exact ⟨first, earlier, by simp [sameName, isNamed]⟩
        rw [Option.or_of_isSome found, Option.or_of_isSome found]
      · rw [Marker.among_cons_of_ne isNamed]
  | @moved before behind first second sameName sameSaid =>
      rw [Marker.among_append, Marker.among_append, Option.map_or, Option.map_or]
      congr 1
      by_cases isNamed : marker.text = first.name
      · rw [Marker.among_cons_of_eq isNamed, Marker.among_cons_of_eq (isNamed.trans sameName),
          Option.map_some, Option.map_some, sameSaid]
      · rw [Marker.among_cons_of_ne isNamed, Marker.among_cons_of_ne (sameName ▸ isNamed)]
  | symm _ ih => exact ih.symm
  | trans _ _ ihFront ihBack => exact ihFront.trans ihBack

/-- Types that say the same are evaluated alike, whatever the record: with the same error or
the same record.  And they say the same if their directives arise from each other by
rearrangement, whatever else is different but the names of the fields. -/
theorem first_directives_decide (left right : ObjectType) :
    (TypesRearranged left right → TypesSaySame left right) ∧
      (TypesSaySame left right → ∀ className record,
        evaluate className left record = evaluate className right record) := by
  constructor
  · intro rearranged
    refine ⟨rearranged.directives.saySame, rearranged.fields.imp ?_⟩
    rintro first second ⟨sameName, directives⟩
    exact ⟨sameName, directives.saySame⟩
  · intro same className record
    exact same.evaluate_eq className record

/-- A type with a table and a column. -/
def sparseType : ObjectType :=
  ⟨none, "User", [],
    [⟨"Entity", [], ⟨0, 7⟩⟩, ⟨"Table", [⟨"name", .string "users", ⟨0, 0⟩⟩], ⟨8, 9⟩⟩],
    [⟨none, "id", [], .named "ID", [⟨"Column", [], ⟨0, 0⟩⟩], ⟨0, 0⟩⟩], ⟨0, 0⟩⟩

/-- The same type with another name, another order, a second table, an unknown directive, and a
description and type of its field. -/
def verboseType : ObjectType :=
  ⟨some "Users", "Person", ["Named"],
    [⟨"Table", [⟨"name", .string "users", ⟨7, 8⟩⟩], ⟨1, 2⟩⟩, ⟨"Entity", [], ⟨0, 7⟩⟩,
      ⟨"Table", [], ⟨3, 4⟩⟩],
    [⟨some "Key", "id", [], .nonNull (.named "Int"),
      [⟨"Deprecated", [], ⟨0, 0⟩⟩, ⟨"Column", [], ⟨0, 0⟩⟩], ⟨5, 6⟩⟩], ⟨9, 9⟩⟩

theorem sparseType_rearranged : TypesRearranged sparseType verboseType where
  directives := by
    refine .trans (@Rearranged.swap [] [] _ _ (by decide)) (.trans (@Rearranged.moved [] _ _
      ⟨"Table", [⟨"name", .string "users", ⟨7, 8⟩⟩], ⟨1, 2⟩⟩ rfl rfl) ?_)
    exact @Rearranged.repetition [_, _] [] _ _ List.mem_cons_self rfl
  fields := .cons ⟨rfl, @Rearranged.unknown [] _ _ (by rintro (_ | _) <;> decide)⟩ .nil

theorem verboseType_evaluated : TypesRearranged sparseType verboseType ∧
    ∀ className record,
      evaluate className sparseType record = evaluate className verboseType record :=
  ⟨sparseType_rearranged, (first_directives_decide sparseType verboseType).2
    ((first_directives_decide sparseType verboseType).1 sparseType_rearranged)⟩

end EntityMapping.Settings
