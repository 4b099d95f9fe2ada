import EntityMapping.Files.Classes
import EntityMapping.Proofs.Overriding

/-!
# Types that are bound to classes

A type is bound to the class that the first argument `name` of its first directive `Class`
names, if this is a string.  Main statement: the classes of definitions are those that types
are bound to, each with the last of its types, and definitions that follow others override
their classes.
-/

namespace EntityMapping.Files

open EntityMapping.Document
open EntityMapping.Settings

/-! ## Bindings -/

/-- An item is the first in a list that has a name. -/
def IsFirst {α : Type} (nameOf : α → String) (name : String) (item : α) (items : List α) : Prop :=
  ∃ front behind, items = front ++ item :: behind ∧ nameOf item = name ∧
    ∀ earlier ∈ front, nameOf earlier ≠ name

theorem find?_eq_some_iff_isFirst {α : Type} {nameOf : α → String} {name : String} {item : α}
    {items : List α} :
    items.find? (fun other => nameOf other == name) = some item ↔
      IsFirst nameOf name item items := by
  rw [List.find?_eq_some_iff_append, beq_iff_eq]
  constructor
  · rintro ⟨isNamed, front, behind, split, others⟩
    refine ⟨front, behind, split, isNamed, fun earlier member => ?_⟩
    simpa using others earlier member
  · rintro ⟨front, behind, split, isNamed, others⟩
    refine ⟨isNamed, front, behind, split, fun earlier member => ?_⟩
    simpa using others earlier member

/-- A type is bound to a class: the first argument `name` of its first directive `Class` is a
string, the name of the class. -/
def BoundTo (type : ObjectType) (className : String) : Prop :=
  ∃ directive argument, IsFirst Directive.name "Class" directive type.directives ∧
    IsFirst Argument.name "name" argument directive.arguments ∧
    argument.value = .string className

theorem boundClass?_eq_some_iff {type : ObjectType} {className : String} :
    boundClass? type = some className ↔ BoundTo type className := by
  have bound : boundClass? type = some className ↔
      (Marker.classBinding.among type.directives).bind (·.argument? "name") =
        some (.string className) := by
    unfold boundClass?
    split
    · rename_i name found
      simp [found]
    · rename_i noString
      exact ⟨nofun, fun found => absurd found (noString className)⟩
  rw [bound, Option.bind_eq_some_iff]
  constructor
  · rintro ⟨directive, isDirective, found⟩
    obtain ⟨argument, isArgument, isString⟩ := Option.map_eq_some_iff.mp found
    exact ⟨directive, argument, find?_eq_some_iff_isFirst.mp isDirective,
      find?_eq_some_iff_isFirst.mp isArgument, isString⟩
  · rintro ⟨directive, argument, isDirective, isArgument, isString⟩
    exact ⟨directive, find?_eq_some_iff_isFirst.mpr isDirective,
      Option.map_eq_some_iff.mpr ⟨argument, find?_eq_some_iff_isFirst.mpr isArgument, isString⟩⟩

/-- A definition binds a type to a class: it defines the type as an object type, or extends
it as one. -/
def Binds (definition : Definition) (className : String) (type : ObjectType) : Prop :=
  (definition = .object type ∨ definition = .extension type) ∧ BoundTo type className

/-- The type that a definition binds, with its class. -/
def binding? (definition : Definition) : Option (String × ObjectType) :=
  definition.objectType?.bind fun type => (boundClass? type).map (·, type)

theorem bindings_eq_filterMap (definitions : List Definition) :
    bindings definitions = definitions.filterMap binding? :=
  List.filterMap_filterMap

theorem objectType?_eq_some_iff {definition : Definition} {type : ObjectType} :
    definition.objectType? = some type ↔
      definition = .object type ∨ definition = .extension type := by
  cases definition <;> simp [Definition.objectType?]

theorem binding?_eq_some_iff {definition : Definition} {className : String}
    {type : ObjectType} :
    binding? definition = some (className, type) ↔ Binds definition className type := by
  rw [binding?, Option.bind_eq_some_iff, Binds, ← boundClass?_eq_some_iff,
    ← objectType?_eq_some_iff]
  constructor
  · rintro ⟨other, isType, bound⟩
    obtain ⟨name, isBound, same⟩ := Option.map_eq_some_iff.mp bound
    cases same
    exact ⟨isType, isBound⟩
  · rintro ⟨isType, isBound⟩
    exact ⟨type, isType, Option.map_eq_some_iff.mpr ⟨className, isBound, rfl⟩⟩

/-! ## Classes -/

/-- The entry of a class is the last type that is bound to it. -/
theorem lookup_classesOf_eq_some_iff {definitions : List Definition} {className : String}
    {type : ObjectType} :
    (classesOf definitions).lookup className = some type ↔
      ∃ front definition behind, definitions = front ++ definition :: behind ∧
        Binds definition className type ∧
        ∀ later ∈ behind, ∀ other, ¬ Binds later className other := by
  rw [classesOf, Keyed.lookup_ofEntries_eq_some_iff, bindings_eq_filterMap]
  constructor
  · rintro ⟨before, after, split, noOther⟩
    obtain ⟨front, rest, rfl, -, isRest⟩ := List.filterMap_eq_append_iff.mp split
    obtain ⟨skipped, definition, behind, rfl, -, isBinding, isAfter⟩ :=
      List.filterMap_eq_cons_iff.mp isRest
    refine ⟨front ++ skipped, definition, behind, by simp, binding?_eq_some_iff.mp isBinding, ?_⟩
    intro later member other binds
    have among : (className, other) ∈ behind.filterMap binding? :=
      List.mem_filterMap.mpr ⟨later, member, binding?_eq_some_iff.mpr binds⟩
    exact noOther _ (isAfter ▸ among) rfl
  · rintro ⟨front, definition, behind, rfl, binds, noOther⟩
    refine ⟨front.filterMap binding?, behind.filterMap binding?, ?_, ?_⟩
    · rw [List.filterMap_append, List.filterMap_cons_some (binding?_eq_some_iff.mpr binds)]
    · rintro ⟨name, other⟩ member rfl
      obtain ⟨later, among, isBinding⟩ := List.mem_filterMap.mp member
      exact noOther later among other (binding?_eq_some_iff.mp isBinding)

theorem mem_keys_classesOf_iff {definitions : List Definition} {className : String} :
    className ∈ (classesOf definitions).keys ↔
      ∃ definition ∈ definitions, ∃ type, Binds definition className type := by
  rw [classesOf, Keyed.ofEntries, Keyed.mem_keys_override, bindings_eq_filterMap]
  constructor
  · rintro (absent | member)
    · exact absurd absent List.not_mem_nil
    · obtain ⟨⟨name, type⟩, among, rfl⟩ := List.mem_map.mp member
      obtain ⟨definition, isIn, isBinding⟩ := List.mem_filterMap.mp among
      exact ⟨definition, isIn, type, binding?_eq_some_iff.mp isBinding⟩
  · rintro ⟨definition, isIn, type, binds⟩
    refine Or.inr (List.mem_map.mpr ⟨(className, type), ?_, rfl⟩)
    exact List.mem_filterMap.mpr ⟨definition, isIn, binding?_eq_some_iff.mpr binds⟩

theorem classesOf_append (first second : List Definition) :
    classesOf (first ++ second) = Keyed.override (classesOf first) (classesOf second) := by
  rw [classesOf, bindings_eq_filterMap, List.filterMap_append, Keyed.ofEntries_append,
    ← bindings_eq_filterMap, ← bindings_eq_filterMap]
  rfl

theorem sorted_classesOf (definitions : List Definition) : (classesOf definitions).Sorted :=
  Keyed.sorted_ofEntries _

/-- The classes of definitions are those that object types and their extensions are bound to,
each with the last type that is bound to it.  The classes of definitions that follow others
override theirs: a class has its type from the latter if it is one of these, and else that
from the former. -/
theorem class_of_last_bound_type :
    (∀ (definitions : List Definition) (className : String),
      (className ∈ (classesOf definitions).keys ↔
        ∃ definition ∈ definitions, ∃ type, Binds definition className type) ∧
      ∀ type, (classesOf definitions).lookup className = some type ↔
        ∃ front definition behind, definitions = front ++ definition :: behind ∧
          Binds definition className type ∧
          ∀ later ∈ behind, ∀ other, ¬ Binds later className other) ∧
    ∀ first second : List Definition,
      classesOf (first ++ second) = Keyed.override (classesOf first) (classesOf second) ∧
      ∀ className, (classesOf (first ++ second)).lookup className =
        ((classesOf second).lookup className).or ((classesOf first).lookup className) := by
  refine ⟨fun definitions className => ⟨mem_keys_classesOf_iff, fun type =>
    lookup_classesOf_eq_some_iff⟩, fun first second => ⟨classesOf_append first second,
    fun className => ?_⟩⟩
  rw [classesOf_append, Keyed.lookup_override_of_sorted _ (sorted_classesOf second)]

end EntityMapping.Files
