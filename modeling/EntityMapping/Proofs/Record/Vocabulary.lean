import EntityMapping.Proofs.Text.Capitals
import EntityMapping.Record.MappedField

/-!
# Which texts denote a value

The values of a vocabulary are written in ASCII capitals and read by their upper case.  Main
statement: a text denotes a value if it differs from the written form in the case of ASCII
letters only, once the few characters whose upper case consists of such letters are written out.
-/

namespace EntityMapping.Record

open EntityMapping.Text
open Association (equalIgnoringCase)

theorem upperCase_eq_iff {written capitals : String} (ascii : AsciiCapitals capitals) :
    upperCase written = capitals ↔ equalIgnoringCase (writtenOut written) capitals = true := by
  have lists : upperCase written = capitals ↔
      written.toList.flatMap upperChar = capitals.toList := by
    rw [← String.toList_inj, upperCase, String.toList_ofList]
  have equal : equalIgnoringCase (writtenOut written) capitals = true ↔
      (written.toList.flatMap letters).map Char.toLower = capitals.toList.map Char.toLower := by
    rw [equalIgnoringCase, beq_iff_eq, ← String.toList_inj, String.toList_map, String.toList_map,
      writtenOut, String.toList_ofList]
  rw [lists, equal, map_toLower_eq_iff ascii.toUpper_eq]
  exact flatMap_upperChar_eq_iff fun c member => (ascii c member).1

namespace Vocabulary

variable {α : Type} [Vocabulary α]

/-- A vocabulary that lists all its values, with distinct written forms in ASCII capitals. -/
structure Lawful (α : Type) [Vocabulary α] : Prop where
  complete : ∀ value : α, value ∈ (all : List α)
  distinct : ((all : List α).map text).Nodup
  capitals : ∀ value ∈ (all : List α), AsciiCapitals (text value)

theorem lawful_cacheUsage : Lawful CacheUsage where
  complete value := by cases value <;> decide
  distinct := by decide
  capitals := by decide

theorem lawful_inheritance : Lawful Inheritance where
  complete value := by cases value <;> decide
  distinct := by decide
  capitals := by decide

theorem lawful_changeTracking : Lawful ChangeTracking where
  complete value := by cases value <;> decide
  distinct := by decide
  capitals := by decide

theorem lawful_idGenerator : Lawful IdGenerator where
  complete value := by cases value <;> decide
  distinct := by decide
  capitals := by decide

theorem lawful_fetchMode : Lawful FetchMode where
  complete value := by cases value <;> decide
  distinct := by decide
  capitals := by decide

theorem lawful_direction : Lawful Direction where
  complete value := by cases value <;> decide
  distinct := by decide
  capitals := by decide

/-- A text is read as the value whose written form is its upper case. -/
theorem read?_eq_some_iff_upperCase (lawful : Lawful α) {written : String} {value : α} :
    read? written = some value ↔ upperCase written = text value := by
  refine ⟨upperCase_eq_of_read?, fun same => ?_⟩
  cases found : (read? written : Option α) with
  | none =>
      have absent := List.find?_eq_none.mp found value (lawful.complete value)
      exact absurd (beq_iff_eq.mpr same.symm) absent
  | some other =>
      have sameText : text other = text value :=
        (upperCase_eq_of_read? found).symm.trans same
      exact congrArg some (List.inj_on_of_nodup_map lawful.distinct (lawful.complete other)
        (lawful.complete value) sameText)

/-- A text denotes the value from whose written form it differs in case only, once written
out. -/
def ReadsWrittenOut (α : Type) [Vocabulary α] : Prop :=
  ∀ (written : String) (value : α), read? written = some value ↔
    equalIgnoringCase (writtenOut written) (text value) = true

theorem Lawful.readsWrittenOut (lawful : Lawful α) : ReadsWrittenOut α := by
  intro written value
  rw [read?_eq_some_iff_upperCase lawful]
  exact upperCase_eq_iff (lawful.capitals value (lawful.complete value))

/-- In every vocabulary the texts of a value are those that differ from its written form in the
case of ASCII letters, once the characters with such capitals are written out. -/
theorem vocabularies_ignore_case :
    ReadsWrittenOut CacheUsage ∧ ReadsWrittenOut Inheritance ∧ ReadsWrittenOut ChangeTracking ∧
      ReadsWrittenOut IdGenerator ∧ ReadsWrittenOut FetchMode ∧ ReadsWrittenOut Direction :=
  ⟨lawful_cacheUsage.readsWrittenOut, lawful_inheritance.readsWrittenOut,
    lawful_changeTracking.readsWrittenOut, lawful_idGenerator.readsWrittenOut,
    lawful_fetchMode.readsWrittenOut, lawful_direction.readsWrittenOut⟩

/-- A sharp letter is read as two capitals, though it is not one of them in another case. -/
theorem sharpLetter_is_read :
    ¬ (read? "table_per_claß" = some Inheritance.tablePerClass ↔
      equalIgnoringCase "table_per_claß" (text Inheritance.tablePerClass) = true) := by
  decide +kernel

end Vocabulary

end EntityMapping.Record
