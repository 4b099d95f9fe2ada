import Mathlib
import EntityMapping.Text.Casing

/-!
# Characters with ASCII capitals

Which texts have an upper case that consists of ASCII letters.  Besides the ASCII letters there
are a few other characters whose upper case does; every further character brings one that is
no ASCII character.  Main statement: the upper case of a text is a given one in ASCII capitals
if the text, with these few characters written out, differs from it in case only.
-/

namespace EntityMapping.Text

/-- The characters outside ASCII whose upper case consists of ASCII letters, and the small
letters that they stand for: the sharp, the long and the dotless letters, and ligatures. -/
def letterForms : List (Char × List Char) :=
  [('ß', ['s', 's']), ('ı', ['i']), ('ſ', ['s']), ('ﬀ', ['f', 'f']), ('ﬁ', ['f', 'i']),
   ('ﬂ', ['f', 'l']), ('ﬃ', ['f', 'f', 'i']), ('ﬄ', ['f', 'f', 'l']), ('ﬅ', ['s', 't']),
   ('ﬆ', ['s', 't'])]

/-- The letters that a character stands for. -/
def letters (c : Char) : List Char :=
  (letterForms.lookup c).getD [c]

/-- A text with such characters written out in ASCII letters. -/
def writtenOut (text : String) : String :=
  String.ofList (text.toList.flatMap letters)

/-! ## The upper case of one character -/

theorem upperChar_of_ascii {c : Char} (ascii : c.toNat < 128) : upperChar c = [c.toUpper] := by
  have each : ∀ code < 128, upperChar (Char.ofNat code) = [(Char.ofNat code).toUpper] := by
    decide +kernel
  simpa using each c.toNat ascii

theorem letters_of_ascii {c : Char} (ascii : c.toNat < 128) : letters c = [c] := by
  have each : ∀ code < 128, letters (Char.ofNat code) = [Char.ofNat code] := by
    decide +kernel
  simpa using each c.toNat ascii

theorem upperChar_letterForms :
    ∀ form ∈ letterForms, upperChar form.1 = form.2.map Char.toUpper := by
  decide +kernel

/-- A run that does not belong to ASCII or to a letter form stays outside ASCII. -/
theorem upperRuns_beyond :
    ∀ run ∈ upperRuns, run.last < 128 ∨
      (run.first = run.last ∧ ∃ form ∈ letterForms, form.1.toNat = run.first) ∨
      (128 ≤ run.first + run.distance ∧
        (run.last + run.distance < 0xd800 ∨
          0xdfff < run.first + run.distance ∧ run.last + run.distance < 0x110000)) := by
  decide +kernel

/-- An expansion that does not belong to a letter form leads outside ASCII. -/
theorem upperExpansions_beyond :
    ∀ expansion ∈ upperExpansions,
      (∃ form ∈ letterForms, form.1.toNat = expansion.1) ∨
        ∃ code ∈ expansion.2, 128 ≤ code ∧ code < 0xd800 := by
  decide +kernel

theorem toNat_ofNat_of_valid {code : Nat} (valid : code.isValidChar) :
    (Char.ofNat code).toNat = code := by
  rw [Char.ofNat, dif_pos valid]
  rfl

/-- A character that is not of ASCII and no letter form keeps a character outside ASCII. -/
theorem exists_mem_upperChar_beyond {c : Char} (beyond : 128 ≤ c.toNat)
    (other : ∀ form ∈ letterForms, form.1 ≠ c) : ∃ d ∈ upperChar c, 128 ≤ d.toNat := by
  have noForm : ¬ ∃ form ∈ letterForms, form.1.toNat = c.toNat := by
    rintro ⟨form, member, same⟩
    exact other form member (Char.toNat_inj.mp same)
  unfold upperChar
  split
  · rename_i codes found
    obtain ⟨front, behind, split, -⟩ := List.lookup_eq_some_iff.mp found
    have member : (c.toNat, codes) ∈ upperExpansions := by
      rw [split]
      exact List.mem_append_right front List.mem_cons_self
    rcases upperExpansions_beyond _ member with isForm | ⟨code, among, low, high⟩
    · exact absurd isForm noForm
    · refine ⟨Char.ofNat code, List.mem_map_of_mem among, ?_⟩
      rw [toNat_ofNat_of_valid (Or.inl high)]
      exact low
  · refine ⟨_, List.mem_singleton_self _, ?_⟩
    unfold Run.image
    split
    · rename_i run covered
      have covers := List.find?_some covered
      simp only [Run.covers, Bool.and_eq_true, decide_eq_true_eq] at covers
      obtain ⟨⟨notBefore, notBehind⟩, -⟩ := covers
      rcases upperRuns_beyond run (List.mem_of_find?_eq_some covered) with
        inAscii | ⟨single, isForm⟩ | ⟨low, valid⟩
      · omega
      · rw [show run.first = c.toNat by omega] at isForm
        exact absurd isForm noForm
      · rw [toNat_ofNat_of_valid]
        · omega
        · rcases valid with valid | valid
          · exact Or.inl (by omega)
          · exact Or.inr (by omega)
    · rw [Char.ofNat_toNat]
      exact beyond

theorem letters_of_letterForm {form : Char × List Char} (member : form ∈ letterForms) :
    letters form.1 = form.2 := by
  have each : ∀ form ∈ letterForms, letters form.1 = form.2 := by decide
  exact each form member

theorem letters_of_other {c : Char} (other : ∀ form ∈ letterForms, form.1 ≠ c) :
    letters c = [c] := by
  have absent : letterForms.lookup c = none :=
    List.lookup_eq_none_iff.mpr fun form member => bne_iff_ne.mpr (other form member).symm
  rw [letters, absent, Option.getD_none]

/-- The upper case of a character is that of the letters that it stands for, or else the
character and its upper case are not of ASCII. -/
theorem upperChar_cases (c : Char) :
    upperChar c = (letters c).map Char.toUpper ∨
      (∃ d ∈ upperChar c, 128 ≤ d.toNat) ∧ ∃ d ∈ (letters c).map Char.toUpper, 128 ≤ d.toNat := by
  by_cases ascii : c.toNat < 128
  · rw [upperChar_of_ascii ascii, letters_of_ascii ascii]
    exact Or.inl rfl
  · by_cases isForm : ∃ form ∈ letterForms, form.1 = c
    · obtain ⟨form, member, rfl⟩ := isForm
      rw [letters_of_letterForm member]
      exact Or.inl (upperChar_letterForms form member)
    · have beyond : 128 ≤ c.toNat := Nat.le_of_not_lt ascii
      have other : ∀ form ∈ letterForms, form.1 ≠ c := fun form member same =>
        isForm ⟨form, member, same⟩
      refine Or.inr ⟨exists_mem_upperChar_beyond beyond other, c, ?_, beyond⟩
      have notLower : ¬ c.isLower = true := by
        intro lower
        have notBehind : c.toNat ≤ 'z'.toNat :=
          of_decide_eq_true (Bool.and_eq_true_iff.mp lower).2
        exact ascii (Nat.lt_of_le_of_lt notBehind (by decide))
      rw [letters_of_other other, List.map_singleton, Char.toUpper_eq_of_not_isLower notLower]
      exact List.mem_singleton_self c

/-! ## The upper case of a text -/

/-- A text in ASCII capitals is the upper case of those that are written out in its letters. -/
theorem flatMap_upperChar_eq_iff {chars capitals : List Char}
    (ascii : ∀ c ∈ capitals, c.toNat < 128) :
    chars.flatMap upperChar = capitals ↔
      (chars.flatMap letters).map Char.toUpper = capitals := by
  rw [List.map_flatMap]
  by_cases plain : ∀ c ∈ chars, upperChar c = (letters c).map Char.toUpper
  · rw [List.flatMap_congr plain]
  · obtain ⟨c, member, notPlain⟩ : ∃ c ∈ chars, upperChar c ≠ (letters c).map Char.toUpper := by
      simpa using plain
    obtain ⟨⟨upper, ofUpper, beyondUpper⟩, letter, ofLetters, beyondLetter⟩ :=
      (upperChar_cases c).resolve_left notPlain
    constructor
    · rintro rfl
      have among := List.mem_flatMap.mpr ⟨c, member, ofUpper⟩
      exact absurd (ascii upper among) (Nat.not_lt.mpr beyondUpper)
    · rintro rfl
      have among : letter ∈ chars.flatMap fun c => (letters c).map Char.toUpper :=
        List.mem_flatMap.mpr ⟨c, member, ofLetters⟩
      exact absurd (ascii letter among) (Nat.not_lt.mpr beyondLetter)

/-- The characters of a text are of ASCII, and no small letters. -/
def AsciiCapitals (text : String) : Prop :=
  ∀ c ∈ text.toList, c.toNat < 128 ∧ c.isLower = false

instance (text : String) : Decidable (AsciiCapitals text) :=
  List.decidableBAll _ text.toList

theorem AsciiCapitals.toUpper_eq {text : String} (capitals : AsciiCapitals text) :
    ∀ c ∈ text.toList, c.toUpper = c :=
  fun c member => Char.toUpper_eq_of_not_isLower (Bool.eq_false_iff.mp (capitals c member).2)

/-- Texts are equal up to case if their capitals are. -/
theorem map_toLower_eq_iff {left right : List Char} (capitals : ∀ c ∈ right, c.toUpper = c) :
    left.map Char.toLower = right.map Char.toLower ↔ left.map Char.toUpper = right := by
  have raised : right.map Char.toUpper = right := by
    rw [List.map_congr_left capitals, List.map_id']
  constructor
  · intro same
    have capitalized := congrArg (List.map Char.toUpper) same
    simpa [Function.comp_def, raised] using capitalized
  · intro same
    rw [← same]
    simp [Function.comp_def]

end EntityMapping.Text
