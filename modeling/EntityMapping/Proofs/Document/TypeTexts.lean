import EntityMapping.Proofs.Document.LongestMatch
import EntityMapping.Proofs.Document.DocumentReader
import EntityMapping.Proofs.Document.CanonicalSpelling

/-!
# Texts of type references

A type reference is shown with brackets around what it lists and a mark behind what is never
null.  The text is cut into just these tokens, whatever stands behind it unless it goes on with
the name, and its ends tell what kind of reference it is.
-/

namespace EntityMapping.Document

open EntityMapping.Source
open EntityMapping.Text

/-! ## Names -/

section Names

variable {c : Char} {name tail rest : List Char}

/-- A name at the front of a text ends where the text does not go on with it. -/
theorem first_of_nameText (isName : c :: tail ∈ TokenPattern.nameText)
    (apart : ∀ d ∈ rest.head?, isNameChar d = false) :
    Piece.first c (tail ++ rest) = ⟨some (.name (String.ofList (c :: tail))), c :: tail, rest⟩ := by
  obtain ⟨isStart, areOthers⟩ := TokenPattern.cons_mem_nameText_iff.mp isName
  have stops : rest.takeWhile isNameChar = [] ∧ rest.dropWhile isNameChar = rest := by
    cases rest with
    | nil => exact ⟨rfl, rfl⟩
    | cons d rest =>
        have ends : ¬ isNameChar d = true := Bool.eq_false_iff.mp (apart d rfl)
        exact ⟨List.takeWhile_cons_of_neg ends, List.dropWhile_cons_of_neg ends⟩
  rw [Piece.first, if_pos isStart, Piece.name, List.takeWhile_append_of_pos areOthers,
    List.dropWhile_append_of_pos areOthers, stops.1, stops.2, List.append_nil]

theorem isNameChar_of_mem_nameText {text : List Char} (isName : text ∈ TokenPattern.nameText) :
    ∀ d ∈ text, isNameChar d = true := by
  obtain ⟨c, tail, rfl, -⟩ := TokenPattern.begins_family .name _ isName
  obtain ⟨isStart, areOthers⟩ := TokenPattern.cons_mem_nameText_iff.mp isName
  have goesOn : isNameChar c = true := by rw [isNameChar, isStart, Bool.true_or]
  exact List.forall_mem_cons.mpr ⟨goesOn, areOthers⟩

/-- No name at the end of a text goes on into the text behind it. -/
def Apart (text behind : List Char) : Prop :=
  ∀ last ∈ text.getLast?, isNameChar last = true → ∀ c ∈ behind.head?, isNameChar c = false

theorem apart_cons (stops : isNameChar c = false) (text behind : List Char) :
    Apart text (c :: behind) := by
  rintro _ _ _ _ ⟨⟩
  exact stops

theorem Apart.not_isNameChar {text behind : List Char} (apart : Apart text behind)
    (isName : text ∈ TokenPattern.nameText) : ∀ c ∈ behind.head?, isNameChar c = false := by
  obtain ⟨first, others, rfl, -⟩ := TokenPattern.begins_family .name _ isName
  have isLast := List.getLast?_eq_some_getLast (List.cons_ne_nil first others)
  exact apart _ isLast (isNameChar_of_mem_nameText isName _ (List.mem_of_getLast? isLast))

/-- A match yields a name only by being one. -/
theorem name_mem_of_yields {pattern : TokenPattern} {start : Nat} {matched behind : List Char}
    {name : String} {span : Span} (isMatch : matched ∈ pattern.language)
    (yields : pattern.Yields start matched behind (.lexeme ⟨.name name, span⟩)) :
    name.toList ∈ TokenPattern.nameText := by
  cases yields with
  | token accepts =>
      cases accepts with
      | name =>
          rw [String.toList_ofList]
          exact isMatch

theorem name_mem_of_first {name : String} {text : List Char}
    (first : Piece.first c tail = ⟨some (.name name), text, rest⟩) :
    name.toList ∈ TokenPattern.nameText := by
  have decides := TokenPattern.decides_first c tail
  rw [first] at decides
  rcases decides with ⟨pattern, matched, behind, -, wins, yields⟩ | ⟨-, noToken⟩
  · exact name_mem_of_yields wins.isMatch.1 (yields 0)
  · cases noToken

/-- The names among the tokens of a text are texts that a name can have. -/
theorem Cuts.name_mem {offset : Nat} {text : List Char} {lexemes : List Lexeme}
    (cuts : Cuts offset text lexemes) {name : String} {span : Span}
    (member : ⟨.name name, span⟩ ∈ lexemes) : name.toList ∈ TokenPattern.nameText := by
  induction cuts with
  | nil whole => cases member
  | cons split first isStart isStop behind ih =>
      rcases List.mem_cons.mp member with same | later
      · cases same
        exact name_mem_of_first first
      · exact ih later

end Names

namespace TypeRef

/-! ## Tokens of the text -/

/-- The name inside of a reference is one that tokens can have. -/
def Named (type : TypeRef) : Prop :=
  type.baseName.toList ∈ TokenPattern.nameText

theorem toList_text_list (item : TypeRef) :
    (list item).text.toList = '[' :: (item.text.toList ++ [']']) := by
  rw [text, String.toList_append, String.toList_append]
  rfl

theorem toList_text_nonNull (inner : TypeRef) :
    (nonNull inner).text.toList = inner.text.toList ++ ['!'] := by
  rw [text, String.toList_append]
  rfl

section Cutting

variable {offset : Nat} {behind : List Char} {others : List Lexeme}

/-- A punctuator of one character is cut off whatever stands behind it. -/
theorem cuts_punct {c : Char} {punctuator : Punctuator}
    (known : Punctuator.ofChar? c = some punctuator)
    (further : Cuts (offset + byteWidth [c]) behind others) :
    ∃ lexeme, lexeme.token = .punct punctuator ∧ Cuts offset (c :: behind) (lexeme :: others) :=
  ⟨_, rfl, @Cuts.token offset c [] behind _ others (beginsGap_of_ofChar? known)
    (Piece.first_of_ofChar? known behind) further⟩

/-- The text of a reference is cut into its canonical tokens, and what stands behind it is cut
as before. -/
theorem cuts_text {type : TypeRef} (named : type.Named) (apart : Apart type.text.toList behind)
    (further : Cuts (offset + byteWidth type.text.toList) behind others) :
    ∃ own, own.map Lexeme.token = type.tokens ∧
      Cuts offset (type.text.toList ++ behind) (own ++ others) := by
  induction type generalizing offset behind others with
  | named name =>
      have isName : name.toList ∈ TokenPattern.nameText := named
      have isText : (TypeRef.named name).text = name := rfl
      obtain ⟨c, tail, isCons, -⟩ := TokenPattern.begins_family .name _ isName
      rw [isCons] at isName
      rw [isText, isCons] at apart further ⊢
      have isValue : String.ofList (c :: tail) = name := by
        rw [← isCons, String.ofList_toList]
      have isFirst := first_of_nameText isName (apart.not_isNameChar isName)
      rw [isValue] at isFirst
      have goesOn := isNameChar_of_mem_nameText isName c List.mem_cons_self
      exact ⟨[_], rfl, Cuts.token (beginsGap_of_isNameChar goesOn) isFirst further⟩
  | list item ih =>
      have isText : (list item).text.toList ++ behind =
          '[' :: (item.text.toList ++ ']' :: behind) := by
        simp [toList_text_list]
      rw [toList_text_list, ← List.singleton_append, byteWidth_append, byteWidth_append,
        ← Nat.add_assoc, ← Nat.add_assoc] at further
      obtain ⟨close, isClose, closing⟩ := cuts_punct (c := ']') rfl further
      obtain ⟨own, areTokens, cuts⟩ := ih named (apart_cons (by decide) _ _) closing
      obtain ⟨start, isStart, opening⟩ := cuts_punct (c := '[') rfl cuts
      rw [isText]
      refine ⟨start :: (own ++ [close]), ?_, ?_⟩
      · simp [isStart, areTokens, isClose, tokens]
      · simpa using opening
  | nonNull inner ih =>
      have isText : (nonNull inner).text.toList ++ behind = inner.text.toList ++ '!' :: behind := by
        simp [toList_text_nonNull]
      rw [toList_text_nonNull, byteWidth_append, ← Nat.add_assoc] at further
      obtain ⟨mark, isMark, marking⟩ := cuts_punct (c := '!') rfl further
      obtain ⟨own, areTokens, cuts⟩ := ih named (apart_cons (by decide) _ _) marking
      rw [isText]
      refine ⟨own ++ [mark], ?_, ?_⟩
      · simp [areTokens, isMark, tokens]
      · simpa using cuts

end Cutting

/-- The text of a well-formed reference is read as the reference. -/
theorem read_text {type : TypeRef} (wellFormed : type.WellFormed) (named : type.Named) :
    ∃ used, lexemes type.text = .ok used ∧ ∀ last, ∃ reading,
      Cursor.typeRef ⟨used, last⟩ = .ok reading ∧ reading.value = type ∧
        reading.next.rest = [] := by
  have nothing : Cuts (0 + byteWidth type.text.toList) [] [] := .nil rfl
  obtain ⟨used, areTokens, cuts⟩ :=
    cuts_text named (fun _ _ _ _ isFirst => absurd isFirst (Option.not_mem_none _)) nothing
  rw [List.append_nil, List.append_nil] at cuts
  have spelled := wellFormed.spells used areTokens
  refine ⟨used, lexemes_eq_ok_iff.mpr cuts, fun last => ?_⟩
  have moved : Cursor.Advances ⟨used, last⟩ type.spelling ⟨[], lastSpan last used⟩ :=
    ⟨used, spelled, (List.append_nil used).symm, rfl⟩
  obtain ⟨shorter, isRead⟩ := Cursor.typeRef_complete moved
    (fun _ isFirst => absurd isFirst (Option.not_mem_none _))
  exact ⟨_, isRead, rfl, rfl⟩

/-! ## Ends of the text -/

section Ends

variable {type : TypeRef} (named : type.Named)
include named

theorem text_ne_nil : type.text.toList ≠ [] := by
  cases type with
  | named name =>
      obtain ⟨c, tail, isCons, -⟩ := TokenPattern.begins_family .name _ named
      exact isCons ▸ List.cons_ne_nil c tail
  | list item =>
      rw [toList_text_list]
      exact List.cons_ne_nil _ _
  | nonNull inner =>
      rw [toList_text_nonNull]
      exact List.append_ne_nil_of_right_ne_nil _ (List.cons_ne_nil _ _)

/-- The text ends with a mark just if the reference is never null. -/
theorem isNonNull_iff : type.isNonNull = true ↔ type.text.toList.getLast? = some '!' := by
  cases type with
  | named name =>
      have notMark : name.toList.getLast? ≠ some '!' := fun isLast =>
        absurd (isNameChar_of_mem_nameText named '!' (List.mem_of_getLast? isLast)) (by decide)
      exact iff_of_false Bool.false_ne_true notMark
  | list item =>
      rw [toList_text_list, ← List.cons_append, List.getLast?_concat]
      exact iff_of_false Bool.false_ne_true (by decide)
  | nonNull inner =>
      rw [toList_text_nonNull, List.getLast?_concat]
      exact iff_of_true rfl rfl

/-- The text begins with a bracket just if the reference is a list. -/
theorem isList_iff : type.isList = true ↔ type.text.toList.head? = some '[' := by
  induction type with
  | named name =>
      have notBracket : name.toList.head? ≠ some '[' := fun isFirst =>
        absurd (isNameChar_of_mem_nameText named '[' (List.mem_of_head? isFirst)) (by decide)
      exact iff_of_false Bool.false_ne_true notBracket
  | list item ih =>
      rw [toList_text_list]
      exact iff_of_true rfl rfl
  | nonNull inner ih =>
      rw [toList_text_nonNull, List.head?_append_of_ne_nil _ (@text_ne_nil inner named)]
      exact ih named

/-- Without brackets and marks the text is the name inside. -/
theorem toList_baseName :
    type.baseName.toList = type.text.toList.filter fun c => c ∉ ['[', ']', '!'] := by
  induction type with
  | named name =>
      have plain : ∀ c ∈ name.toList, decide (c ∉ ['[', ']', '!']) = true := by
        intro c member
        have goesOn := isNameChar_of_mem_nameText named c member
        refine decide_eq_true fun decorates => ?_
        have others : ['[', ']', '!'].all (isNameChar · = false) = true := by decide
        have stops := List.all_eq_true.mp others c decorates
        cases goesOn.symm.trans (of_decide_eq_true stops)
      exact (List.filter_eq_self.mpr plain).symm
  | list item ih =>
      rw [toList_text_list, List.filter_cons_of_neg (by decide), List.filter_append, ← ih named]
      exact (List.append_nil _).symm
  | nonNull inner ih =>
      rw [toList_text_nonNull, List.filter_append, ← ih named]
      exact (List.append_nil _).symm

end Ends

end TypeRef

end EntityMapping.Document
