import EntityMapping.Proofs.Document.Readers
import EntityMapping.Proofs.Document.Placement

/-!
# Readers look at tokens only

What a reader returns depends on the tokens in front of it, not on where they stand:
in front of the same tokens, two runs of a reader find the same but for spans, or fail
for the same cause.
-/

namespace EntityMapping.Document

open EntityMapping.Source

/-- Lexemes with the same tokens, wherever they stand. -/
inductive SameTokens : List Lexeme → List Lexeme → Prop
  | nil : SameTokens [] []
  | cons (token : Token) (left right : Span) {lefts rights : List Lexeme}
      (behind : SameTokens lefts rights) :
      SameTokens (⟨token, left⟩ :: lefts) (⟨token, right⟩ :: rights)

theorem sameTokens_of_map_eq {lefts rights : List Lexeme}
    (same : lefts.map Lexeme.token = rights.map Lexeme.token) : SameTokens lefts rights := by
  induction lefts generalizing rights with
  | nil =>
      cases rights with
      | nil => exact .nil
      | cons right rights => cases same
  | cons left lefts ih =>
      cases rights with
      | nil => cases same
      | cons right rights =>
          obtain ⟨token, leftSpan⟩ := left
          obtain ⟨rightToken, rightSpan⟩ := right
          obtain ⟨isToken, behind⟩ := List.cons.inj same
          cases isToken
          exact .cons token leftSpan rightSpan (ih behind)

/-- Two results that agree: the values are related, or the causes of the errors are the
same. -/
inductive Agree {α β : Type} (related : α → β → Prop) :
    Except SyntaxError α → Except SyntaxError β → Prop
  | ok {left : α} {right : β} (holds : related left right) :
      Agree related (.ok left) (.ok right)
  | error {left right : SyntaxError} (sameCause : left.cause = right.cause) :
      Agree related (.error left) (.error right)

namespace Agree

variable {α β γ δ : Type} {related : α → β → Prop} {next : γ → δ → Prop}
  {left : Except SyntaxError α} {right : Except SyntaxError β}

theorem bind {goLeft : α → Except SyntaxError γ} {goRight : β → Except SyntaxError δ}
    (agree : Agree related left right)
    (go : ∀ leftValue rightValue, related leftValue rightValue →
      Agree next (goLeft leftValue) (goRight rightValue)) :
    Agree next (left >>= goLeft) (right >>= goRight) := by
  cases agree with
  | ok holds => exact go _ _ holds
  | error sameCause => exact .error sameCause

theorem map {f : α → γ} {g : β → δ} (agree : Agree related left right)
    (go : ∀ leftValue rightValue, related leftValue rightValue →
      next (f leftValue) (g rightValue)) :
    Agree next (left.map f) (right.map g) := by
  cases agree with
  | ok holds => exact .ok (go _ _ holds)
  | error sameCause => exact .error sameCause

end Agree

/-- Two cursors in front of the same tokens. -/
def Cursor.Alike (left right : Cursor) : Prop :=
  SameTokens left.rest right.rest

/-- Two readings that end in front of the same tokens, with values that are the same once
`strip` has taken the spans away. -/
structure Reading.Alike {α β : Type} (strip : α → β) {before beforeOther : Cursor}
    (left : Reading α before) (right : Reading α beforeOther) : Prop where
  value : strip left.value = strip right.value
  next : left.next.Alike right.next

/-- Two passings that end in front of the same tokens, with values that are the same once
`strip` has taken the spans away. -/
structure Passing.Alike {α β : Type} (strip : α → β) {before beforeOther : Cursor}
    (left : Passing α before) (right : Passing α beforeOther) : Prop where
  value : strip left.value = strip right.value
  next : left.next.Alike right.next

namespace Cursor

variable {left right : Cursor}

/-- A reader finds the same, but for what `strip` takes away, in front of the same
tokens. -/
def ReadsAlike {α β : Type} (read : (cursor : Cursor) → Reads α cursor) (strip : α → β) :
    Prop :=
  ∀ {left right : Cursor}, left.Alike right → Agree (Reading.Alike strip) (read left) (read right)

/-- An optional reader finds the same, but for what `strip` takes away, in front of the
same tokens. -/
def PassesAlike {α β : Type} (pass : (cursor : Cursor) → Passes α cursor) (strip : α → β) :
    Prop :=
  ∀ {left right : Cursor}, left.Alike right → Agree (Passing.Alike strip) (pass left) (pass right)

theorem Alike.next? (alike : left.Alike right) : left.next? = right.next? := by
  obtain ⟨leftRest, leftLast⟩ := left
  obtain ⟨rightRest, rightLast⟩ := right
  cases alike with
  | nil => rfl
  | cons token leftSpan rightSpan behind => rfl

theorem Alike.wants (alike : left.Alike right) (wanted : Expectation) :
    (left.wants wanted).cause = (right.wants wanted).cause :=
  congrArg (SyntaxCause.unexpected wanted) alike.next?

/-! ## Words and punctuators -/

theorem name_alike : ReadsAlike name id := by
  rintro ⟨leftRest, leftLast⟩ ⟨rightRest, rightLast⟩ alike
  cases alike with
  | nil => exact .error rfl
  | cons token leftSpan rightSpan behind =>
      cases token with
      | name value => exact .ok ⟨rfl, behind⟩
      | punct _ => exact .error rfl
      | int _ => exact .error rfl
      | float _ => exact .error rfl
      | string _ => exact .error rfl
      | blockString _ => exact .error rfl

theorem punct?_alike (wanted : Punctuator) (alike : left.Alike right) :
    (left.punct? wanted = none ∧ right.punct? wanted = none) ∨
      ∃ leftMark rightMark, left.punct? wanted = some leftMark ∧
        right.punct? wanted = some rightMark ∧ leftMark.next.Alike rightMark.next := by
  obtain ⟨leftRest, leftLast⟩ := left
  obtain ⟨rightRest, rightLast⟩ := right
  cases alike with
  | nil => exact Or.inl ⟨rfl, rfl⟩
  | cons token leftSpan rightSpan behind =>
      cases token with
      | punct found =>
          by_cases same : found = wanted
          · exact Or.inr ⟨_, _, if_pos same, if_pos same, behind⟩
          · exact Or.inl ⟨if_neg same, if_neg same⟩
      | name _ => exact Or.inl ⟨rfl, rfl⟩
      | int _ => exact Or.inl ⟨rfl, rfl⟩
      | float _ => exact Or.inl ⟨rfl, rfl⟩
      | string _ => exact Or.inl ⟨rfl, rfl⟩
      | blockString _ => exact Or.inl ⟨rfl, rfl⟩

theorem punct?_eq_none_of_alike {wanted : Punctuator} (alike : left.Alike right)
    (absent : left.punct? wanted = none) : right.punct? wanted = none := by
  rcases punct?_alike wanted alike with ⟨-, rightNone⟩ | ⟨leftMark, rightMark, found, -⟩
  · exact rightNone
  · rw [absent] at found
    cases found

theorem punct?_eq_some_of_alike {wanted : Punctuator} {leftMark : Reading Unit left}
    (alike : left.Alike right) (found : left.punct? wanted = some leftMark) :
    ∃ rightMark, right.punct? wanted = some rightMark ∧ leftMark.next.Alike rightMark.next := by
  rcases punct?_alike wanted alike with
    ⟨leftNone, -⟩ | ⟨leftMark', rightMark, leftFound, rightFound, behind⟩
  · rw [leftNone] at found
    cases found
  · cases leftFound.symm.trans found
    exact ⟨rightMark, rightFound, behind⟩

theorem word?_alike (wanted : String) (alike : left.Alike right) :
    (left.word? wanted = none ∧ right.word? wanted = none) ∨
      ∃ leftWord rightWord, left.word? wanted = some leftWord ∧
        right.word? wanted = some rightWord ∧ leftWord.next.Alike rightWord.next := by
  obtain ⟨leftRest, leftLast⟩ := left
  obtain ⟨rightRest, rightLast⟩ := right
  cases alike with
  | nil => exact Or.inl ⟨rfl, rfl⟩
  | cons token leftSpan rightSpan behind =>
      cases token with
      | name found =>
          by_cases same : found = wanted
          · exact Or.inr ⟨_, _, if_pos same, if_pos same, behind⟩
          · exact Or.inl ⟨if_neg same, if_neg same⟩
      | punct _ => exact Or.inl ⟨rfl, rfl⟩
      | int _ => exact Or.inl ⟨rfl, rfl⟩
      | float _ => exact Or.inl ⟨rfl, rfl⟩
      | string _ => exact Or.inl ⟨rfl, rfl⟩
      | blockString _ => exact Or.inl ⟨rfl, rfl⟩

theorem punct_alike (wanted : Punctuator) (expectation : Expectation) :
    ReadsAlike (punct wanted expectation) id := by
  rintro ⟨leftRest, leftLast⟩ ⟨rightRest, rightLast⟩ alike
  cases alike with
  | nil => exact .error rfl
  | cons token leftSpan rightSpan behind =>
      cases token with
      | punct found =>
          by_cases same : found = wanted
          · simp only [punct, if_pos same]
            exact .ok ⟨rfl, behind⟩
          · simp only [punct, if_neg same]
            exact .error rfl
      | name _ => exact .error rfl
      | int _ => exact .error rfl
      | float _ => exact .error rfl
      | string _ => exact .error rfl
      | blockString _ => exact .error rfl

theorem skipPunct_alike (wanted : Punctuator) (alike : left.Alike right) :
    Passing.Alike id (left.skipPunct wanted) (right.skipPunct wanted) := by
  unfold skipPunct
  rcases punct?_alike wanted alike with
    ⟨leftNone, rightNone⟩ | ⟨leftMark, rightMark, leftFound, rightFound, behind⟩
  · rw [leftNone, rightNone]
    exact ⟨rfl, alike⟩
  · rw [leftFound, rightFound]
    exact ⟨rfl, behind⟩

theorem skipWord_alike (wanted : String) (alike : left.Alike right) :
    Passing.Alike id (left.skipWord wanted) (right.skipWord wanted) := by
  unfold skipWord
  rcases word?_alike wanted alike with
    ⟨leftNone, rightNone⟩ | ⟨leftWord, rightWord, leftFound, rightFound, behind⟩
  · rw [leftNone, rightNone]
    exact ⟨rfl, alike⟩
  · rw [leftFound, rightFound]
    exact ⟨rfl, behind⟩

theorem description_alike (alike : left.Alike right) :
    Passing.Alike id left.description right.description := by
  obtain ⟨leftRest, leftLast⟩ := left
  obtain ⟨rightRest, rightLast⟩ := right
  cases alike with
  | nil => exact ⟨rfl, .nil⟩
  | cons token leftSpan rightSpan behind =>
      cases token with
      | string value => exact ⟨rfl, behind⟩
      | blockString value => exact ⟨rfl, behind⟩
      | punct _ => exact ⟨rfl, .cons _ leftSpan rightSpan behind⟩
      | name _ => exact ⟨rfl, .cons _ leftSpan rightSpan behind⟩
      | int _ => exact ⟨rfl, .cons _ leftSpan rightSpan behind⟩
      | float _ => exact ⟨rfl, .cons _ leftSpan rightSpan behind⟩

/-! ## Lists -/

section Items

variable {α β : Type} {strip : α → β}

theorem itemsUntil_alike {close : Punctuator} {leftFront rightFront : Cursor}
    {leftItem : (cursor : Cursor) → cursor.rest.length ≤ leftFront.rest.length → Reads α cursor}
    {rightItem : (cursor : Cursor) → cursor.rest.length ≤ rightFront.rest.length → Reads α cursor}
    (itemAlike : ∀ {left right : Cursor} (leftInside : left.rest.length ≤ leftFront.rest.length)
      (rightInside : right.rest.length ≤ rightFront.rest.length), left.Alike right →
        Agree (Reading.Alike strip) (leftItem left leftInside) (rightItem right rightInside))
    (alike : left.Alike right) (leftInside : left.rest.length ≤ leftFront.rest.length)
    (rightInside : right.rest.length ≤ rightFront.rest.length) :
    Agree (Reading.Alike (List.map strip)) (itemsUntil close leftFront leftItem left leftInside)
      (itemsUntil close rightFront rightItem right rightInside) := by
  induction left, leftInside using @itemsUntil.induct α close leftFront
    generalizing right with
  | case1 left leftInside leftMark leftFound =>
      obtain ⟨rightMark, rightFound, behind⟩ := punct?_eq_some_of_alike alike leftFound
      rw [itemsUntil, leftFound, itemsUntil, rightFound]
      exact .ok ⟨rfl, behind⟩
  | case2 left leftInside leftNone ih =>
      rw [itemsUntil, leftNone, itemsUntil, punct?_eq_none_of_alike alike leftNone]
      refine (itemAlike leftInside rightInside alike).bind ?_
      rintro leftFirst rightFirst ⟨sameFirst, alike⟩
      refine (ih leftFirst alike _).bind ?_
      rintro leftOthers rightOthers ⟨sameOthers, alike⟩
      exact .ok ⟨congrArg₂ List.cons sameFirst sameOthers, alike⟩

theorem many_alike (close : Punctuator) {item : (cursor : Cursor) → Reads α cursor}
    (itemAlike : ReadsAlike item strip) : ReadsAlike (many close item) (List.map strip) :=
  fun alike => itemsUntil_alike (fun _ _ alike => itemAlike alike) alike _ _

theorem enclosed_alike (opening close : Punctuator) {item : (cursor : Cursor) → Reads α cursor}
    (itemAlike : ReadsAlike item strip) :
    PassesAlike (enclosed opening close item) (List.map strip) := by
  intro left right alike
  unfold enclosed
  rcases punct?_alike opening alike with
    ⟨leftNone, rightNone⟩ | ⟨leftMark, rightMark, leftFound, rightFound, behind⟩
  · rw [leftNone, rightNone]
    exact .ok ⟨rfl, alike⟩
  · rw [leftFound, rightFound]
    refine (many_alike close itemAlike behind).bind ?_
    rintro leftItems rightItems ⟨sameItems, alike⟩
    exact .ok ⟨sameItems, alike⟩

end Items

theorem namesBehind_alike (separator : Punctuator) : PassesAlike (namesBehind separator) id := by
  intro left right alike
  induction left using namesBehind.induct separator generalizing right with
  | case1 left leftNone =>
      rw [namesBehind, leftNone, namesBehind, punct?_eq_none_of_alike alike leftNone]
      exact .ok ⟨rfl, alike⟩
  | case2 left leftMark leftFound ih =>
      obtain ⟨rightMark, rightFound, behind⟩ := punct?_eq_some_of_alike alike leftFound
      rw [namesBehind, leftFound, namesBehind, rightFound]
      refine (name_alike behind).bind ?_
      rintro leftFirst rightFirst ⟨sameFirst, alike⟩
      refine (ih leftFirst alike).bind ?_
      rintro leftOthers rightOthers ⟨sameOthers, alike⟩
      exact .ok ⟨congrArg₂ List.cons sameFirst sameOthers, alike⟩

theorem separatedNames_alike (separator : Punctuator) :
    ReadsAlike (separatedNames separator) id := by
  intro left right alike
  refine (name_alike (skipPunct_alike separator alike).next).bind ?_
  rintro leftFirst rightFirst ⟨sameFirst, alike⟩
  refine (namesBehind_alike separator alike).bind ?_
  rintro leftOthers rightOthers ⟨sameOthers, alike⟩
  exact .ok ⟨congrArg₂ List.cons sameFirst sameOthers, alike⟩

/-! ## Values -/

theorem entry_alike {leftFront rightFront : Cursor}
    {leftValue : (cursor : Cursor) → cursor.rest.length ≤ leftFront.rest.length →
      Reads Value cursor}
    {rightValue : (cursor : Cursor) → cursor.rest.length ≤ rightFront.rest.length →
      Reads Value cursor}
    (valueAlike : ∀ {left right : Cursor} (leftInside : left.rest.length ≤ leftFront.rest.length)
      (rightInside : right.rest.length ≤ rightFront.rest.length), left.Alike right →
        Agree (Reading.Alike id) (leftValue left leftInside) (rightValue right rightInside))
    (leftInside : left.rest.length ≤ leftFront.rest.length)
    (rightInside : right.rest.length ≤ rightFront.rest.length) (alike : left.Alike right) :
    Agree (Reading.Alike id) (entry leftFront leftValue left leftInside)
      (entry rightFront rightValue right rightInside) := by
  refine (name_alike alike).bind ?_
  rintro leftKey rightKey ⟨sameKey, alike⟩
  refine (punct_alike .colon _ alike).bind ?_
  rintro leftColon rightColon ⟨-, alike⟩
  refine (valueAlike _ _ alike).bind ?_
  rintro leftContent rightContent ⟨sameContent, alike⟩
  exact .ok ⟨congrArg₂ Prod.mk sameKey sameContent, alike⟩

/-- A value that is a single lexeme is the same wherever the lexeme stands. -/
theorem value_alike_of_single {token : Token} {content : Value} {span last : Span}
    {rest : List Lexeme}
    (reads : ∀ span rest last,
      value ⟨⟨token, span⟩ :: rest, last⟩ = .ok (.single content rest span))
    (alike : Alike ⟨⟨token, span⟩ :: rest, last⟩ right) :
    Agree (Reading.Alike id) (value ⟨⟨token, span⟩ :: rest, last⟩) (value right) := by
  obtain ⟨rightRest, rightLast⟩ := right
  cases alike with
  | cons token leftSpan rightSpan behind =>
      rw [reads, reads]
      exact .ok ⟨rfl, behind⟩

theorem value_alike : ReadsAlike value id := by
  intro left right alike
  induction left using value.induct generalizing right with
  | case1 leftLast =>
      obtain ⟨rightRest, rightLast⟩ := right
      cases alike with
      | nil =>
          rw [value, value]
          exact .error rfl
  | case2 number leftSpan leftRest leftLast =>
      exact value_alike_of_single (fun _ _ _ => by rw [value]) alike
  | case3 number leftSpan leftRest leftLast =>
      exact value_alike_of_single (fun _ _ _ => by rw [value]) alike
  | case4 text leftSpan leftRest leftLast =>
      exact value_alike_of_single (fun _ _ _ => by rw [value]) alike
  | case5 text leftSpan leftRest leftLast =>
      exact value_alike_of_single (fun _ _ _ => by rw [value]) alike
  | case6 word leftSpan leftRest leftLast =>
      exact value_alike_of_single (fun _ _ _ => by rw [value]) alike
  | case7 leftSpan leftRest leftLast ih =>
      obtain ⟨rightRest, rightLast⟩ := right
      cases alike with
      | @cons token leftSpan rightSpan leftRest rightRest behind =>
          have alike : Alike ⟨leftRest, leftSpan⟩ ⟨rightRest, rightSpan⟩ := behind
          rw [value, value]
          refine (itemsUntil_alike (fun inside _ alike => ih _ inside alike) alike _ _).bind ?_
          rintro leftItems rightItems ⟨sameItems, alike⟩
          rw [List.map_id, List.map_id] at sameItems
          exact .ok ⟨congrArg Value.list sameItems, alike⟩
  | case8 leftSpan leftRest leftLast ih =>
      obtain ⟨rightRest, rightLast⟩ := right
      cases alike with
      | @cons token leftSpan rightSpan leftRest rightRest behind =>
          have alike : Alike ⟨leftRest, leftSpan⟩ ⟨rightRest, rightSpan⟩ := behind
          rw [value, value]
          refine (itemsUntil_alike
            (entry_alike fun inside _ alike => ih _ inside alike) alike _ _).bind ?_
          rintro leftFields rightFields ⟨sameFields, alike⟩
          rw [List.map_id, List.map_id] at sameFields
          exact .ok ⟨congrArg Value.object sameFields, alike⟩
  | case9 leftSpan leftRest leftLast =>
      obtain ⟨rightRest, rightLast⟩ := right
      cases alike with
      | cons token leftSpan rightSpan behind =>
          rw [value, value]
          exact .error rfl
  | case10 other leftSpan leftRest leftLast notBracket notBrace notDollar =>
      obtain ⟨rightRest, rightLast⟩ := right
      cases alike with
      | cons token leftSpan rightSpan behind =>
          rw [value, value]
          · exact .error rfl
          all_goals assumption

/-! ## Type references -/

theorem marked_alike {before beforeOther : Cursor} {left : Reading TypeRef before}
    {right : Reading TypeRef beforeOther} (alike : Reading.Alike id left right) :
    Reading.Alike id (marked left) (marked right) := by
  obtain ⟨sameType, behind⟩ := alike
  unfold marked
  rcases punct?_alike .bang behind with
    ⟨leftNone, rightNone⟩ | ⟨leftMark, rightMark, leftFound, rightFound, behindMark⟩
  · rw [leftNone, rightNone]
    exact ⟨sameType, behind⟩
  · rw [leftFound, rightFound]
    exact ⟨congrArg TypeRef.nonNull sameType, behindMark⟩

theorem typeRef_alike : ReadsAlike typeRef id := by
  intro left right alike
  induction left using typeRef.induct generalizing right with
  | case1 left leftNone =>
      rw [typeRef, leftNone, typeRef, punct?_eq_none_of_alike alike leftNone]
      refine (name_alike alike).map ?_
      rintro leftName rightName ⟨sameName, alike⟩
      exact marked_alike ⟨congrArg TypeRef.named sameName, alike⟩
  | case2 left leftMark leftFound ih =>
      obtain ⟨rightMark, rightFound, behind⟩ := punct?_eq_some_of_alike alike leftFound
      rw [typeRef, leftFound, typeRef, rightFound]
      refine (ih behind).bind ?_
      rintro leftItem rightItem ⟨sameItem, alike⟩
      refine (punct_alike .bracketClose _ alike).bind ?_
      rintro leftClosing rightClosing ⟨-, alike⟩
      exact .ok (marked_alike ⟨congrArg TypeRef.list sameItem, alike⟩)

/-! ## Directives -/

theorem argument_alike (directive : String) :
    ReadsAlike (argument directive) (Argument.relocate Span.nowhere) := by
  intro left right alike
  refine (name_alike alike).bind ?_
  rintro ⟨name, leftNext, _⟩ ⟨_, rightNext, _⟩ ⟨⟨⟩, alike⟩
  refine (punct_alike .colon _ alike).bind ?_
  rintro leftColon rightColon ⟨-, alike⟩
  refine (value_alike alike).bind ?_
  rintro ⟨content, leftNext, _⟩ ⟨_, rightNext, _⟩ ⟨⟨⟩, alike⟩
  exact .ok ⟨rfl, alike⟩

theorem directiveBehind_alike (leftStart rightStart : Span) (alike : left.Alike right) :
    Agree (Reading.Alike (Directive.relocate Span.nowhere)) (directiveBehind leftStart left)
      (directiveBehind rightStart right) := by
  refine (name_alike alike).bind ?_
  rintro ⟨name, leftNext, _⟩ ⟨_, rightNext, _⟩ ⟨⟨⟩, alike⟩
  refine (enclosed_alike .parenOpen .parenClose (argument_alike name) alike).bind ?_
  rintro leftArguments rightArguments ⟨sameArguments, alike⟩
  refine .ok ⟨?_, alike⟩
  simp only [Directive.relocate, Span.nowhere, sameArguments]

theorem directives_alike :
    PassesAlike directives (List.map (Directive.relocate Span.nowhere)) := by
  intro left right alike
  induction left using directives.induct generalizing right with
  | case1 left leftNone =>
      rw [directives, leftNone, directives, punct?_eq_none_of_alike alike leftNone]
      exact .ok ⟨rfl, alike⟩
  | case2 left leftMark leftFound ih =>
      obtain ⟨rightMark, rightFound, behind⟩ := punct?_eq_some_of_alike alike leftFound
      rw [directives, leftFound, directives, rightFound]
      refine (directiveBehind_alike _ _ behind).bind ?_
      rintro leftFirst rightFirst ⟨sameFirst, alike⟩
      refine (ih leftFirst alike).bind ?_
      rintro leftOthers rightOthers ⟨sameOthers, alike⟩
      exact .ok ⟨congrArg₂ List.cons sameFirst sameOthers, alike⟩

end Cursor

end EntityMapping.Document
