import EntityMapping.Proofs.Document.Allowances

/-!
# The programs follow the readers

Every reader of mapping files is followed by its program.  The readers of parts are taken in
the order in which they are put together; the two that call themselves are by induction on the
number of lexemes in front of them.
-/

namespace EntityMapping.Document

open EntityMapping.Source

variable {α : Type}

namespace Cursor

/-- Steps that go two ways on the same token are the same if their ways are. -/
theorem Branches.unique {token : Token} {steps others : Steps α} {behind : Span → Steps α}
    {otherwise : Steps α} (branches : Branches token steps behind otherwise)
    (branchesOther : Branches token others behind otherwise) : steps = others := by
  funext cursor
  obtain ⟨rest, last⟩ := cursor
  cases rest with
  | nil =>
      have clear : Clear [token] [] := clear_nil _
      rw [branches.absent ⟨[], last⟩ clear, branchesOther.absent ⟨[], last⟩ clear]
  | cons lexeme rest =>
      obtain ⟨found, span⟩ := lexeme
      by_cases same : found = token
      · subst same
        rw [branches.present, branchesOther.present]
      · have clear : Clear [token] (⟨found, span⟩ :: rest) := clear_cons.mpr (by simpa using same)
        rw [branches.absent ⟨_, last⟩ clear, branchesOther.absent ⟨_, last⟩ clear]

theorem Branches.bind {β : Type} {token : Token} {steps : Steps α} {behind : Span → Steps α}
    {otherwise : Steps α} (branches : Branches token steps behind otherwise)
    (next : α → Steps β) :
    Branches token (steps >>= next) (fun span => behind span >>= next) (otherwise >>= next) where
  present span rest last := by
    simp only [Bind.bind, StateT.bind, branches.present]
  absent cursor clear := by
    simp only [Bind.bind, StateT.bind, branches.absent cursor clear]

/-- Whether a token comes next; if so it is read. -/
def eaten (token : Token) : Steps Bool
  | ⟨⟨found, span⟩ :: rest, last⟩ =>
      if found = token then .ok (true, ⟨rest, span⟩)
      else .ok (false, ⟨⟨found, span⟩ :: rest, last⟩)
  | ⟨[], last⟩ => .ok (false, ⟨[], last⟩)

theorem eaten_branches (token : Token) :
    Branches token (eaten token) (fun _ => pure true) (pure false) where
  present span rest last := if_pos rfl
  absent cursor clear := by
    obtain ⟨rest, last⟩ := cursor
    cases rest with
    | nil => rfl
    | cons lexeme rest => exact if_neg (by simpa using clear_cons.mp clear)

/-- A complaint about what stands next. -/
def wanting (wanted : Expectation) : Steps α :=
  fun cursor => .error (cursor.wants wanted)

theorem punct_branches (wanted : Punctuator) (expectation : Expectation) :
    Branches (.punct wanted) (reading (punct wanted expectation)) (fun _ => pure ())
      (wanting expectation) where
  present span rest last := by
    simp only [reading, punct, if_pos]
    rfl
  absent cursor clear := by
    simp only [reading]
    unfold punct
    split
    · rename_i found span rest last
      have other : found ≠ wanted := by simpa [Clear] using clear
      rw [if_neg other]
      rfl
    · rfl

/-- Whether a token comes next. -/
def isNext (token : Token) : Steps Bool :=
  fun cursor => .ok (decide (cursor.next? = some token), cursor)

theorem isNext_of_clear {token : Token} {cursor : Cursor} (clear : Clear [token] cursor.rest) :
    isNext token cursor = .ok (false, cursor) := by
  have other : cursor.next? ≠ some token := by
    simpa [Clear, next?] using clear
  simp only [isNext, other, decide_false]

/-- Pass a lexeme, if there is one. -/
def passed : Steps Unit
  | ⟨lexeme :: rest, _⟩ => .ok ((), ⟨rest, lexeme.span⟩)
  | ⟨[], last⟩ => .ok ((), ⟨[], last⟩)

/-- Any lexeme. -/
def anyLexeme : Steps Lexeme
  | ⟨lexeme :: rest, _⟩ => .ok (lexeme, ⟨rest, lexeme.span⟩)
  | ⟨[], last⟩ => .error ⟨.noValue, last.endPoint⟩

/-- A complaint about what was read last. -/
def complaining (cause : SyntaxCause) : Steps α :=
  fun cursor => .error ⟨cause, cursor.last⟩

/-! ## Loops -/

section Loops

variable {item : (cursor : Cursor) → Reads α cursor}

theorem many_unrolls (close : Punctuator) :
    reading (many close item) = do
      if ← (do return !(← eaten (.punct close))) then do
        let first ← reading item
        let others ← reading (many close item)
        return first :: others
      else return [] := by
  have tested := (eaten_branches (.punct close)).bind fun closes => if !closes then do
      let first ← reading item
      let others ← reading (many close item)
      return first :: others
    else return []
  simp only [pure_bind, Bool.not_true, Bool.not_false, Bool.false_eq_true, if_true,
    if_false] at tested
  simp only [bind_assoc, pure_bind]
  exact many_branches.unique tested

theorem namesBehind_unrolls (separator : Punctuator) :
    passing (namesBehind separator) = do
      if ← eaten (.punct separator) then do
        let first ← reading name
        let others ← passing (namesBehind separator)
        return first :: others
      else return [] := by
  have tested := (eaten_branches (.punct separator)).bind fun goesOn => if goesOn then do
      let first ← reading name
      let others ← passing (namesBehind separator)
      return first :: others
    else return []
  simp only [pure_bind, Bool.false_eq_true, if_true, if_false] at tested
  exact (namesBehind_branches separator).unique tested

theorem directives_unrolls :
    passing directives = do
      if ← isNext (.punct .atSign) then do
        let first ← (do
          let start ← here
          passed
          reading (directiveBehind start))
        let others ← passing directives
        return first :: others
      else return [] := by
  refine directives_branches.unique ⟨fun span rest last => ?_, fun cursor clear => ?_⟩
  · have isSeen : isNext (.punct .atSign) ⟨⟨.punct .atSign, span⟩ :: rest, last⟩ =
        .ok (true, ⟨⟨.punct .atSign, span⟩ :: rest, last⟩) := rfl
    exact steps_bind_ok isSeen
  · exact steps_bind_ok (isNext_of_clear clear)

end Loops

/-! ## Values -/

/-- What is read of a value behind its first lexeme. -/
def valueBehind : Lexeme → Steps Value
  | ⟨.int number, _⟩ => return .int number
  | ⟨.float number, _⟩ => return .float number
  | ⟨.string text, _⟩ => return .string text
  | ⟨.blockString text, _⟩ => return .string text
  | ⟨.name word, _⟩ => return wordValue word
  | ⟨.punct .bracketOpen, _⟩ => do return .list (← reading (many .bracketClose value))
  | ⟨.punct .braceOpen, _⟩ => do return .object (← reading (many .braceClose entryReader))
  | ⟨.punct .dollar, span⟩ => throw ⟨.notConstant, span⟩
  | ⟨.punct other, span⟩ => throw ⟨.notValue (.punct other), span⟩

theorem reading_value : reading value = anyLexeme >>= valueBehind := by
  funext cursor
  obtain ⟨rest, last⟩ := cursor
  cases rest with
  | nil =>
      rw [reading, value]
      rfl
  | cons lexeme rest =>
      obtain ⟨token, span⟩ := lexeme
      cases token with
      | punct mark =>
          cases mark with
          | bracketOpen => exact reading_value_list span last rest
          | braceOpen => exact reading_value_object span last rest
          | _ =>
              rw [reading, value]
              · rfl
              all_goals
                intro same
                cases same
      | int | float | string | blockString | name =>
          rw [reading, value]
          rfl

end Cursor

namespace Program

variable {lexemes : List Lexeme} {pos left : Nat} {last : Span}

theorem drop_of_none (atEnd : lexemes[pos]? = none) : lexemes.drop pos = [] :=
  List.drop_eq_nil_of_le (List.getElem?_eq_none_iff.mp atEnd)

theorem drop_of_some {lexeme : Lexeme} (found : lexemes[pos]? = some lexeme) :
    lexemes.drop pos = lexeme :: lexemes.drop (pos + 1) := by
  obtain ⟨inside, rfl⟩ := List.getElem?_eq_some_iff.mp found
  exact List.drop_eq_getElem_cons inside

/-- What comes next is a given token, or it is not. -/
theorem next_cases (lexemes : List Lexeme) (pos : Nat) (token : Token) :
    (∃ span, lexemes[pos]? = some ⟨token, span⟩) ∨
      (∀ lexeme, lexemes[pos]? = some lexeme → lexeme.token ≠ token) ∧
        Clear [token] (lexemes.drop pos) := by
  cases front : lexemes[pos]? with
  | none =>
      refine .inr ⟨fun _ isSome => (nomatch isSome), ?_⟩
      rw [drop_of_none front]
      exact clear_nil _
  | some lexeme =>
      obtain ⟨found, span⟩ := lexeme
      by_cases same : found = token
      · exact .inl ⟨span, by rw [same]⟩
      · refine .inr ⟨fun _ isSome => Option.some.inj isSome ▸ same, ?_⟩
        rw [drop_of_some front]
        exact clear_cons.mpr (by simpa using same)

/-! ## Single lexemes -/

theorem follows_here : Follows left 3 0 here Cursor.here := by
  intro lexemes pos last inside close
  refine .enter ?_
  cases front : lexemes[pos]? with
  | none =>
      refine .peek front (.lookBack (.now (by decide) ?_))
      simp only [Cursor.here, Cursor.span, drop_of_none front]
  | some lexeme =>
      refine .peek front (.now (by decide) ?_)
      simp only [Cursor.here, Cursor.span, drop_of_some front]

theorem follows_since (start : Span) : Follows left 1 0 (since start) (Cursor.since start) :=
  fun _ _ _ _ _ => .lookBack (.now (by decide) rfl)

theorem follows_complain {ifDone ifFailed : Int} (cause : SyntaxCause) (allowed : 1 ≤ ifFailed) :
    Follows left ifDone ifFailed (complain cause : Program α) (Cursor.complaining cause) :=
  fun _ _ _ _ _ => .lookBack (.failsNow (by omega) rfl)

theorem ComesTo.unexpected {ifDone ifFailed : Int} {wanted : Expectation}
    {outcome : Except SyntaxError (α × Cursor)} (allowed : 3 ≤ ifFailed)
    (isOutcome : outcome = .error (Cursor.wants ⟨lexemes.drop pos, last⟩ wanted)) :
    ComesTo lexemes ⟨unexpected wanted, pos, last⟩ ifDone ifFailed outcome := by
  subst isOutcome
  refine .enter ?_
  cases front : lexemes[pos]? with
  | none =>
      refine .peek front (.lookBack (.failsNow (by omega) ?_))
      simp [Cursor.wants, Cursor.span, Cursor.next?, drop_of_none front]
  | some lexeme =>
      refine .peek front (.failsNow (by omega) ?_)
      simp [Cursor.wants, Cursor.span, Cursor.next?, drop_of_some front]

theorem follows_unexpected {ifDone ifFailed : Int} (wanted : Expectation)
    (allowed : 3 ≤ ifFailed) :
    Follows left ifDone ifFailed (unexpected wanted : Program α) (Cursor.wanting wanted) :=
  fun _ _ _ _ _ => .unexpected allowed rfl

theorem follows_anyLexeme :
    Follows left (3 - stepsPerLexeme) 3 anyLexeme Cursor.anyLexeme := by
  intro lexemes pos last inside close
  refine .enter ?_
  cases front : lexemes[pos]? with
  | none =>
      refine .peek front (.lookBack (.failsNow (by decide) ?_))
      simp only [drop_of_none front, Cursor.anyLexeme]
  | some lexeme =>
      refine .peek front (.advance front (.now (by decide) ?_))
      simp only [drop_of_some front, Cursor.anyLexeme]

theorem follows_sees (token : Token) : Follows left 1 0 (sees token) (Cursor.isNext token) := by
  intro lexemes pos last inside close
  cases front : lexemes[pos]? with
  | none =>
      refine .peek front (.now (by decide) ?_)
      simp [Cursor.isNext, Cursor.next?, drop_of_none front]
  | some lexeme =>
      refine .peek front (.now (by decide) ?_)
      simp [Cursor.isNext, Cursor.next?, drop_of_some front]

theorem eat_passes {token : Token} {span : Span} (front : lexemes[pos]? = some ⟨token, span⟩) :
    OrderlyRun lexemes 3 ⟨eat token, pos, last⟩ ⟨.done true, pos + 1, span⟩ := by
  have passes : step lexemes ⟨.advance (.done true), pos, last⟩ =
      some ⟨.done true, pos + 1, span⟩ := by
    simp only [step, front]
  refine .head trivial rfl (.head trivial rfl ?_)
  simp only [front, if_true]
  exact .head trivial passes (.refl _)

theorem eat_stays {token : Token}
    (absent : ∀ lexeme, lexemes[pos]? = some lexeme → lexeme.token ≠ token) :
    OrderlyRun lexemes 2 ⟨eat token, pos, last⟩ ⟨.done false, pos, last⟩ := by
  refine .head trivial rfl (.head trivial rfl ?_)
  cases front : lexemes[pos]? with
  | none => exact .refl _
  | some lexeme =>
      simp only [absent lexeme front, if_false]
      exact .refl _

theorem follows_eat (token : Token) : Follows left 3 0 (eat token) (Cursor.eaten token) := by
  intro lexemes pos last inside close
  obtain ⟨span, front⟩ | ⟨absent, clear⟩ := next_cases lexemes pos token
  · rw [drop_of_some front, (Cursor.eaten_branches token).present]
    have ends : ComesTo lexemes ⟨.done true, pos + 1, span⟩ 0 0 (.ok (true, ⟨_, span⟩)) :=
      .now (Int.le_refl 0) rfl
    refine ComesTo.after (eat_passes front) ends ?_ ?_
    · simp only [stepsPerLexeme]
      omega
    · simp only [stepsPerLexeme]
      omega
  · rw [(Cursor.eaten_branches token).absent _ clear]
    have ends : ComesTo lexemes ⟨.done false, pos, last⟩ 0 (-2) (.ok (false, ⟨_, last⟩)) :=
      .now (Int.le_refl 0) rfl
    refine .after (eat_stays absent) ends ?_ ?_
    · simp only
      omega
    · simp only
      omega

theorem follows_expect (wanted : Punctuator) (expectation : Expectation) :
    Follows left (5 - stepsPerLexeme) 5 (expect wanted expectation)
      (Cursor.reading (Cursor.punct wanted expectation)) := by
  intro lexemes pos last inside close
  refine .enter (.peek rfl ?_)
  obtain ⟨span, front⟩ | ⟨absent, clear⟩ := next_cases lexemes pos (.punct wanted)
  · rw [drop_of_some front, (Cursor.punct_branches wanted expectation).present]
    simp only [front, if_true]
    exact .enter (.peek front (.advance front (.now (by decide) rfl)))
  · rw [(Cursor.punct_branches wanted expectation).absent _ clear]
    cases front : lexemes[pos]? with
    | none => exact .unexpected (by decide) rfl
    | some lexeme =>
        simp only [absent lexeme front, if_false]
        exact .unexpected (by decide) rfl

theorem follows_name : Follows left (5 - stepsPerLexeme) 5 name (Cursor.reading Cursor.name) := by
  intro lexemes pos last inside close
  cases front : lexemes[pos]? with
  | none => exact .enter (.peek front (.unexpected (by decide) (by rw [drop_of_none front]; rfl)))
  | some lexeme =>
      obtain ⟨token, span⟩ := lexeme
      refine .enter (.peek front ?_)
      cases token with
      | name word =>
          rw [drop_of_some front]
          exact .enter (.peek front (.advance front (.now (by decide) rfl)))
      | punct | int | float | string | blockString =>
          exact .unexpected (by decide) (by rw [drop_of_some front]; rfl)

theorem follows_description :
    Follows left 3 0 description (Cursor.passing fun cursor => .ok cursor.description) := by
  intro lexemes pos last inside close
  cases front : lexemes[pos]? with
  | none => exact .enter (.peek front (.now (by decide) (by rw [drop_of_none front]; rfl)))
  | some lexeme =>
      obtain ⟨token, span⟩ := lexeme
      refine .enter (.peek front ?_)
      cases token with
      | string | blockString =>
          exact .advance front (.now (by decide) (by rw [drop_of_some front]; rfl))
      | punct | int | float | name => exact .now (by decide) (by rw [drop_of_some front]; rfl)

/-! ## Parts that may be there, and loops -/

theorem Follows.optional {token : Token} {behind otherwise : Program α}
    {steps behindSteps otherwiseSteps : Steps α} {ifDone ifFailed : Int}
    (branches : Cursor.Branches token steps (fun _ => behindSteps) otherwiseSteps)
    (followsBehind : Follows (left - 1) (ifDone - 3 + stepsPerLexeme)
      (ifFailed - 3 + stepsPerLexeme) behind behindSteps)
    (followsOtherwise : Follows left (ifDone - 2) (ifFailed - 2) otherwise otherwiseSteps) :
    Follows left ifDone ifFailed (optional token behind otherwise) steps := by
  intro lexemes pos last inside close
  obtain ⟨span, front⟩ | ⟨absent, clear⟩ := next_cases lexemes pos token
  · have isPresent := branches.present span (lexemes.drop (pos + 1)) last
    have insideBehind : pos + 1 ≤ lexemes.length := (List.getElem?_eq_some_iff.mp front).1
    rw [← drop_of_some front] at isPresent
    rw [isPresent]
    refine .after ((eat_passes front).bind _)
      (followsBehind lexemes (pos + 1) span insideBehind (by omega)) ?_ ?_
    · simp only [stepsPerLexeme]
      omega
    · simp only [stepsPerLexeme]
      omega
  · rw [branches.absent _ clear]
    refine .after ((eat_stays absent).bind _) (followsOtherwise lexemes pos last inside close) ?_ ?_
    · simp only
      omega
    · simp only
      omega

theorem follows_itemsUntil {close : Punctuator} {item : Program α}
    {reader : (cursor : Cursor) → Reads α cursor} {itemDone itemFailed : Int}
    (followsItem : Follows left itemDone itemFailed item (Cursor.reading reader))
    (paysRound : itemDone + 4 ≤ 0) (mayFail : 0 ≤ itemFailed) :
    Follows left 4 (itemFailed + 4) (itemsUntil close item)
      (Cursor.reading (Cursor.many close reader)) := by
  have followsTest : Follows left 3 0 (do return !(← eat (.punct close)))
      (do return !(← Cursor.eaten (.punct close))) :=
    (follows_eat (.punct close)).bind (by decide) fun closes => .pure _ (by decide)
  exact followsTest.repeatWhile followsItem (by omega) (by decide) (by omega) (by omega) (by decide)
    (Cursor.many_unrolls close)

theorem follows_enclosed {opening close : Punctuator} {item : Program α}
    {reader : (cursor : Cursor) → Reads α cursor} {itemDone itemFailed : Int}
    (followsItem : Follows left itemDone itemFailed item (Cursor.reading reader))
    (paysRound : itemDone + 4 ≤ 0) (mayFail : 0 ≤ itemFailed)
    (within : itemFailed + 7 ≤ stepsPerLexeme) :
    Follows left 2 0 (enclosed opening close item)
      (Cursor.passing (Cursor.enclosed opening close reader)) := by
  have followsItems : Follows (left - 1) 4 (itemFailed + 4) (itemsUntil close item)
      (Cursor.reading (Cursor.many close reader)) :=
    follows_itemsUntil (followsItem.fewer (Nat.sub_le left 1)) paysRound mayFail
  exact .optional Cursor.enclosed_branches (followsItems.allow (by decide) (by omega))
    (.pure _ (by decide))

theorem follows_namesBehind (separator : Punctuator) :
    Follows left 4 9 (namesBehind separator) (Cursor.passing (Cursor.namesBehind separator)) :=
  (follows_eat (.punct separator)).repeatWhile follows_name (by decide) (by decide) (by decide)
    (by decide) (by decide) (Cursor.namesBehind_unrolls separator)

theorem follows_skipPunct (wanted : Punctuator) :
    Follows left 3 0 (eat (.punct wanted))
      (Cursor.passing fun cursor => .ok (cursor.skipPunct wanted)) := by
  rw [(Cursor.skipPunct_branches wanted).unique (Cursor.eaten_branches _)]
  exact follows_eat _

theorem follows_skipWord (wanted : String) :
    Follows left 3 0 (eat (.name wanted))
      (Cursor.passing fun cursor => .ok (cursor.skipWord wanted)) := by
  rw [(Cursor.skipWord_branches wanted).unique (Cursor.eaten_branches _)]
  exact follows_eat _

theorem follows_separatedNames (separator : Punctuator) :
    Follows left (12 - stepsPerLexeme) 8 (separatedNames separator)
      (Cursor.reading (Cursor.separatedNames separator)) := by
  rw [Cursor.reading_separatedNames]
  exact (follows_skipPunct separator).bind (by decide) fun _ =>
    follows_name.bind (by decide) fun first =>
    (follows_namesBehind separator).bind (by decide) fun others => .pure _ (by decide)

/-! ## Types and values -/

theorem follows_bareTypeRef
    (followsInner : Follows left (15 - stepsPerLexeme) 15 typeRef
      (Cursor.reading Cursor.typeRef)) :
    Follows (left + 1) (10 - stepsPerLexeme) 10 bareTypeRef Cursor.bareTypeRef := by
  refine .optional Cursor.bareTypeRef_branches ?_ ?_
  · exact followsInner.bind (by decide) fun item =>
      (follows_expect .bracketClose (.punct .bracketClose)).bind (by decide) fun _ =>
      .pure _ (by decide)
  · exact follows_name.bind (by decide) fun base => .pure _ (by decide)

/-- By induction on the number of lexemes in front: a type in brackets begins further ahead. -/
theorem follows_typeRef :
    Follows left (15 - stepsPerLexeme) 15 typeRef (Cursor.reading Cursor.typeRef) := by
  induction left with
  | zero => exact .zero
  | succ left ih =>
      refine .call ?_ (by decide)
      rw [Cursor.reading_typeRef]
      exact (follows_bareTypeRef ih).bind (by decide) fun inner =>
        (follows_skipPunct .bang).bind (by decide) fun isMarked => .pure _ (by decide)

theorem follows_entry
    (followsInner : Follows left (15 - stepsPerLexeme) 15 value (Cursor.reading Cursor.value)) :
    Follows left (15 - stepsPerLexeme) 15 entry (Cursor.reading Cursor.entryReader) := by
  rw [Cursor.reading_entryReader]
  exact follows_name.bind (by decide) fun key =>
    (follows_expect .colon (.punct .colon)).bind (by decide) fun _ =>
    followsInner.bind (by decide) fun content => .pure _ (by decide)

theorem follows_valueBehind
    (followsInner : Follows left (15 - stepsPerLexeme) 15 value (Cursor.reading Cursor.value))
    (lexeme : Lexeme) :
    Follows left 4 19 (valueBehind lexeme) (Cursor.valueBehind lexeme) := by
  obtain ⟨token, span⟩ := lexeme
  cases token with
  | punct mark =>
      cases mark with
      | bracketOpen =>
          exact (follows_itemsUntil followsInner (by decide) (by decide)).bind (by decide)
            fun items => .pure _ (by decide)
      | braceOpen =>
          exact (follows_itemsUntil (follows_entry followsInner) (by decide) (by decide)).bind
            (by decide) fun fields => .pure _ (by decide)
      | _ => exact fun _ _ _ _ _ => .failsNow (by decide) rfl
  | int | float | string | blockString | name => exact .pure _ (by decide)

/-- By induction on the number of lexemes in front: the values in a list or an object begin
further ahead. -/
theorem follows_value :
    Follows left (15 - stepsPerLexeme) 15 value (Cursor.reading Cursor.value) := by
  induction left with
  | zero => exact .zero
  | succ left ih =>
      refine .call ?_ (by decide)
      rw [Cursor.reading_value]
      exact follows_anyLexeme.bindAhead (by decide) (by decide) fun lexeme =>
        (follows_valueBehind ih lexeme).allow (by decide) (by decide)

/-! ## Directives -/

theorem Follows.advance {ifDone ifFailed : Int} {program : Program α} {steps : Steps α}
    (follows : Follows left (ifDone - 1) (ifFailed - 1) program steps) :
    Follows left ifDone ifFailed (.advance program) (Cursor.passed >>= fun _ => steps) := by
  intro lexemes pos last inside close
  cases front : lexemes[pos]? with
  | none =>
      have stepped : step lexemes ⟨.advance program, pos, last⟩ = some ⟨program, pos, last⟩ := by
        simp only [step, front]
      have stays : Cursor.passed ⟨lexemes.drop pos, last⟩ = .ok ((), ⟨lexemes.drop pos, last⟩) := by
        rw [drop_of_none front]
        rfl
      rw [Cursor.steps_bind_ok stays]
      exact .stay trivial stepped (follows lexemes pos last inside close)
  | some lexeme =>
      have insideBehind : pos + 1 ≤ lexemes.length := (List.getElem?_eq_some_iff.mp front).1
      have moves : Cursor.passed ⟨lexemes.drop pos, last⟩ =
          .ok ((), ⟨lexemes.drop (pos + 1), lexeme.span⟩) := by
        rw [drop_of_some front]
        rfl
      have follows : Follows left (ifDone - 1 + stepsPerLexeme) (ifFailed - 1 + stepsPerLexeme)
          program steps :=
        follows.allow (by simp only [stepsPerLexeme]; omega) (by simp only [stepsPerLexeme]; omega)
      rw [Cursor.steps_bind_ok moves]
      exact .advance front (follows lexemes (pos + 1) lexeme.span insideBehind (by omega))

theorem follows_argument (directive : String) :
    Follows left (30 - stepsPerLexeme) 8 (argument directive)
      (Cursor.reading (Cursor.argument directive)) := by
  rw [Cursor.reading_argument]
  exact follows_here.bind (by decide) fun start =>
    follows_name.bind (by decide) fun name =>
    (follows_expect .colon (.argumentValue directive name)).bind (by decide) fun _ =>
    follows_value.bind (by decide) fun value =>
    (follows_since start).bind (by decide) fun span => .pure _ (by decide)

theorem follows_directiveBehind (start : Span) :
    Follows left (8 - stepsPerLexeme) 5 (directiveBehind start)
      (Cursor.reading (Cursor.directiveBehind start)) := by
  rw [Cursor.reading_directiveBehind]
  exact follows_name.bind (by decide) fun name =>
    (follows_enclosed (follows_argument name) (by decide) (by decide) (by decide)).bind (by decide)
      fun arguments =>
    (follows_since start).bind (by decide) fun span => .pure _ (by decide)

theorem follows_directives :
    Follows left 3 12 directives (Cursor.passing Cursor.directives) := by
  have followsItem : Follows left (12 - stepsPerLexeme) 9 directive (do
      let start ← Cursor.here
      Cursor.passed
      Cursor.reading (Cursor.directiveBehind start)) :=
    follows_here.bind (by decide) fun start =>
      ((follows_directiveBehind start).allow (by decide) (by decide)).advance
  exact ((follows_sees (.punct .atSign)).repeatWhile followsItem (by decide) (by decide) (by decide)
    (by decide) (by decide) Cursor.directives_unrolls).enter

end Program

end EntityMapping.Document
