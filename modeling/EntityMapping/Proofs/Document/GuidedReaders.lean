import EntityMapping.Proofs.Document.Guidance
import EntityMapping.Proofs.Document.ValueReaders

/-!
# Readers of values, types and directives find mistakes at once

Every reader is guided by the spellings of all values that it can return.
-/

namespace EntityMapping.Document

open EntityMapping.Source
open scoped Computability

/-! ## The spellings of all values -/

/-- The spellings of all values of a type. -/
def anyOf {α : Type} (spelling : α → Language Lexeme) : Language Lexeme :=
  {used | ∃ value, used ∈ spelling value}

theorem mem_single (token : Token) (span : Span) : [⟨token, span⟩] ∈ single token :=
  ⟨span, rfl⟩

section Languages

variable {α β : Type} {spelling : α → Language Lexeme} {other : β → Language Lexeme}
  {language : Language Lexeme}

theorem le_anyOf (spelling : α → Language Lexeme) (value : α) : spelling value ≤ anyOf spelling :=
  fun _ member => ⟨value, member⟩

theorem anyOf_eq_iSup (spelling : α → Language Lexeme) :
    anyOf spelling = ⨆ value, spelling value :=
  Language.ext fun _ => Language.mem_iSup.symm

theorem mul_anyOf : language * anyOf other = anyOf fun content => language * other content := by
  rw [anyOf_eq_iSup, anyOf_eq_iSup, Language.mul_iSup]

theorem anyOf_mul : anyOf spelling * language = anyOf fun value => spelling value * language := by
  rw [anyOf_eq_iSup, anyOf_eq_iSup, Language.iSup_mul]

theorem anyOf_mul_anyOf :
    anyOf spelling * anyOf other = anyOf fun pair : α × β => spelling pair.1 * other pair.2 := by
  calc anyOf spelling * anyOf other
      = ⨆ value, spelling value * anyOf other := by rw [anyOf_mul, anyOf_eq_iSup]
    _ = ⨆ value, ⨆ content, spelling value * other content := by
        simp only [anyOf_eq_iSup, Language.mul_iSup]
    _ = anyOf fun pair : α × β => spelling pair.1 * other pair.2 := by
        rw [anyOf_eq_iSup, iSup_prod]

/-- Spellings one after another spell a list. -/
theorem kstar_anyOf_le : (anyOf spelling)∗ ≤ anyOf (sequenced spelling) := by
  intro used member
  obtain ⟨parts, rfl, spelled⟩ := Language.mem_kstar.mp member
  clear member
  induction parts with
  | nil => exact ⟨[], Language.nil_mem_one⟩
  | cons first rest ih =>
      obtain ⟨value, inFirst⟩ := spelled first List.mem_cons_self
      obtain ⟨values, inRest⟩ :=
        ih fun part among => spelled part (List.mem_cons_of_mem first among)
      refine ⟨value :: values, ?_⟩
      rw [sequenced_cons, List.flatten_cons]
      exact Language.append_mem_mul inFirst inRest

theorem many_le {close : Punctuator} :
    (anyOf spelling)∗ * mark close ≤ anyOf fun values => sequenced spelling values * mark close :=
  (mul_le_mul_left kstar_anyOf_le _).trans anyOf_mul.le

theorem bracketed_le {opening close : Punctuator} :
    1 + mark opening * ((anyOf spelling)∗ * mark close) ≤
      anyOf (bracketed opening close spelling) := by
  refine sup_le (fun used absent => ⟨[], (Language.mem_add _ _ used).mpr (Or.inl absent)⟩) ?_
  refine (mul_le_mul_right many_le _).trans ?_
  rw [mul_anyOf]
  rintro used ⟨values, present⟩
  exact ⟨values, (Language.mem_add _ _ used).mpr (Or.inr present)⟩

end Languages

instance completable_word : Completable (anyOf word) :=
  (completable_single writable_type).mono (le_anyOf word "type")

namespace Cursor

variable {α β : Type} {expected language : Language Lexeme} {cursor : Cursor}

/-! ## Words and punctuators -/

/-- A name of some kind, if each such name can stand there. -/
theorem guided_nameWhere {accepted : String → Bool} {complaint : String → SyntaxCause}
    {remaining : String → Language Lexeme} [Completable expected]
    (inside : ∀ name, ¬ (complaint name).AtEnd) (reach : ∀ name, (complaint name).reach = 1)
    (fits : ∀ name, accepted name = true → ∀ span, ∀ more ∈ remaining name,
      ⟨.name name, span⟩ :: more ∈ expected) :
    Guided expected (nameWhere accepted complaint) remaining cursor := by
  obtain ⟨rest, last⟩ := cursor
  cases rest with
  | nil => exact .refuse_nothing .name rfl
  | cons lexeme rest =>
      obtain ⟨token, span⟩ := lexeme
      cases token with
      | name name =>
          cases isAccepted : accepted name with
          | false =>
              refine .refuse (complaint name) (fun tail => ?_) (inside name) (reach name)
              simp only [nameWhere, Cursor.name, ok_bind, Reading.single, isAccepted,
                Bool.false_eq_true, if_false]
          | true =>
              refine .accept (fun tail => ?_) (fits name isAccepted span)
              simp only [nameWhere, Cursor.name, ok_bind, Reading.single, isAccepted, if_true]
              rfl
      | punct _ => exact .refuse_unwanted .name fun _ => rfl
      | int _ => exact .refuse_unwanted .name fun _ => rfl
      | float _ => exact .refuse_unwanted .name fun _ => rfl
      | string _ => exact .refuse_unwanted .name fun _ => rfl
      | blockString _ => exact .refuse_unwanted .name fun _ => rfl

theorem guides_name : Guides (anyOf word) (reading name) cursor := by
  have every : reading name = nameWhere (fun _ => true) .unknownDefinition := by
    funext cursor
    rw [reading, nameWhere]
    cases name cursor with
    | error error => rfl
    | ok found => rfl
  rw [every]
  refine guided_nameWhere (fun _ => id) (fun _ => rfl) fun name _ span more nothing => ?_
  rw [(Language.mem_one more).mp nothing]
  exact ⟨name, span, rfl⟩

/-- A reader that wants a given token, and complains about any other. -/
theorem guides_wanted {token : Token} {steps : Steps Unit} [Completable (single token)]
    (expectation : Expectation)
    (present : ∀ span tail last, steps ⟨⟨token, span⟩ :: tail, last⟩ = .ok ((), ⟨tail, span⟩))
    (absent : ∀ other : Cursor, Clear [token] other.rest →
      steps other = .error (other.wants expectation)) :
    Guides (single token) steps cursor := by
  obtain ⟨rest, last⟩ := cursor
  cases rest with
  | nil => exact .refuse_nothing expectation (absent ⟨[], last⟩ (clear_nil _))
  | cons lexeme rest =>
      obtain ⟨found, span⟩ := lexeme
      by_cases same : found = token
      · subst same
        exact .accept_last (fun tail => present span tail last) (mem_single found span)
      · have clear : ∀ tail, Clear [token] (⟨found, span⟩ :: tail) :=
          fun tail => clear_cons.mpr (by simpa using same)
        exact .refuse_unwanted expectation fun tail => absent ⟨_, last⟩ (clear tail)

theorem guides_punct (wanted : Punctuator) (expectation : Expectation) :
    Guides (mark wanted) (reading (punct wanted expectation)) cursor := by
  have completable : Completable (single (.punct wanted)) := completable_mark wanted
  refine guides_wanted expectation (fun span tail last => ?_) fun other clear => ?_
  · simp only [reading, punct, if_pos]
    rfl
  · unfold reading punct
    split
    · rename_i found span rest last
      have unwanted : found ≠ wanted := by simpa [Clear] using clear
      rw [if_neg unwanted]
      rfl
    · rfl

/-- A description never fails. -/
theorem guided_description {remaining : Option String → Language Lexeme}
    (fits : ∀ about, ∀ used ∈ describing about, ∀ more ∈ remaining about,
      used ++ more ∈ expected) :
    Guided expected (passing fun cursor => .ok cursor.description) remaining cursor := by
  have absent : Guided expected (pure none) remaining cursor :=
    .pure (fits none [] Language.nil_mem_one)
  obtain ⟨rest, last⟩ := cursor
  cases rest with
  | nil => exact absent.congr_nil rfl
  | cons lexeme rest =>
      obtain ⟨token, span⟩ := lexeme
      cases token with
      | string text =>
          exact .accept (fun _ => rfl) (fits (some text) _ (Or.inl ⟨span, rfl⟩))
      | blockString text =>
          exact .accept (fun _ => rfl) (fits (some text) _ (Or.inr ⟨span, rfl⟩))
      | punct _ => exact absent.congr_cons fun _ => rfl
      | name _ => exact absent.congr_cons fun _ => rfl
      | int _ => exact absent.congr_cons fun _ => rfl
      | float _ => exact absent.congr_cons fun _ => rfl

/-- A reader that looks for a token is guided by what can stand behind the token, or else
without it. -/
theorem guided_branches {token : Token} {steps otherwise : Steps α} {behind : Span → Steps α}
    {present absent : Language Lexeme} {remaining : α → Language Lexeme}
    (branches : Branches token steps behind otherwise)
    (whenPresent : ∀ span rest, cursor.rest = ⟨token, span⟩ :: rest →
      Guided present (behind span) remaining ⟨rest, span⟩)
    (whenAbsent : Clear [token] cursor.rest → Guided absent otherwise remaining cursor) :
    Guided (absent + single token * present) steps remaining cursor := by
  obtain ⟨rest, last⟩ := cursor
  have otherwise_of_clear : Clear [token] rest →
      Guided (absent + single token * present) steps remaining ⟨rest, last⟩ := by
    intro clear
    refine ((whenAbsent clear).mono le_self_add).congr fun other sameHead _ => ?_
    refine branches.absent other ?_
    rw [Clear, sameHead]
    exact clear
  cases rest with
  | nil => exact otherwise_of_clear (clear_nil _)
  | cons lexeme rest =>
      obtain ⟨found, span⟩ := lexeme
      by_cases same : found = token
      · subst same
        refine (whenPresent span rest rfl).behind (fun tail => branches.present span tail last) ?_
        intro more member
        exact (Language.mem_add _ _ _).mpr
          (Or.inr (Language.append_mem_mul (mem_single found span) member))
      · exact otherwise_of_clear (clear_cons.mpr (by simpa using same))

theorem guides_skipPunct (wanted : Punctuator) :
    Guides (1 + mark wanted) (passing fun cursor => .ok (cursor.skipPunct wanted)) cursor := by
  have guided : Guides (1 + mark wanted * 1)
      (passing fun cursor => .ok (cursor.skipPunct wanted)) cursor :=
    guided_branches (skipPunct_branches wanted) (fun _ _ _ => .stop) fun _ => .stop
  rwa [mul_one] at guided

/-! ## Items and names -/

section Items

variable {close : Punctuator} {item : (cursor : Cursor) → Reads α cursor}

theorem guides_many [Completable language]
    (guides : ∀ inner : Cursor, inner.rest.length ≤ cursor.rest.length →
      Guides language (reading item) inner) :
    Guides (language∗ * mark close) (reading (many close item)) cursor := by
  induction cursor using shorter_induction with
  | step cursor ih =>
      have guided : Guides (language * (language∗ * mark close) + mark close * 1)
          (reading (many close item)) cursor := by
        refine guided_branches many_branches (fun _ _ _ => .stop) fun _ => ?_
        refine (guides cursor (Nat.le_refl _)).frame.bind fun first middle stepped => ?_
        have shorter : middle.rest.length < cursor.rest.length := length_lt_of_reading stepped
        exact (ih middle shorter fun inner within =>
          guides inner (Nat.le_trans within (Nat.le_of_lt shorter))).bind fun _ _ _ => .stop
      refine guided.mono (sup_le ?_ ?_)
      · rw [← mul_assoc]
        exact mul_le_mul_left (mul_kstar_le_kstar) _
      · rw [mul_one]
        exact le_mul_of_one_le_left' one_le_kstar

theorem guides_enclosed [Completable language] {opening : Punctuator}
    (guides : ∀ inner : Cursor, Guides language (reading item) inner) :
    Guides (1 + mark opening * (language∗ * mark close))
      (passing (enclosed opening close item)) cursor :=
  guided_branches enclosed_branches (fun _ _ _ => guides_many fun inner _ => guides inner)
    fun _ => .stop

end Items

/-- A reader of items, each behind a sign. -/
theorem guides_signed {sign : Punctuator} {steps : Steps (List α)}
    {item : Span → (cursor : Cursor) → Reads α cursor} [Completable language]
    (branches : Branches (.punct sign) steps
      (fun start => do
        let first ← reading (item start)
        let others ← steps
        return first :: others)
      (pure []))
    (guides : ∀ start (inner : Cursor), Guides language (reading (item start)) inner) :
    Guides (mark sign * language)∗ steps cursor := by
  induction cursor using shorter_induction with
  | step cursor ih =>
      have guided : Guides (1 + mark sign * (language * (mark sign * language)∗)) steps cursor := by
        refine guided_branches branches (fun span rest isSign => ?_) fun _ => .stop
        refine (guides span _).frame.bind fun first middle stepped => ?_
        have shorter : middle.rest.length < rest.length := length_lt_of_reading stepped
        have shorterHere : middle.rest.length < cursor.rest.length := by
          rw [isSign]
          exact Nat.lt_succ_of_lt shorter
        exact (ih middle shorterHere).bind fun others _ _ => .stop
      rw [← mul_assoc, one_add_mul_kstar] at guided
      exact guided

theorem guides_namesBehind (separator : Punctuator) :
    Guides (mark separator * anyOf word)∗ (passing (namesBehind separator)) cursor :=
  guides_signed (namesBehind_branches separator) fun _ _ => guides_name

theorem listing_le (separator : Punctuator) :
    (1 + mark separator) * (anyOf word * (mark separator * anyOf word)∗) ≤
      anyOf (listing separator) := by
  have further : (mark separator * anyOf word)∗ ≤ anyOf (furtherNames separator) := by
    rw [mul_anyOf]
    exact kstar_anyOf_le
  refine (mul_le_mul_right (mul_le_mul_right further _) _).trans ?_
  rw [anyOf_mul_anyOf, mul_anyOf]
  rintro used ⟨⟨first, others⟩, member⟩
  exact ⟨first :: others, member⟩

theorem guides_separatedNames (separator : Punctuator) :
    Guides (anyOf (listing separator)) (reading (separatedNames separator)) cursor := by
  refine Guided.mono ?_ (listing_le separator)
  rw [reading_separatedNames]
  refine (guides_skipPunct separator).frame.bind fun _ _ _ => ?_
  refine guides_name.frame.bind fun first _ _ => ?_
  exact (guides_namesBehind separator).bind fun others _ _ => .stop

/-! ## Values -/

theorem entry_le : anyOf word * (mark .colon * anyOf Value.spelling) ≤
    anyOf Value.entrySpelling := by
  rw [mul_anyOf, anyOf_mul_anyOf]
  exact le_rfl

theorem list_le : mark .bracketOpen * ((anyOf Value.spelling)∗ * mark .bracketClose) ≤
    anyOf Value.spelling := by
  refine (mul_le_mul_right many_le _).trans ?_
  rw [mul_anyOf]
  rintro used ⟨items, member⟩
  refine ⟨.list items, ?_⟩
  rw [Value.spelling, itemsSpelling_eq]
  exact member

theorem object_le : mark .braceOpen * ((anyOf Value.entrySpelling)∗ * mark .braceClose) ≤
    anyOf Value.spelling := by
  refine (mul_le_mul_right many_le _).trans ?_
  rw [mul_anyOf]
  rintro used ⟨fields, member⟩
  refine ⟨.object fields, ?_⟩
  rw [Value.spelling, fieldsSpelling_eq]
  exact member

instance completable_value : Completable (anyOf Value.spelling) :=
  (completable_single writable_type).mono fun used member => ⟨.enum "type", by
    rw [Value.spelling]
    exact member⟩

instance completable_entry : Completable (anyOf Value.entrySpelling) :=
  Completable.mono entry_le

theorem guides_value_of_single {token : Token} {content : Value} {span last : Span}
    {rest : List Lexeme}
    (reads : ∀ rest last,
      value ⟨⟨token, span⟩ :: rest, last⟩ = .ok (.single content rest span)) :
    Guides (anyOf Value.spelling) (reading value) ⟨⟨token, span⟩ :: rest, last⟩ := by
  have steps : ∀ tail, reading value ⟨⟨token, span⟩ :: tail, last⟩ =
      .ok (content, ⟨tail, span⟩) := by
    intro tail
    rw [reading, reads]
    rfl
  obtain ⟨used, member, isSingle, -⟩ := value_sound (reads [] last)
  rw [show used = [⟨token, span⟩] by simpa [Reading.single] using isSingle.symm] at member
  exact .accept_last steps ⟨content, member⟩

/-- A field of an object value, where values in front of shorter rests are guided. -/
theorem guides_entry
    (values : ∀ inner : Cursor, inner.rest.length ≤ cursor.rest.length →
      Guides (anyOf Value.spelling) (reading value) inner) :
    Guides (anyOf Value.entrySpelling) (reading entryReader) cursor := by
  refine Guided.mono ?_ entry_le
  rw [reading_entryReader]
  refine guides_name.frame.bind fun key behindKey readKey => ?_
  refine (guides_punct .colon _).frame.bind fun _ behindColon readColon => ?_
  have shorterKey := length_lt_of_reading readKey
  have shorterColon := length_lt_of_reading readColon
  exact (values behindColon (by omega)).bind fun content _ _ => .stop

/-- A value that begins with a punctuator is a list or an object. -/
theorem guides_value_of_punct {punctuator : Punctuator} {span last : Span} {rest : List Lexeme}
    (values : ∀ inner : Cursor, inner.rest.length ≤ rest.length →
      Guides (anyOf Value.spelling) (reading value) inner) :
    Guides (anyOf Value.spelling) (reading value) ⟨⟨.punct punctuator, span⟩ :: rest, last⟩ := by
  by_cases isBracket : punctuator = .bracketOpen
  · subst isBracket
    have items : Guides ((anyOf Value.spelling)∗ * mark .bracketClose)
        (do return Value.list (← reading (many .bracketClose value))) ⟨rest, span⟩ :=
      (guides_many values).bind fun _ _ _ => .stop
    exact items.behind (fun tail => reading_value_list span last tail) fun more member =>
      list_le (Language.append_mem_mul (mem_single _ span) member)
  by_cases isBrace : punctuator = .braceOpen
  · subst isBrace
    have fields : Guides ((anyOf Value.entrySpelling)∗ * mark .braceClose)
        (do return Value.object (← reading (many .braceClose entryReader))) ⟨rest, span⟩ :=
      (guides_many fun inner within => guides_entry fun deeper below =>
        values deeper (Nat.le_trans below within)).bind fun _ _ _ => .stop
    exact fields.behind (fun tail => reading_value_object span last tail) fun more member =>
      object_le (Language.append_mem_mul (mem_single _ span) member)
  by_cases isDollar : punctuator = .dollar
  · subst isDollar
    refine .refuse .notConstant (fun tail => ?_) id rfl
    rw [reading, value]
    rfl
  · refine .refuse (.notValue (.punct punctuator)) (fun tail => ?_) id rfl
    rw [reading, value]
    · rfl
    all_goals
      rintro rfl
      contradiction

theorem guides_value : Guides (anyOf Value.spelling) (reading value) cursor := by
  induction cursor using shorter_induction with
  | step cursor ih =>
      obtain ⟨rest, last⟩ := cursor
      cases rest with
      | nil => exact .refuse_end .noValue (by rw [reading, value]; rfl) trivial
      | cons lexeme rest =>
          obtain ⟨token, span⟩ := lexeme
          have inner : ∀ inner : Cursor, inner.rest.length ≤ rest.length →
              Guides (anyOf Value.spelling) (reading value) inner :=
            fun inner within => ih inner (Nat.lt_succ_of_le within)
          cases token with
          | int number => exact guides_value_of_single fun _ _ => by rw [value]
          | float number => exact guides_value_of_single fun _ _ => by rw [value]
          | string text => exact guides_value_of_single fun _ _ => by rw [value]
          | blockString text => exact guides_value_of_single fun _ _ => by rw [value]
          | name word => exact guides_value_of_single fun _ _ => by rw [value]
          | punct punctuator => exact guides_value_of_punct inner

/-! ## Type references -/

/-- The spellings of type references without a mark of their own. -/
def bareSpelling : Language Lexeme :=
  {used | ∃ type : TypeRef, type.isNonNull = false ∧ used ∈ type.spelling}

theorem typeRef_le : bareSpelling * (1 + mark .bang) ≤ anyOf TypeRef.spelling := by
  intro used member
  obtain ⟨front, ⟨type, unmarked, inFront⟩, back, inBack, rfl⟩ := Language.mem_mul.mp member
  rcases (Language.mem_add _ _ back).mp inBack with absent | present
  · rw [(Language.mem_one back).mp absent, List.append_nil]
    exact ⟨type, inFront⟩
  · refine ⟨.nonNull type, ?_⟩
    rw [TypeRef.spelling, unmarked]
    exact Language.append_mem_mul inFront present

theorem bare_le : anyOf word + mark .bracketOpen * (anyOf TypeRef.spelling * mark .bracketClose) ≤
    bareSpelling := by
  intro used member
  rcases (Language.mem_add _ _ used).mp member with ⟨name, named⟩ | listed
  · exact ⟨.named name, rfl, named⟩
  · rw [anyOf_mul, mul_anyOf] at listed
    obtain ⟨item, inside⟩ := listed
    exact ⟨.list item, rfl, inside⟩

instance completable_bare : Completable bareSpelling :=
  Completable.mono (le_self_add.trans bare_le)

instance completable_typeRef : Completable (anyOf TypeRef.spelling) :=
  Completable.mono typeRef_le

theorem guides_typeRef : Guides (anyOf TypeRef.spelling) (reading typeRef) cursor := by
  induction cursor using shorter_induction with
  | step cursor ih =>
      have bare : Guides bareSpelling bareTypeRef cursor := by
        refine Guided.mono ?_ bare_le
        refine guided_branches bareTypeRef_branches (fun span rest isOpening => ?_) fun _ => ?_
        · have shorter : rest.length < cursor.rest.length := by
            rw [isOpening]
            exact Nat.lt_succ_self _
          refine (ih ⟨rest, span⟩ shorter).frame.bind fun item _ _ => ?_
          exact (guides_punct .bracketClose _).bind fun _ _ _ => .stop
        · exact guides_name.bind fun _ _ _ => .stop
      refine Guided.mono ?_ typeRef_le
      rw [reading_typeRef]
      refine bare.frame.bind fun inner _ _ => ?_
      exact (guides_skipPunct .bang).bind fun _ _ _ => .stop

/-! ## Directives -/

theorem argument_le :
    anyOf word * (mark .colon * anyOf Value.spelling) ≤ anyOf Argument.spelling := by
  rw [mul_anyOf, anyOf_mul_anyOf]
  rintro used ⟨⟨name, content⟩, member⟩
  exact ⟨⟨name, content, coverage used⟩, member, rfl⟩

instance completable_argument : Completable (anyOf Argument.spelling) :=
  Completable.mono argument_le

theorem guides_argument (directive : String) :
    Guides (anyOf Argument.spelling) (reading (argument directive)) cursor := by
  refine Guided.mono ?_ argument_le
  rw [reading_argument]
  refine Guided.bind_here ?_
  refine guides_name.frame.bind fun name _ _ => ?_
  refine (guides_punct .colon _).frame.bind fun _ _ _ => ?_
  exact guides_value.bind fun content _ _ => .pure_since

theorem directiveBody_le :
    anyOf word * (1 + mark .parenOpen * ((anyOf Argument.spelling)∗ * mark .parenClose)) ≤
      anyOf Directive.body := by
  refine (mul_le_mul_right bracketed_le _).trans ?_
  rw [anyOf_mul_anyOf]
  rintro used ⟨⟨name, arguments⟩, member⟩
  exact ⟨⟨name, arguments, ⟨0, 0⟩⟩, member⟩

theorem directive_le : mark .atSign * anyOf Directive.body ≤ anyOf Directive.spelling := by
  rw [mul_anyOf]
  rintro used ⟨directive, member⟩
  exact ⟨{ directive with span := coverage used }, member, rfl⟩

instance completable_directiveBody : Completable (anyOf Directive.body) :=
  Completable.mono directiveBody_le

theorem guides_directiveBehind (start : Span) :
    Guides (anyOf Directive.body) (reading (directiveBehind start)) cursor := by
  refine Guided.mono ?_ directiveBody_le
  rw [reading_directiveBehind]
  refine guides_name.frame.bind fun name _ _ => ?_
  exact (guides_enclosed fun _ => guides_argument name).bind fun arguments _ _ => .pure_since

theorem guides_directives : Guides (anyOf annotations) (passing directives) cursor := by
  have guided : Guides (mark .atSign * anyOf Directive.body)∗ (passing directives) cursor :=
    guides_signed directives_branches fun start _ => guides_directiveBehind start
  exact guided.mono ((kstar_mono directive_le).trans kstar_anyOf_le)

end Cursor

end EntityMapping.Document
