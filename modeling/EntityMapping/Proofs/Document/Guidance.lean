import Mathlib.Order.CompletePartialOrder
import EntityMapping.Proofs.Document.Cutting
import EntityMapping.Proofs.Document.Steps

/-!
# Mistakes are found at once

While a reader reads, the language of what it is still to read is known.  The reader is
guided by the language if it consumes what the language asks for, and if it complains about
the first lexeme with which no sequence of the language goes on.  Its complaint then depends
on the lexemes up to that one only, and so does what it has read before.
-/

namespace EntityMapping.Document

open EntityMapping.Source
open EntityMapping.Text
open scoped Computability

/-! ## Beginnings that can be completed -/

/-- A token that a text can consist of. -/
def Writable (token : Token) : Prop :=
  ∃ source span, lexemes source = .ok [⟨token, span⟩]

/-- A token that a text is all of can be written. -/
theorem writable_of_first {c : Char} {rest : List Char} {token : Token}
    (begins : beginsGap c = false) (first : Piece.first c rest = ⟨some token, c :: rest, []⟩) :
    Writable token := by
  have cuts := Cuts.single begins first 0
  rw [← String.toList_ofList (l := c :: rest)] at cuts
  exact ⟨_, _, lexemes_eq_ok_iff.mpr cuts⟩

theorem writable_punct (punctuator : Punctuator) : Writable (.punct punctuator) := by
  have alone : ∃ c rest, beginsGap c = false ∧
      Piece.first c rest = ⟨some (.punct punctuator), c :: rest, []⟩ := by
    cases punctuator with
    | bang => exact ⟨'!', [], rfl, rfl⟩
    | dollar => exact ⟨'$', [], rfl, rfl⟩
    | ampersand => exact ⟨'&', [], rfl, rfl⟩
    | parenOpen => exact ⟨'(', [], rfl, rfl⟩
    | parenClose => exact ⟨')', [], rfl, rfl⟩
    | spread => exact ⟨'.', ['.', '.'], rfl, rfl⟩
    | colon => exact ⟨':', [], rfl, rfl⟩
    | equals => exact ⟨'=', [], rfl, rfl⟩
    | atSign => exact ⟨'@', [], rfl, rfl⟩
    | bracketOpen => exact ⟨'[', [], rfl, rfl⟩
    | bracketClose => exact ⟨']', [], rfl, rfl⟩
    | braceOpen => exact ⟨'{', [], rfl, rfl⟩
    | pipe => exact ⟨'|', [], rfl, rfl⟩
    | braceClose => exact ⟨'}', [], rfl, rfl⟩
  obtain ⟨c, rest, begins, first⟩ := alone
  exact writable_of_first begins first

theorem writable_type : Writable (.name "type") := by
  have isName : Piece.first 't' ['y', 'p', 'e'] = ⟨some (.name "type"), ['t', 'y', 'p', 'e'], []⟩ :=
    rfl
  exact writable_of_first rfl isName

theorem writable_on : Writable (.name "on") := by
  have isName : Piece.first 'o' ['n'] = ⟨some (.name "on"), ['o', 'n'], []⟩ := rfl
  exact writable_of_first rfl isName

/-- What the sequences of a language begin with, if tokens that can be written complete
them. -/
def begun (language : Language Lexeme) : Language Lexeme :=
  {front | ∃ more, (∀ lexeme ∈ more, Writable lexeme.token) ∧ front ++ more ∈ language}

/-- Some sequence of the language can be written. -/
class Completable (language : Language Lexeme) : Prop where
  nil_mem_begun : [] ∈ begun language

section Completions

variable {left right language : Language Lexeme} {front : List Lexeme}

theorem begun_mono (subset : left ≤ right) (member : front ∈ begun left) :
    front ∈ begun right := by
  obtain ⟨more, written, inLeft⟩ := member
  exact ⟨more, written, subset inLeft⟩

theorem Completable.mono [completable : Completable left] (subset : left ≤ right) :
    Completable right :=
  ⟨begun_mono subset completable.nil_mem_begun⟩

instance completable_one : Completable 1 :=
  ⟨[], List.forall_mem_nil _, Language.nil_mem_one⟩

theorem completable_single {token : Token} (writable : Writable token) :
    Completable (single token) :=
  ⟨[⟨token, ⟨0, 0⟩⟩], List.forall_mem_singleton.mpr writable, ⟨0, 0⟩, rfl⟩

instance completable_mark (punctuator : Punctuator) : Completable (mark punctuator) :=
  completable_single (writable_punct punctuator)

/-- What begins a part begins the whole, if the rest can be written. -/
theorem mem_begun_mul [completable : Completable right] (member : front ∈ begun left) :
    front ∈ begun (left * right) := by
  obtain ⟨more, written, inLeft⟩ := member
  obtain ⟨rest, writtenRest, inRight⟩ := completable.nil_mem_begun
  refine ⟨more ++ rest, List.forall_mem_append.mpr ⟨written, writtenRest⟩, ?_⟩
  rw [← List.append_assoc]
  exact Language.append_mem_mul inLeft inRight

instance completable_mul [completable : Completable left] [Completable right] :
    Completable (left * right) :=
  ⟨mem_begun_mul completable.nil_mem_begun⟩

instance completable_add [completable : Completable left] : Completable (left + right) :=
  completable.mono le_self_add

instance completable_kstar : Completable language∗ :=
  completable_one.mono one_le_kstar

end Completions

/-! ## Complaints -/

/-- Something was wanted where the input ends. -/
def SyntaxCause.AtEnd : SyntaxCause → Prop
  | unexpected _ found => found = none
  | noValue => True
  | _ => False

/-- The number of lexemes that a reader has looked at from the one on that it complains
about.  A described extension is complained about at the description, as soon as the
keyword has been seen. -/
def SyntaxCause.reach : SyntaxCause → Nat
  | describedExtension => 2
  | _ => 1

/-- A complaint at a cursor in front of which a language should stand: either the input ends
and could have gone on, or it stops going on in the language with the lexemes that the reader
has looked at, and whatever follows them leads to the same complaint. -/
inductive Blames {α : Type} (expected : Language Lexeme)
    (steps : Cursor → Except SyntaxError α) (cursor : Cursor) (error : SyntaxError) : Prop where
  | atEnd (ends : error.cause.AtEnd) (begins : cursor.rest ∈ begun expected)
      (place : error.span = (lastSpan cursor.last cursor.rest).endPoint)
  | within (inside : ¬ error.cause.AtEnd) (kept : List Lexeme) (first : Lexeme)
      (others behind : List Lexeme) (split : cursor.rest = kept ++ first :: (others ++ behind))
      (place : error.span = first.span) (reach : (first :: others).length = error.cause.reach)
      (begins : kept ++ (first :: others).dropLast ∈ begun expected)
      (same : ∀ more, steps ⟨kept ++ first :: (others ++ more), cursor.last⟩ = .error error)

/-- Steps at a cursor in front of which a language should stand.  They consume a beginning
of it, behind which the remaining language should stand, and decide so by the lexemes they
consume and the next one; or they complain. -/
structure Guided {α : Type} (expected : Language Lexeme) (steps : Steps α)
    (remaining : α → Language Lexeme) (cursor : Cursor) : Prop where
  taken : ∀ value next, steps cursor = .ok (value, next) →
    ∃ used, cursor.rest = used ++ next.rest ∧ next.last = lastSpan cursor.last used ∧
      (∀ more ∈ remaining value, used ++ more ∈ expected) ∧
      ∀ tail : List Lexeme, tail.head? = next.rest.head? →
        steps ⟨used ++ tail, cursor.last⟩ = .ok (value, ⟨tail, next.last⟩)
  blamed : ∀ error, steps cursor = .error error → Blames expected steps cursor error

/-- Steps that read a sequence of a language. -/
abbrev Guides {α : Type} (language : Language Lexeme) (steps : Steps α) (cursor : Cursor) :
    Prop :=
  Guided language steps (fun _ => 1) cursor

section Rules

variable {α β : Type} {expected wider language : Language Lexeme} {cursor : Cursor}
  {remaining : α → Language Lexeme}

theorem head?_append_congr {used left right : List Lexeme} (same : left.head? = right.head?) :
    (used ++ left).head? = (used ++ right).head? := by
  rw [List.head?_append, List.head?_append, same]

/-- A complaint about what stands behind some lexemes is one about what stands before. -/
theorem Blames.behind {steps : Cursor → Except SyntaxError α}
    {whole : Cursor → Except SyntaxError β} {next : Cursor} {error : SyntaxError}
    (blames : Blames language steps next error) (used : List Lexeme)
    (rest : cursor.rest = used ++ next.rest) (last : next.last = lastSpan cursor.last used)
    (fits : ∀ more ∈ language, used ++ more ∈ expected)
    (fails : ∀ tail : List Lexeme, tail.head? = next.rest.head? →
      steps ⟨tail, next.last⟩ = .error error → whole ⟨used ++ tail, cursor.last⟩ = .error error) :
    Blames expected whole cursor error := by
  have begun_behind : ∀ front ∈ begun language, used ++ front ∈ begun expected := by
    rintro front ⟨more, written, member⟩
    exact ⟨more, written, by rw [List.append_assoc]; exact fits _ member⟩
  cases blames with
  | atEnd ends begins place =>
      refine .atEnd ends (rest ▸ begun_behind _ begins) ?_
      rw [place, last, rest, lastSpan_append]
  | within inside kept first others behind split place reach begins same =>
      refine .within inside (used ++ kept) first others behind ?_ place reach ?_ fun more => ?_
      · rw [rest, split, List.append_assoc]
      · rw [List.append_assoc]
        exact begun_behind _ begins
      · rw [List.append_assoc]
        refine fails _ ?_ (same more)
        rw [split]
        exact head?_append_congr rfl

theorem Blames.mono {steps : Cursor → Except SyntaxError α} {error : SyntaxError}
    (blames : Blames expected steps cursor error)
    (subset : ∀ front ∈ begun expected, front ∈ begun wider) :
    Blames wider steps cursor error := by
  cases blames with
  | atEnd ends begins place => exact .atEnd ends (subset _ begins) place
  | within inside kept first others behind split place reach begins same =>
      exact .within inside kept first others behind split place reach (subset _ begins) same

namespace Guided

theorem mono {steps : Steps α} (guided : Guided expected steps remaining cursor)
    (subset : expected ≤ wider) : Guided wider steps remaining cursor where
  taken value next stepped := by
    obtain ⟨used, rest, last, fits, stable⟩ := guided.taken value next stepped
    exact ⟨used, rest, last, fun more member => subset (fits more member), stable⟩
  blamed error failed := (guided.blamed error failed).mono fun _ => begun_mono subset

/-- Behind what a reader reads, something else may be wanted. -/
theorem frame {steps : Steps α} [Completable language] (guided : Guides expected steps cursor) :
    Guided (expected * language) steps (fun _ => language) cursor where
  taken value next stepped := by
    obtain ⟨used, rest, last, fits, stable⟩ := guided.taken value next stepped
    refine ⟨used, rest, last, fun more member => ?_, stable⟩
    have whole := fits [] Language.nil_mem_one
    rw [List.append_nil] at whole
    exact Language.append_mem_mul whole member
  blamed error failed := (guided.blamed error failed).mono fun _ => mem_begun_mul

theorem pure {value : α} (fits : remaining value ≤ expected) :
    Guided expected (pure value) remaining cursor where
  taken result next stepped := by
    cases stepped
    exact ⟨[], rfl, rfl, fun more member => fits member, fun tail _ => rfl⟩
  blamed error failed := by cases failed

theorem stop {value : α} : Guides 1 (Pure.pure value) cursor :=
  pure le_rfl

theorem bind {first : Steps α} {next : α → Steps β} {final : β → Language Lexeme}
    (guided : Guided expected first remaining cursor)
    (behind : ∀ value middle, first cursor = .ok (value, middle) →
      Guided (remaining value) (next value) final middle) :
    Guided expected (first >>= next) final cursor where
  taken result last stepped := by
    cases isFirst : first cursor with
    | error error => cases (Cursor.steps_bind_error isFirst).symm.trans stepped
    | ok found =>
        obtain ⟨value, middle⟩ := found
        rw [Cursor.steps_bind_ok isFirst] at stepped
        obtain ⟨front, restFront, lastFront, fitsFront, stableFront⟩ :=
          guided.taken value middle isFirst
        obtain ⟨back, restBack, lastBack, fitsBack, stableBack⟩ :=
          (behind value middle isFirst).taken result last stepped
        refine ⟨front ++ back, ?_, ?_, fun more member => ?_, fun tail same => ?_⟩
        · rw [restFront, restBack, List.append_assoc]
        · rw [lastBack, lastFront, lastSpan_append]
        · rw [List.append_assoc]
          exact fitsFront _ (fitsBack more member)
        · rw [List.append_assoc]
          have sameHead : (back ++ tail).head? = middle.rest.head? := by
            rw [restBack]
            exact head?_append_congr same
          rw [Cursor.steps_bind_ok (stableFront _ sameHead)]
          exact stableBack tail same
  blamed error failed := by
    cases isFirst : first cursor with
    | error fault =>
        cases (Cursor.steps_bind_error isFirst).symm.trans failed
        refine (guided.blamed error isFirst).behind [] rfl rfl (fun _ member => member) ?_
        exact fun tail _ fails => Cursor.steps_bind_error fails
    | ok found =>
        obtain ⟨value, middle⟩ := found
        rw [Cursor.steps_bind_ok isFirst] at failed
        obtain ⟨front, rest, last, fits, stableFront⟩ := guided.taken value middle isFirst
        refine ((behind value middle isFirst).blamed error failed).behind front rest last fits ?_
        intro tail same fails
        rw [Cursor.steps_bind_ok (stableFront tail same)]
        exact fails

/-- Steps that do the same wherever the same lexeme comes next. -/
theorem congr {steps others : Steps α}
    (guided : Guided expected others remaining cursor)
    (agree : ∀ other : Cursor, other.rest.head? = cursor.rest.head? → other.last = cursor.last →
      steps other = others other) :
    Guided expected steps remaining cursor where
  taken value next stepped := by
    rw [agree cursor rfl rfl] at stepped
    obtain ⟨used, rest, last, fits, stable⟩ := guided.taken value next stepped
    refine ⟨used, rest, last, fits, fun tail same => ?_⟩
    rw [agree ⟨used ++ tail, cursor.last⟩ (by rw [rest]; exact head?_append_congr same) rfl]
    exact stable tail same
  blamed error failed := by
    rw [agree cursor rfl rfl] at failed
    refine (guided.blamed error failed).behind [] rfl rfl (fun _ member => member) ?_
    intro tail same fails
    rw [List.nil_append, agree ⟨tail, cursor.last⟩ same rfl]
    exact fails

/-- The place where a reader starts is that of the next lexeme. -/
theorem bind_here {next : Span → Steps α}
    (guided : Guided expected (next cursor.span) remaining cursor) :
    Guided expected (Cursor.here >>= next) remaining cursor := by
  refine guided.congr fun other sameHead sameLast => ?_
  have samePlace : other.span = cursor.span := by
    obtain ⟨rest, last⟩ := cursor
    obtain ⟨otherRest, otherLast⟩ := other
    obtain rfl : otherLast = last := sameLast
    cases otherRest with
    | nil =>
        cases rest with
        | nil => rfl
        | cons lexeme rest => cases sameHead
    | cons lexeme otherRest =>
        cases rest with
        | nil => cases sameHead
        | cons _ rest =>
            cases sameHead
            rfl
  rw [Cursor.here_bind, samePlace]

/-- What has been read is returned with its place. -/
theorem pure_since {start : Span} {result : Span → α} :
    Guides 1 (do return result (← Cursor.since start)) cursor where
  taken value next stepped := by
    cases stepped
    exact ⟨[], rfl, rfl, fun more member => member, fun tail _ => rfl⟩
  blamed error failed := by cases failed

/-! ## Single lexemes -/

variable {lexeme : Lexeme} {rest : List Lexeme} {last : Span}

/-- Steps that do the same whatever stands behind the next lexeme. -/
theorem congr_cons {steps others : Steps α}
    (guided : Guided expected others remaining ⟨lexeme :: rest, last⟩)
    (agree : ∀ tail, steps ⟨lexeme :: tail, last⟩ = others ⟨lexeme :: tail, last⟩) :
    Guided expected steps remaining ⟨lexeme :: rest, last⟩ := by
  refine guided.congr ?_
  rintro ⟨otherRest, otherLast⟩ sameHead sameLast
  obtain rfl : otherLast = last := sameLast
  cases otherRest with
  | nil => cases sameHead
  | cons other tail =>
      obtain rfl : other = lexeme := Option.some.inj sameHead
      exact agree tail

/-- Steps that do the same at the end of the input. -/
theorem congr_nil {steps others : Steps α}
    (guided : Guided expected others remaining ⟨[], last⟩)
    (agree : steps ⟨[], last⟩ = others ⟨[], last⟩) :
    Guided expected steps remaining ⟨[], last⟩ := by
  refine guided.congr ?_
  rintro ⟨otherRest, otherLast⟩ sameHead sameLast
  obtain rfl : otherLast = last := sameLast
  cases otherRest with
  | nil => exact agree
  | cons other tail => cases sameHead

/-- Steps that read the next lexeme and go on behind it. -/
theorem behind {steps others : Steps α}
    (guided : Guided language others remaining ⟨rest, lexeme.span⟩)
    (agree : ∀ tail, steps ⟨lexeme :: tail, last⟩ = others ⟨tail, lexeme.span⟩)
    (fits : ∀ more ∈ language, lexeme :: more ∈ expected) :
    Guided expected steps remaining ⟨lexeme :: rest, last⟩ where
  taken value next stepped := by
    rw [agree] at stepped
    obtain ⟨used, restBehind, lastBehind, fitsBehind, stable⟩ := guided.taken value next stepped
    refine ⟨lexeme :: used, congrArg (lexeme :: ·) restBehind, lastBehind, ?_, fun tail same => ?_⟩
    · exact fun more member => fits _ (fitsBehind more member)
    · exact (agree _).trans (stable tail same)
  blamed error failed := by
    rw [agree] at failed
    refine (guided.blamed error failed).behind [lexeme] rfl rfl fits ?_
    intro tail _ fails
    exact (agree tail).trans fails

/-- Steps that read the next lexeme only. -/
theorem accept {steps : Steps α} {value : α}
    (agree : ∀ tail, steps ⟨lexeme :: tail, last⟩ = .ok (value, ⟨tail, lexeme.span⟩))
    (fits : ∀ more ∈ remaining value, lexeme :: more ∈ expected) :
    Guided expected steps remaining ⟨lexeme :: rest, last⟩ := by
  have guided : Guided (remaining value) (Pure.pure value) remaining ⟨rest, lexeme.span⟩ :=
    .pure le_rfl
  exact guided.behind agree fits

/-- Steps that read the next lexeme, with which a sequence of the language ends. -/
theorem accept_last {steps : Steps α} {value : α}
    (agree : ∀ tail, steps ⟨lexeme :: tail, last⟩ = .ok (value, ⟨tail, lexeme.span⟩))
    (member : [lexeme] ∈ expected) : Guides expected steps ⟨lexeme :: rest, last⟩ := by
  refine accept agree fun more nothing => ?_
  rw [(Language.mem_one more).mp nothing]
  exact member

/-- Steps that complain about the next lexeme. -/
theorem refuse {steps : Steps α} [completable : Completable expected] (cause : SyntaxCause)
    (fails : ∀ tail, steps ⟨lexeme :: tail, last⟩ = .error ⟨cause, lexeme.span⟩)
    (inside : ¬ cause.AtEnd) (reach : cause.reach = 1) :
    Guided expected steps remaining ⟨lexeme :: rest, last⟩ where
  taken value next stepped := by
    rw [fails] at stepped
    cases stepped
  blamed error failed := by
    rw [fails] at failed
    cases failed
    exact .within inside [] lexeme [] rest rfl rfl reach.symm completable.nil_mem_begun fails

/-- Steps that want something else than the next lexeme. -/
theorem refuse_unwanted {steps : Steps α} [Completable expected] (wanted : Expectation)
    (fails : ∀ tail, steps ⟨lexeme :: tail, last⟩ =
      .error (Cursor.wants ⟨lexeme :: tail, last⟩ wanted)) :
    Guided expected steps remaining ⟨lexeme :: rest, last⟩ :=
  refuse (.unexpected wanted (some lexeme.token)) fails nofun rfl

/-- Steps that complain about the end of the input. -/
theorem refuse_end {steps : Steps α} [completable : Completable expected] (cause : SyntaxCause)
    (fails : steps ⟨[], last⟩ = .error ⟨cause, last.endPoint⟩) (ends : cause.AtEnd) :
    Guided expected steps remaining ⟨[], last⟩ where
  taken value next stepped := by
    rw [fails] at stepped
    cases stepped
  blamed error failed := by
    rw [fails] at failed
    cases failed
    exact .atEnd ends completable.nil_mem_begun rfl

/-- Steps that want something where the input ends. -/
theorem refuse_nothing {steps : Steps α} [Completable expected] (wanted : Expectation)
    (fails : steps ⟨[], last⟩ = .error (Cursor.wants ⟨[], last⟩ wanted)) :
    Guided expected steps remaining ⟨[], last⟩ :=
  refuse_end (.unexpected wanted none) fails rfl

end Guided

end Rules

end EntityMapping.Document
