import EntityMapping.Proofs.Document.Execution
import EntityMapping.Proofs.Document.Steps

/-!
# Programs that follow readers

A program follows a reader if its run from the place of a cursor is orderly and comes to what
the reader comes to.  The steps of the run are paid for by the lexemes that it passes, at a
fixed rate, and by an allowance.  A negative allowance says that something is passed: this is
how loops are known to end, and functions that call themselves to call themselves further
ahead.
-/

namespace EntityMapping.Document.Program

open EntityMapping.Source
open Cursor (Branches steps_bind_ok steps_bind_error)

variable {α β : Type} {lexemes : List Lexeme} {left : Nat}

/-- The number of steps that a passed lexeme pays for. -/
def stepsPerLexeme : Int := 64

/-- A run that comes to the outcome of a reader.  The allowances are those of a run that is
done and of one that fails. -/
inductive ComesTo (lexemes : List Lexeme) (start : Configuration α) (ifDone ifFailed : Int) :
    Except SyntaxError (α × Cursor) → Prop where
  | done {count behind : Nat} {value : α} {last : Span}
      (run : OrderlyRun lexemes count start ⟨.done value, behind, last⟩)
      (paid : count + stepsPerLexeme * start.pos ≤ stepsPerLexeme * behind + ifDone) :
      ComesTo lexemes start ifDone ifFailed (.ok (value, ⟨lexemes.drop behind, last⟩))
  | failed {count behind : Nat} {error : SyntaxError} {last : Span}
      (run : OrderlyRun lexemes count start ⟨.fail error, behind, last⟩)
      (paid : count + stepsPerLexeme * start.pos ≤ stepsPerLexeme * behind + ifFailed) :
      ComesTo lexemes start ifDone ifFailed (.error error)

/-- From every place with fewer lexemes in front of it than the given number, the program comes
to the outcome of the steps. -/
def Follows (left : Nat) (ifDone ifFailed : Int) (program : Program α) (steps : Steps α) : Prop :=
  ∀ (lexemes : List Lexeme) (pos : Nat) (last : Span), pos ≤ lexemes.length →
    lexemes.length < pos + left →
      ComesTo lexemes ⟨program, pos, last⟩ ifDone ifFailed (steps ⟨lexemes.drop pos, last⟩)

namespace ComesTo

variable {ifDone ifFailed : Int} {outcome : Except SyntaxError (α × Cursor)} {pos : Nat}
  {last : Span}

/-- An orderly run comes to what the configuration comes to that it leads to. -/
theorem after {count : Nat} {start middle : Configuration α} {moreDone moreFailed : Int}
    (run : OrderlyRun lexemes count start middle)
    (comes : ComesTo lexemes middle ifDone ifFailed outcome)
    (allowsDone : count + stepsPerLexeme * start.pos + ifDone ≤
      stepsPerLexeme * middle.pos + moreDone)
    (allowsFailed : count + stepsPerLexeme * start.pos + ifFailed ≤
      stepsPerLexeme * middle.pos + moreFailed) :
    ComesTo lexemes start moreDone moreFailed outcome := by
  cases comes with
  | done others paid => exact .done (run.trans others) (by omega)
  | failed others paid => exact .failed (run.trans others) (by omega)

/-- Larger allowances do. -/
theorem allow {start : Configuration α} {moreDone moreFailed : Int}
    (comes : ComesTo lexemes start ifDone ifFailed outcome) (allowsDone : ifDone ≤ moreDone)
    (allowsFailed : ifFailed ≤ moreFailed) : ComesTo lexemes start moreDone moreFailed outcome :=
  after (.refl _) comes (by omega) (by omega)

/-- A step that passes nothing. -/
theorem stay {program next : Program α} {lastBehind : Span}
    (orderly : Orderly lexemes ⟨program, pos, last⟩)
    (stepped : step lexemes ⟨program, pos, last⟩ = some ⟨next, pos, lastBehind⟩)
    (comes : ComesTo lexemes ⟨next, pos, lastBehind⟩ (ifDone - 1) (ifFailed - 1) outcome) :
    ComesTo lexemes ⟨program, pos, last⟩ ifDone ifFailed outcome :=
  after (.head orderly stepped (.refl _)) comes (by simp only; omega) (by simp only; omega)

theorem enter {next : Program α}
    (comes : ComesTo lexemes ⟨next, pos, last⟩ (ifDone - 1) (ifFailed - 1) outcome) :
    ComesTo lexemes ⟨.enter next, pos, last⟩ ifDone ifFailed outcome :=
  stay trivial rfl comes

theorem lookBack {next : Span → Program α}
    (comes : ComesTo lexemes ⟨next last, pos, last⟩ (ifDone - 1) (ifFailed - 1) outcome) :
    ComesTo lexemes ⟨.lookBack next, pos, last⟩ ifDone ifFailed outcome :=
  stay trivial rfl comes

theorem peek {next : Option Lexeme → Program α} {front : Option Lexeme}
    (found : lexemes[pos]? = front)
    (comes : ComesTo lexemes ⟨next front, pos, last⟩ (ifDone - 1) (ifFailed - 1) outcome) :
    ComesTo lexemes ⟨.peek next, pos, last⟩ ifDone ifFailed outcome := by
  subst found
  exact stay trivial rfl comes

theorem advance {next : Program α} {lexeme : Lexeme} (found : lexemes[pos]? = some lexeme)
    (comes : ComesTo lexemes ⟨next, pos + 1, lexeme.span⟩ (ifDone - 1 + stepsPerLexeme)
      (ifFailed - 1 + stepsPerLexeme) outcome) :
    ComesTo lexemes ⟨.advance next, pos, last⟩ ifDone ifFailed outcome := by
  have stepped : step lexemes ⟨.advance next, pos, last⟩ = some ⟨next, pos + 1, lexeme.span⟩ := by
    simp only [step, found]
  exact after (.head trivial stepped (.refl _)) comes (by simp only [stepsPerLexeme]; omega)
    (by simp only [stepsPerLexeme]; omega)

theorem now {value : α} (allowed : 0 ≤ ifDone)
    (isOutcome : outcome = .ok (value, ⟨lexemes.drop pos, last⟩)) :
    ComesTo lexemes ⟨.done value, pos, last⟩ ifDone ifFailed outcome := by
  subst isOutcome
  refine .done (.refl _) ?_
  simp only [stepsPerLexeme]
  omega

theorem failsNow {error : SyntaxError} (allowed : 0 ≤ ifFailed)
    (isOutcome : outcome = .error error) :
    ComesTo lexemes ⟨.fail error, pos, last⟩ ifDone ifFailed outcome := by
  subst isOutcome
  refine .failed (.refl _) ?_
  simp only [stepsPerLexeme]
  omega

/-- With another program behind it, a program comes to what their steps come to together.  The
second one runs further ahead if the allowance of the first is negative. -/
theorem bind {first : Program α} {next : α → Program β} {steps : Steps α}
    {nextSteps : α → Steps β} {firstDone firstFailed : Int}
    (comes : ComesTo lexemes ⟨first, pos, last⟩ firstDone firstFailed
      (steps ⟨lexemes.drop pos, last⟩))
    (within : firstFailed ≤ ifFailed)
    (comesBehind : ∀ value behind lastBehind, pos ≤ behind → behind ≤ lexemes.length →
      (firstDone < 0 → pos < behind) →
        ComesTo lexemes ⟨next value, behind, lastBehind⟩ (ifDone - firstDone)
          (ifFailed - firstDone) (nextSteps value ⟨lexemes.drop behind, lastBehind⟩))
    (inside : pos ≤ lexemes.length) :
    ComesTo lexemes ⟨first >>= next, pos, last⟩ ifDone ifFailed
      ((steps >>= nextSteps) ⟨lexemes.drop pos, last⟩) := by
  generalize isFirst : steps ⟨lexemes.drop pos, last⟩ = firstOutcome at comes
  cases comes with
  | failed run paid =>
      rw [steps_bind_error isFirst]
      refine .failed (run.bind next) ?_
      simp only at paid ⊢
      omega
  | @done count behind value lastBehind run paid =>
      rw [steps_bind_ok isFirst]
      have ahead : firstDone < 0 → pos < behind := by
        simp only [stepsPerLexeme] at paid
        omega
      have comesNext := comesBehind value behind lastBehind run.reaches.pos_le
        (run.reaches.pos_le_length inside) ahead
      generalize nextSteps value ⟨lexemes.drop behind, lastBehind⟩ = outcome at comesNext
      cases comesNext with
      | done others paidBehind =>
          refine .done ((run.bind next).trans others) ?_
          simp only at paid paidBehind ⊢
          omega
      | failed others paidBehind =>
          refine .failed ((run.bind next).trans others) ?_
          simp only at paid paidBehind ⊢
          omega

/-- A run that comes to an outcome ends; it gets ahead if the allowance is negative. -/
theorem settles {program : Program α}
    (comes : ComesTo lexemes ⟨program, pos, last⟩ ifDone ifFailed outcome) :
    Settles lexemes ⟨program, pos, last⟩ fun _ behind => ifDone < 0 → pos < behind := by
  cases comes with
  | failed run paid => exact .inl ⟨_, _, _, _, run.reaches⟩
  | done run paid =>
      refine .inr ⟨_, _, _, _, run.reaches, fun negative => ?_⟩
      simp only [stepsPerLexeme] at paid
      omega

end ComesTo

namespace Follows

variable {ifDone ifFailed firstDone firstFailed : Int} {program first : Program α}
  {steps : Steps α} {next : α → Program β} {nextSteps : α → Steps β}

theorem zero : Follows 0 ifDone ifFailed program steps :=
  fun _ _ _ inside close => absurd (Nat.lt_of_lt_of_le close inside) (Nat.lt_irrefl _)

theorem fewer {less : Nat} (follows : Follows left ifDone ifFailed program steps)
    (fewer : less ≤ left) : Follows less ifDone ifFailed program steps :=
  fun lexemes pos last inside close =>
    follows lexemes pos last inside (Nat.lt_of_lt_of_le close (Nat.add_le_add_left fewer pos))

theorem allow {moreDone moreFailed : Int} (follows : Follows left ifDone ifFailed program steps)
    (allowsDone : ifDone ≤ moreDone) (allowsFailed : ifFailed ≤ moreFailed) :
    Follows left moreDone moreFailed program steps :=
  fun lexemes pos last inside close =>
    (follows lexemes pos last inside close).allow allowsDone allowsFailed

theorem pure (value : α) (allowed : 0 ≤ ifDone) :
    Follows left ifDone ifFailed (Pure.pure value) (Pure.pure value) :=
  fun _ _ _ _ _ => .now allowed rfl

theorem enter (follows : Follows left (ifDone - 1) (ifFailed - 1) program steps) :
    Follows left ifDone ifFailed (.enter program) steps :=
  fun lexemes pos last inside close => .enter (follows lexemes pos last inside close)

/-- One program after another: what the first one takes is not left to the second one. -/
theorem bind (follows : Follows left firstDone firstFailed first steps)
    (within : firstFailed ≤ ifFailed)
    (followsNext : ∀ value,
      Follows left (ifDone - firstDone) (ifFailed - firstDone) (next value) (nextSteps value)) :
    Follows left ifDone ifFailed (first >>= next) (steps >>= nextSteps) := by
  intro lexemes pos last inside close
  refine (follows lexemes pos last inside close).bind within ?_ inside
  intro value behind lastBehind notBack insideBehind _
  exact followsNext value lexemes behind lastBehind insideBehind (by omega)

/-- One program after another that passes something: the second one begins further ahead. -/
theorem bindAhead (follows : Follows left firstDone firstFailed first steps)
    (within : firstFailed ≤ ifFailed) (passes : firstDone < 0)
    (followsNext : ∀ value,
      Follows (left - 1) (ifDone - firstDone) (ifFailed - firstDone) (next value)
        (nextSteps value)) :
    Follows left ifDone ifFailed (first >>= next) (steps >>= nextSteps) := by
  intro lexemes pos last inside close
  refine (follows lexemes pos last inside close).bind within ?_ inside
  intro value behind lastBehind _ insideBehind ahead
  have further := ahead passes
  exact followsNext value lexemes behind lastBehind insideBehind (by omega)

/-! ## Calls and loops -/

/-- A routine is called as its body is run; the call is orderly if the body passes
something. -/
theorem call {routine : Routine} {steps : Steps routine.Result}
    (follows : Follows left (ifDone - 1) (ifFailed - 1) routine.body steps) (passes : ifDone ≤ 0) :
    Follows left ifDone ifFailed (.call routine .done) steps := by
  intro lexemes pos last inside close
  have comes := follows lexemes pos last inside close
  have ahead : Orderly lexemes ⟨.call routine .done, pos, last⟩ := by
    refine comes.settles.imp id ?_
    rintro ⟨count, value, behind, lastBehind, reaches, isAhead⟩
    exact ⟨count, value, behind, lastBehind, reaches, isAhead (by omega)⟩
  refine .stay ahead ?_ comes
  simp only [step, bind_done]

variable {test : Program Bool} {item : Program β} {testSteps : Steps Bool}
  {itemSteps : Steps β} {loopSteps : Steps (List β)} {testDone testFailed itemDone itemFailed : Int}

/-- A round that comes to an item has passed something, if the item does. -/
theorem round (followsTest : Follows left testDone testFailed test testSteps)
    (followsItem : Follows left itemDone itemFailed item itemSteps) (passes : itemDone < 0)
    {lexemes : List Lexeme} {pos : Nat} (last : Span) (inside : pos ≤ lexemes.length)
    (close : lexemes.length < pos + left) :
    Settles lexemes ⟨do if ← test then return some (← item) else return none, pos, last⟩
      fun item behind => item.isSome → pos < behind := by
  have comes := followsTest lexemes pos last inside close
  generalize testSteps ⟨lexemes.drop pos, last⟩ = outcome at comes
  cases comes with
  | failed run _ => exact .inl ⟨_, _, _, _, (run.bind _).reaches⟩
  | @done _ behind goesOn lastBehind run _ =>
      have notBack : pos ≤ behind := run.reaches.pos_le
      have insideBehind := run.reaches.pos_le_length inside
      cases goesOn with
      | false => exact .inr ⟨_, _, _, _, (run.bind _).reaches, fun isItem => by cases isItem⟩
      | true =>
          have comesItem := followsItem lexemes behind lastBehind insideBehind (by omega)
          have roundBehind := run.bind fun goesOn =>
            if goesOn then (item.bind fun found => .done (some found)) else .done none
          generalize itemSteps ⟨lexemes.drop behind, lastBehind⟩ = outcome at comesItem
          cases comesItem with
          | failed itemRun _ =>
              exact .inl ⟨_, _, _, _, (roundBehind.trans (itemRun.bind _)).reaches⟩
          | done itemRun paid =>
              refine .inr ⟨_, _, _, _, (roundBehind.trans (itemRun.bind _)).reaches, fun _ => ?_⟩
              simp only [stepsPerLexeme] at paid ⊢
              omega

/-- A loop each of whose rounds passes enough to pay for itself; what remains to be paid is its
last test. -/
theorem repeatWhile (followsTest : Follows left testDone testFailed test testSteps)
    (followsItem : Follows left itemDone itemFailed item itemSteps)
    (paysRound : itemDone + testDone + 1 ≤ 0) (testCosts : 0 ≤ testDone)
    (allowsTest : testFailed + 1 ≤ ifFailed) (allowsItem : itemFailed + testDone + 1 ≤ ifFailed)
    (allowed : testDone + 1 ≤ ifDone)
    (unrolls : loopSteps = do
      if ← testSteps then do
        let first ← itemSteps
        let others ← loopSteps
        return first :: others
      else return []) :
    Follows left ifDone ifFailed (.repeatWhile test item) loopSteps := by
  induction left generalizing ifDone ifFailed with
  | zero => exact zero
  | succ left ih =>
      have followsOthers := ih (followsTest.fewer (Nat.le_succ left))
        (followsItem.fewer (Nat.le_succ left)) allowsTest allowsItem (Int.le_refl _)
      intro lexemes pos last inside close
      have orderly := round followsTest followsItem (by omega) last inside close
      refine .stay orderly (step_repeatWhile test item pos last) ?_
      rw [unrolls]
      refine (followsTest.bind (by omega) fun goesOn => ?_) lexemes pos last inside close
      cases goesOn with
      | false => exact pure _ (by omega)
      | true =>
          refine followsItem.bindAhead (by omega) (by omega) fun first => ?_
          exact followsOthers.bind (by omega) fun others => pure _ (by omega)

end Follows

end EntityMapping.Document.Program
