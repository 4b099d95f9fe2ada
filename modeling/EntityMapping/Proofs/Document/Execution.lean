import EntityMapping.Proofs.Document.Programs

/-!
# Running programs

The steps that a program takes over a list of lexemes, and what every run keeps to: the
position only moves forward and never past the end.  A run is orderly if each round of each of
its loops, and each function it calls that calls itself, comes to an end and fails or leaves
the position further ahead.
-/

namespace EntityMapping.Document.Program

open EntityMapping.Source

variable {α β : Type} {lexemes : List Lexeme}

/-- What is left to do, the position among the lexemes, and where the lexeme stands that was
passed last. -/
structure Configuration (α : Type) where
  program : Program α
  pos : Nat
  last : Span

/-- What a loop does with the outcome of a round. -/
def afterRound (round : Program (Option β)) (next : List β → Program α) :
    Option β → Program α
  | none => next []
  | some item => .iterate round fun items => next (item :: items)

/-- The next step.  A program that is done or failed takes none. -/
def step (lexemes : List Lexeme) : Configuration α → Option (Configuration α)
  | ⟨.done _, _, _⟩ => none
  | ⟨.fail _, _, _⟩ => none
  | ⟨.peek next, pos, last⟩ => some ⟨next lexemes[pos]?, pos, last⟩
  | ⟨.lookBack next, pos, last⟩ => some ⟨next last, pos, last⟩
  | ⟨.advance next, pos, last⟩ =>
      match lexemes[pos]? with
      | some lexeme => some ⟨next, pos + 1, lexeme.span⟩
      | none => some ⟨next, pos, last⟩
  | ⟨.enter next, pos, last⟩ => some ⟨next, pos, last⟩
  | ⟨.call routine next, pos, last⟩ => some ⟨routine.body.bind next, pos, last⟩
  | ⟨.iterate round next, pos, last⟩ => some ⟨round.bind (afterRound round next), pos, last⟩

/-- A loop tests, and then reads an item and goes on, or ends. -/
theorem step_repeatWhile (test : Program Bool) (item : Program β) (pos : Nat) (last : Span) :
    step lexemes ⟨repeatWhile test item, pos, last⟩ = some {
      program := do
        if ← test then do
          let first ← item
          let others ← repeatWhile test item
          return first :: others
        else return []
      pos := pos
      last := last } := by
  refine congrArg (fun program => some (Configuration.mk program pos last)) ?_
  refine Eq.trans (bind_bind test _ _) (congrArg test.bind (funext fun goesOn => ?_))
  cases goesOn with
  | false => rfl
  | true => exact bind_bind item _ _

/-- One configuration comes from another in a number of steps. -/
inductive Reaches (lexemes : List Lexeme) :
    Nat → Configuration α → Configuration α → Prop where
  | refl (here : Configuration α) : Reaches lexemes 0 here here
  | head {count : Nat} {first second last : Configuration α}
      (stepped : step lexemes first = some second) (others : Reaches lexemes count second last) :
      Reaches lexemes (count + 1) first last

/-- The run from a configuration ends: it fails, or it ends with a value that is accepted at
the position where it ends. -/
def Settles (lexemes : List Lexeme) (start : Configuration α) (accepted : α → Nat → Prop) :
    Prop :=
  (∃ count error behind last, Reaches lexemes count start ⟨.fail error, behind, last⟩) ∨
    ∃ count value behind last,
      Reaches lexemes count start ⟨.done value, behind, last⟩ ∧ accepted value behind

/-- If a routine is called next, it fails or gets ahead; and if the round of a loop is run
next, it fails, ends the loop or gets ahead. -/
def Orderly (lexemes : List Lexeme) : Configuration α → Prop
  | ⟨.call routine _, pos, last⟩ =>
      Settles lexemes ⟨routine.body, pos, last⟩ fun _ behind => pos < behind
  | ⟨.iterate round _, pos, last⟩ =>
      Settles lexemes ⟨round, pos, last⟩ fun item behind => item.isSome → pos < behind
  | _ => True

/-! ## The position -/

theorem pos_le_of_step {here next : Configuration α} (stepped : step lexemes here = some next) :
    here.pos ≤ next.pos := by
  obtain ⟨program, pos, last⟩ := here
  cases program with
  | done value => cases stepped
  | fail error => cases stepped
  | advance rest =>
      simp only [step] at stepped
      split at stepped
      · cases stepped
        exact Nat.le_succ pos
      · cases stepped
        exact Nat.le_refl pos
  | peek | lookBack | enter | call | iterate =>
      cases stepped
      exact Nat.le_refl pos

/-- A step does not lead past the end. -/
theorem pos_le_length_of_step {here next : Configuration α}
    (stepped : step lexemes here = some next) (inside : here.pos ≤ lexemes.length) :
    next.pos ≤ lexemes.length := by
  obtain ⟨program, pos, last⟩ := here
  cases program with
  | done value => cases stepped
  | fail error => cases stepped
  | advance rest =>
      simp only [step] at stepped
      split at stepped
      · rename_i lexeme found
        cases stepped
        exact (List.getElem?_eq_some_iff.mp found).1
      · cases stepped
        exact inside
  | peek | lookBack | enter | call | iterate =>
      cases stepped
      exact inside

theorem Reaches.pos_le {count : Nat} {here there : Configuration α}
    (reaches : Reaches lexemes count here there) : here.pos ≤ there.pos := by
  induction reaches with
  | refl here => exact Nat.le_refl _
  | head stepped _ ih => exact Nat.le_trans (pos_le_of_step stepped) ih

theorem Reaches.pos_le_length {count : Nat} {here there : Configuration α}
    (reaches : Reaches lexemes count here there) (inside : here.pos ≤ lexemes.length) :
    there.pos ≤ lexemes.length := by
  induction reaches with
  | refl here => exact inside
  | head stepped _ ih => exact ih (pos_le_length_of_step stepped inside)

/-! ## Programs in front of others -/

/-- A step is the same step with something left to do behind it. -/
theorem step_bind {program next : Program α} {pos behind : Nat} {last lastBehind : Span}
    (stepped : step lexemes ⟨program, pos, last⟩ = some ⟨next, behind, lastBehind⟩)
    (rest : α → Program β) :
    step lexemes ⟨program.bind rest, pos, last⟩ =
      some ⟨next.bind rest, behind, lastBehind⟩ := by
  cases program with
  | done value => cases stepped
  | fail error => cases stepped
  | advance further =>
      simp only [step] at stepped
      simp only [bind, step]
      split at stepped
      · cases stepped
        rfl
      · cases stepped
        rfl
  | call routine further =>
      cases stepped
      simp only [bind, step, bind_bind]
  | iterate round further =>
      cases stepped
      simp only [bind, step, bind_bind]
      refine congrArg (fun after => some (Configuration.mk (round.bind after) pos last))
        (funext fun item => ?_)
      cases item with
      | none => rfl
      | some item => rfl
  | peek | lookBack | enter =>
      cases stepped
      rfl

theorem Orderly.bind {program : Program α} {pos : Nat} {last : Span}
    (orderly : Orderly lexemes ⟨program, pos, last⟩)
    (unfinished : ∀ value, program ≠ .done value) (rest : α → Program β) :
    Orderly lexemes ⟨program.bind rest, pos, last⟩ := by
  cases program with
  | done value => exact absurd rfl (unfinished value)
  | call routine further => exact orderly
  | iterate round further => exact orderly
  | fail | peek | lookBack | advance | enter => trivial

/-! ## Orderly runs -/

/-- A run all of whose steps are taken from orderly configurations. -/
inductive OrderlyRun (lexemes : List Lexeme) :
    Nat → Configuration α → Configuration α → Prop where
  | refl (here : Configuration α) : OrderlyRun lexemes 0 here here
  | head {count : Nat} {first second last : Configuration α}
      (orderly : Orderly lexemes first) (stepped : step lexemes first = some second)
      (others : OrderlyRun lexemes count second last) :
      OrderlyRun lexemes (count + 1) first last

namespace OrderlyRun

theorem reaches {count : Nat} {here there : Configuration α}
    (run : OrderlyRun lexemes count here there) : Reaches lexemes count here there := by
  induction run with
  | refl here => exact .refl here
  | head _ stepped _ ih => exact .head stepped ih

theorem trans {firstCount secondCount : Nat} {here middle there : Configuration α}
    (first : OrderlyRun lexemes firstCount here middle)
    (second : OrderlyRun lexemes secondCount middle there) :
    OrderlyRun lexemes (firstCount + secondCount) here there := by
  induction first with
  | refl here => rwa [Nat.zero_add]
  | head orderly stepped _ ih =>
      rw [Nat.succ_add]
      exact .head orderly stepped (ih second)

/-- A program runs in the same way with something left to do behind it. -/
theorem bind {count : Nat} {here there : Configuration α}
    (run : OrderlyRun lexemes count here there) (rest : α → Program β) :
    OrderlyRun lexemes count ⟨here.program.bind rest, here.pos, here.last⟩
      ⟨there.program.bind rest, there.pos, there.last⟩ := by
  induction run with
  | refl here => exact .refl _
  | @head count first second there orderly stepped _ ih =>
      have unfinished : ∀ value, first.program ≠ .done value := by
        obtain ⟨program, pos, last⟩ := first
        rintro value rfl
        cases stepped
      exact .head (orderly.bind unfinished rest) (step_bind stepped rest) ih

/-- If a run is orderly up to its end, everything that can be reached from its beginning lies
on it. -/
theorem orderly_of_reaches {count reached : Nat} {start final there : Configuration α}
    (run : OrderlyRun lexemes count start final) (halted : step lexemes final = none)
    (orderly : Orderly lexemes final) (reaches : Reaches lexemes reached start there) :
    Orderly lexemes there := by
  induction run generalizing reached with
  | refl here =>
      cases reaches with
      | refl => exact orderly
      | head stepped _ => rw [halted] at stepped; cases stepped
  | head first stepped _ ih =>
      cases reaches with
      | refl => exact first
      | head steppedThere others =>
          rw [stepped] at steppedThere
          cases steppedThere
          exact ih halted orderly others

end OrderlyRun

end EntityMapping.Document.Program
