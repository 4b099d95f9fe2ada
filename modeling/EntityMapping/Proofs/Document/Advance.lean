import EntityMapping.Proofs.Document.Spelling
import EntityMapping.Proofs.Outcome

/-!
# Cursors and spellings

A cursor advances over a language when lexemes of the language stand between it
and where it gets to.  A reader is specified by two statements: it only advances
over spellings of the value it returns, and it returns every value over whose
spelling the cursor can advance, provided that nothing follows that would go on.
-/

namespace EntityMapping.Document

open EntityMapping.Source

/-! ## Sequences -/

theorem sequenced_cons {α : Type} (spelling : α → Language Lexeme) (item : α)
    (rest : List α) :
    sequenced spelling (item :: rest) = spelling item * sequenced spelling rest := by
  simp [sequenced]

theorem sequenced_append {α : Type} (spelling : α → Language Lexeme) (left right : List α) :
    sequenced spelling (left ++ right) =
      sequenced spelling left * sequenced spelling right := by
  simp [sequenced]

theorem itemsSpelling_eq (items : List Value) :
    Value.itemsSpelling items = sequenced Value.spelling items := by
  induction items with
  | nil => rfl
  | cons item rest ih => rw [Value.itemsSpelling, ih, sequenced_cons]

theorem fieldsSpelling_eq (fields : List (String × Value)) :
    Value.fieldsSpelling fields = sequenced Value.entrySpelling fields := by
  induction fields with
  | nil => rfl
  | cons field rest ih =>
      obtain ⟨key, value⟩ := field
      rw [Value.fieldsSpelling, ih, sequenced_cons, Value.entrySpelling]

theorem lastSpan_append (before : Span) (left right : List Lexeme) :
    lastSpan before (left ++ right) = lastSpan (lastSpan before left) right := by
  simp [lastSpan]

/-! ## What a language begins with -/

/-- The lexemes do not begin with one of the given tokens. -/
def Clear (stops : List Token) (lexemes : List Lexeme) : Prop :=
  ∀ lexeme ∈ lexemes.head?, lexeme.token ∉ stops

/-- No sequence of the language begins with one of the given tokens. -/
def Fresh (stops : List Token) (language : Language Lexeme) : Prop :=
  ∀ used ∈ language, Clear stops used

/-- Every sequence of the language begins with a token other than the given ones. -/
def Begins (stops : List Token) (language : Language Lexeme) : Prop :=
  ∀ used ∈ language, used ≠ [] ∧ Clear stops used

section Beginnings

variable {stops : List Token} {left right : Language Lexeme}

theorem clear_nil (stops : List Token) : Clear stops [] := by
  simp [Clear]

theorem clear_cons {lexeme : Lexeme} {rest : List Lexeme} :
    Clear stops (lexeme :: rest) ↔ lexeme.token ∉ stops := by
  simp [Clear]

theorem clear_append {front back : List Lexeme} (first : Clear stops front)
    (second : Clear stops back) : Clear stops (front ++ back) := by
  cases front with
  | nil => exact second
  | cons lexeme rest => exact first

theorem Clear.mono {few many : List Token} {lexemes : List Lexeme}
    (clear : Clear many lexemes) (subset : few ⊆ many) : Clear few lexemes :=
  fun lexeme member among => clear lexeme member (subset among)

theorem Begins.fresh (begins : Begins stops left) : Fresh stops left :=
  fun used member => (begins used member).2

theorem Begins.mono {few many : List Token} (begins : Begins many left)
    (subset : few ⊆ many) : Begins few left :=
  fun used member => ⟨(begins used member).1, (begins used member).2.mono subset⟩

theorem fresh_one : Fresh stops 1 := by
  intro used member
  rw [(Language.mem_one used).mp member]
  exact clear_nil stops

theorem fresh_zero : Fresh stops 0 :=
  fun used member => absurd member (Language.notMem_zero used)

theorem fresh_add (first : Fresh stops left) (second : Fresh stops right) :
    Fresh stops (left + right) := by
  intro used member
  rcases (Language.mem_add left right used).mp member with member | member
  · exact first used member
  · exact second used member

theorem fresh_mul (first : Fresh stops left) (second : Fresh stops right) :
    Fresh stops (left * right) := by
  intro used member
  obtain ⟨front, inLeft, back, inRight, rfl⟩ := Language.mem_mul.mp member
  exact clear_append (first front inLeft) (second back inRight)

theorem begins_single {token : Token} (other : token ∉ stops) :
    Begins stops (single token) := by
  rintro used ⟨span, rfl⟩
  exact ⟨List.cons_ne_nil _ _, clear_cons.mpr other⟩

theorem begins_zero : Begins stops 0 :=
  fun used member => absurd member (Language.notMem_zero used)

theorem begins_add (first : Begins stops left) (second : Begins stops right) :
    Begins stops (left + right) := by
  intro used member
  rcases (Language.mem_add left right used).mp member with member | member
  · exact first used member
  · exact second used member

theorem begins_mul (first : Begins stops left) : Begins stops (left * right) := by
  intro used member
  obtain ⟨front, inLeft, back, inRight, rfl⟩ := Language.mem_mul.mp member
  obtain ⟨nonempty, clear⟩ := first front inLeft
  cases front with
  | nil => exact absurd rfl nonempty
  | cons lexeme rest => exact ⟨List.cons_ne_nil _ _, clear⟩

theorem begins_mul_of_fresh (first : Fresh stops left) (second : Begins stops right) :
    Begins stops (left * right) := by
  intro used member
  obtain ⟨front, inLeft, back, inRight, rfl⟩ := Language.mem_mul.mp member
  obtain ⟨nonempty, clear⟩ := second back inRight
  exact ⟨by simp [nonempty], clear_append (first front inLeft) clear⟩

theorem begins_covering (span : Span) (begins : Begins stops left) :
    Begins stops (covering span left) :=
  fun used member => begins used member.1

theorem fresh_sequenced {α : Type} {spelling : α → Language Lexeme} {items : List α}
    (each : ∀ item, Fresh stops (spelling item)) :
    Fresh stops (sequenced spelling items) := by
  induction items with
  | nil => exact fresh_one
  | cons item rest ih =>
      rw [sequenced_cons]
      exact fresh_mul (each item) ih

theorem fresh_bracketed {α : Type} {opening close : Punctuator}
    {spelling : α → Language Lexeme} {items : List α} (other : .punct opening ∉ stops) :
    Fresh stops (bracketed opening close spelling items) := by
  apply fresh_add
  · split
    · exact fresh_one
    · exact fresh_zero
  · exact (begins_mul (begins_single other)).fresh

end Beginnings

namespace Cursor

/-- What holds of a cursor if it holds of all with fewer lexemes left holds of every cursor. -/
@[elab_as_elim]
theorem shorter_induction {holds : Cursor → Prop}
    (step : ∀ cursor, (∀ inner, inner.rest.length < cursor.rest.length → holds inner) →
      holds cursor) (cursor : Cursor) : holds cursor :=
  WellFounded.induction (measure fun cursor : Cursor => cursor.rest.length).wf cursor step

/-- The cursor gets to `next` over lexemes of a language. -/
def Advances (cursor : Cursor) (language : Language Lexeme) (next : Cursor) : Prop :=
  ∃ used ∈ language, cursor.rest = used ++ next.rest ∧ next.last = lastSpan cursor.last used

section Advancing

variable {cursor next : Cursor} {left right language : Language Lexeme}

theorem advances_one : cursor.Advances 1 next ↔ next = cursor := by
  constructor
  · rintro ⟨used, member, rest, last⟩
    rw [(Language.mem_one used).mp member] at rest last
    cases cursor
    cases next
    simp_all [lastSpan]
  · rintro rfl
    exact ⟨[], Language.nil_mem_one, rfl, rfl⟩

theorem not_advances_zero : ¬ cursor.Advances 0 next := by
  rintro ⟨used, member, -⟩
  exact Language.notMem_zero used member

theorem advances_add :
    cursor.Advances (left + right) next ↔
      cursor.Advances left next ∨ cursor.Advances right next := by
  constructor
  · rintro ⟨used, member, moved⟩
    rcases (Language.mem_add left right used).mp member with member | member
    · exact Or.inl ⟨used, member, moved⟩
    · exact Or.inr ⟨used, member, moved⟩
  · rintro (⟨used, member, moved⟩ | ⟨used, member, moved⟩)
    · exact ⟨used, (Language.mem_add left right used).mpr (Or.inl member), moved⟩
    · exact ⟨used, (Language.mem_add left right used).mpr (Or.inr member), moved⟩

theorem advances_mul :
    cursor.Advances (left * right) next ↔
      ∃ middle, cursor.Advances left middle ∧ middle.Advances right next := by
  constructor
  · rintro ⟨used, member, rest, last⟩
    obtain ⟨front, inLeft, back, inRight, rfl⟩ := Language.mem_mul.mp member
    refine ⟨⟨back ++ next.rest, lastSpan cursor.last front⟩, ?_, ?_⟩
    · exact ⟨front, inLeft, by rw [rest, List.append_assoc], rfl⟩
    · exact ⟨back, inRight, rfl, by rw [last, lastSpan_append]⟩
  · rintro ⟨middle, ⟨front, inLeft, restLeft, lastLeft⟩, back, inRight, restRight, lastRight⟩
    refine ⟨front ++ back, Language.append_mem_mul inLeft inRight, ?_, ?_⟩
    · rw [restLeft, restRight, List.append_assoc]
    · rw [lastRight, lastLeft, lastSpan_append]

theorem advances_single {token : Token} :
    cursor.Advances (single token) next ↔ cursor.rest = ⟨token, next.last⟩ :: next.rest := by
  constructor
  · rintro ⟨used, ⟨span, rfl⟩, rest, last⟩
    rw [rest, last]
    rfl
  · intro rest
    exact ⟨_, ⟨next.last, rfl⟩, rest, rfl⟩

/-- Languages that begin in a certain way only lead away from cursors that do. -/
theorem Advances.clear {stops : List Token} (moved : cursor.Advances language next)
    (fresh : Fresh stops language) (clear : Clear stops next.rest) :
    Clear stops cursor.rest := by
  obtain ⟨used, member, rest, -⟩ := moved
  rw [rest]
  exact clear_append (fresh used member) clear

theorem Advances.clear_of_begins {stops : List Token} (moved : cursor.Advances language next)
    (begins : Begins stops language) : Clear stops cursor.rest := by
  obtain ⟨used, member, rest, -⟩ := moved
  obtain ⟨nonempty, clear⟩ := begins used member
  rw [rest]
  cases used with
  | nil => exact absurd rfl nonempty
  | cons lexeme others => exact clear

/-- What is covered reaches from the next lexeme to the one read last. -/
theorem coverage_of_advance {used : List Lexeme} (nonempty : used ≠ [])
    (rest : cursor.rest = used ++ next.rest) (last : next.last = lastSpan cursor.last used) :
    coverage used = next.spanSince cursor.span := by
  cases used with
  | nil => exact absurd rfl nonempty
  | cons lexeme others =>
      simp [coverage, spanSince, span, rest, last, lastSpan]

theorem advances_covering (shorter : next.rest.length < cursor.rest.length) {span : Span} :
    cursor.Advances (covering span language) next ↔
      cursor.Advances language next ∧ next.spanSince cursor.span = span := by
  have covered : ∀ used : List Lexeme, cursor.rest = used ++ next.rest →
      next.last = lastSpan cursor.last used →
      coverage used = next.spanSince cursor.span := by
    intro used rest last
    refine coverage_of_advance ?_ rest last
    rintro rfl
    rw [rest] at shorter
    exact Nat.lt_irrefl _ shorter
  constructor
  · rintro ⟨used, ⟨member, covers⟩, rest, last⟩
    exact ⟨⟨used, member, rest, last⟩, covered used rest last ▸ covers⟩
  · rintro ⟨⟨used, member, rest, last⟩, covers⟩
    exact ⟨used, ⟨member, (covered used rest last).trans covers⟩, rest, last⟩

end Advancing

end Cursor

end EntityMapping.Document
