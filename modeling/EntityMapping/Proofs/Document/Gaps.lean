import EntityMapping.Proofs.Document.Cutting
import Mathlib.Computability.Language

/-!
# Gaps between tokens

Ignorable text as a language: ignorable characters and comments, each of which runs
up to the end of its line.  Main statements: what is split off in front of a token is
such a text, and any such text in front of another one is split off with its gap.
-/

namespace EntityMapping.Document

open Computability

/-! ## Ignorable text -/

/-- An ignorable character. -/
def ignoredChar : Language Char :=
  {text | ∃ c, isIgnored c = true ∧ text = [c]}

/-- Characters of one line. -/
def inLine : Language Char :=
  {text | ∀ c ∈ text, endsLine c = false}

/-- The end of a line. -/
def lineEnd : Language Char :=
  {text | ∃ c, endsLine c = true ∧ text = [c]}

/-- A comment up to the end of its line. -/
def comment : Language Char :=
  {['#']} * inLine

/-- Ignorable characters and comments that are closed by the end of their line. -/
def gapText : Language Char :=
  (ignoredChar + comment * lineEnd)∗

/-- Ignorable text up to the end of a source, where the last comment need not be
closed. -/
def lastGapText : Language Char :=
  gapText * (1 + comment)

/-- Ignorable text, which begins inside a comment if the flag says so. -/
def gapTextFrom : Bool → Language Char
  | true => inLine * (lineEnd * gapText)
  | false => gapText

theorem nil_mem_gapText : [] ∈ gapText :=
  Language.nil_mem_kstar _

theorem append_mem_gapText {front behind : List Char} (inFront : front ∈ gapText)
    (inBehind : behind ∈ gapText) : front ++ behind ∈ gapText := by
  have both : front ++ behind ∈ gapText * gapText := Language.append_mem_mul inFront inBehind
  rw [gapText, kstar_mul_kstar] at both
  exact both

theorem ignored_mem_gapText {c : Char} (ignored : isIgnored c = true) : [c] ∈ gapText :=
  (le_kstar : _ ≤ gapText) (Or.inl ⟨c, ignored, rfl⟩)

theorem closed_mem_gapText {line : List Char} (closed : line ∈ comment * lineEnd) :
    line ∈ gapText :=
  (le_kstar : _ ≤ gapText) (Or.inr closed)

theorem mem_lastGapText_of_mem {text : List Char} (ignorable : text ∈ gapText) :
    text ∈ lastGapText := by
  have nothing : [] ∈ 1 + comment := Or.inl Language.nil_mem_one
  have whole := Language.append_mem_mul ignorable nothing
  rwa [List.append_nil] at whole

/-- Behind the sign of a comment the line goes on, and then comes other ignorable text. -/
theorem cons_mem_gapText {text : List Char} (inside : text ∈ gapTextFrom true) :
    '#' :: text ∈ gapText := by
  obtain ⟨line, isLine, after, inAfter, rfl⟩ := Language.mem_mul.mp inside
  obtain ⟨stop, isStop, rest, inRest, rfl⟩ := Language.mem_mul.mp inAfter
  have closed : '#' :: line ++ stop ∈ gapText :=
    closed_mem_gapText (Language.append_mem_mul
      (Language.append_mem_mul (Set.mem_singleton ['#']) isLine) isStop)
  have whole := append_mem_gapText closed inRest
  rwa [List.append_assoc] at whole

/-- One more character of a comment. -/
theorem cons_mem_gapTextFrom {c : Char} {text : List Char}
    (behind : text ∈ gapTextFrom (!endsLine c)) : c :: text ∈ gapTextFrom true := by
  cases ends : endsLine c with
  | true =>
      rw [ends] at behind
      have stop : [c] ++ text ∈ lineEnd * gapText :=
        Language.append_mem_mul ⟨c, ends, rfl⟩ behind
      exact Language.append_mem_mul (a := []) (List.forall_mem_nil _) stop
  | false =>
      rw [ends] at behind
      obtain ⟨line, isLine, after, inAfter, rfl⟩ := Language.mem_mul.mp behind
      have longer : c :: line ∈ inLine := List.forall_mem_cons.mpr ⟨ends, isLine⟩
      exact Language.append_mem_mul longer inAfter

/-! ## What is split off -/

/-- What is split off in front of another character is ignorable text. -/
theorem mem_gapTextFrom_of_splitIgnored {inComment : Bool} {text between rest : List Char}
    {c : Char} (parts : splitIgnored inComment text = (between, c :: rest)) :
    between ∈ gapTextFrom inComment := by
  induction text generalizing inComment between with
  | nil => cases inComment <;> cases parts
  | cons first behind ih =>
      cases inComment with
      | true =>
          obtain ⟨rfl, after⟩ := Prod.ext_iff.mp parts
          exact cons_mem_gapTextFrom (ih (Prod.ext rfl after))
      | false =>
          rw [splitIgnored] at parts
          split at parts
          · rename_i ignored
            by_cases isHash : first = '#'
            · subst isHash
              obtain ⟨rfl, after⟩ := Prod.ext_iff.mp parts
              exact cons_mem_gapText (ih (Prod.ext rfl after))
            · rw [decide_eq_false isHash] at parts
              obtain ⟨rfl, after⟩ := Prod.ext_iff.mp parts
              have isBlank : isIgnored first = true := by simpa [isHash] using ignored
              exact append_mem_gapText (ignored_mem_gapText isBlank) (ih (Prod.ext rfl after))
          · cases parts
            exact nil_mem_gapText

/-- Text that a line feed completes to ignorable text may stand at the end. -/
theorem mem_lastGapText_of_feed {text : List Char} (completed : text ++ ['\n'] ∈ gapText) :
    text ∈ lastGapText := by
  rw [gapText, ← Language.one_add_kstar_mul_self_eq_kstar] at completed
  rcases completed with empty | ⟨front, inFront, last, inLast, whole⟩
  · exact absurd empty (List.append_ne_nil_of_right_ne_nil text (List.cons_ne_nil '\n' []))
  · rcases inLast with ⟨c, -, rfl⟩ | ⟨line, isComment, _, ⟨c, -, rfl⟩, rfl⟩
    · obtain ⟨rfl, -⟩ := List.append_inj' whole rfl
      exact mem_lastGapText_of_mem inFront
    · have apart : front ++ line ++ [c] = text ++ ['\n'] := by
        rw [List.append_assoc]
        exact whole
      obtain ⟨rfl, -⟩ := List.append_inj' apart rfl
      exact Language.append_mem_mul inFront (Or.inr isComment)

/-- What is split off up to the end of a text is ignorable text. -/
theorem mem_lastGapText_of_splitIgnored {text : List Char}
    (whole : (splitIgnored false text).2 = []) : text ∈ lastGapText := by
  have parts := splitIgnored_feed whole ['!']
  exact mem_lastGapText_of_feed (mem_gapTextFrom_of_splitIgnored parts)

/-! ## Ignorable text in front of other text -/

/-- Inside a comment everything up to the end of the line is split off. -/
theorem splitIgnored_inLine {line : List Char} (isLine : line ∈ inLine) (rest : List Char) :
    splitIgnored true (line ++ rest) =
      (line ++ (splitIgnored true rest).1, (splitIgnored true rest).2) := by
  induction line with
  | nil => rfl
  | cons c line ih =>
      obtain ⟨goesOn, isLine⟩ := List.forall_mem_cons.mp isLine
      rw [List.cons_append, splitIgnored, goesOn, Bool.not_false, ih isLine]
      rfl

/-- An ignorable character in front of a text is split off with the gap of that text. -/
theorem splitIgnored_ignoredChar {c : Char} (ignored : isIgnored c = true) (rest : List Char) :
    splitIgnored false (c :: rest) =
      (c :: (splitIgnored false rest).1, (splitIgnored false rest).2) := by
  have starts : (isIgnored c || decide (c = '#')) = true := by rw [ignored, Bool.true_or]
  have notHash : c ≠ '#' := by
    rintro rfl
    exact absurd ignored (by decide)
  rw [splitIgnored, if_pos starts, decide_eq_false notHash]

/-- A closed comment in front of a text is split off with the gap of that text. -/
theorem splitIgnored_comment {line : List Char} {c : Char} (isLine : line ∈ inLine)
    (ends : endsLine c = true) (rest : List Char) :
    splitIgnored false ('#' :: (line ++ c :: rest)) =
      ('#' :: (line ++ c :: (splitIgnored false rest).1), (splitIgnored false rest).2) := by
  rw [splitIgnored, if_pos (by decide), decide_eq_true rfl, splitIgnored_inLine isLine,
    splitIgnored, ends, Bool.not_true]

/-- Ignorable text in front of another text is split off with the gap of that text. -/
theorem splitIgnored_gapText {between : List Char} (ignorable : between ∈ gapText)
    (rest : List Char) :
    splitIgnored false (between ++ rest) =
      (between ++ (splitIgnored false rest).1, (splitIgnored false rest).2) := by
  obtain ⟨parts, rfl, each⟩ := Language.mem_kstar.mp ignorable
  clear ignorable
  induction parts with
  | nil => rfl
  | cons part parts ih =>
      obtain ⟨isPart, others⟩ := List.forall_mem_cons.mp each
      rw [List.flatten_cons, List.append_assoc]
      rcases isPart with ⟨c, ignored, rfl⟩ | ⟨_, ⟨_, rfl, line, isLine, rfl⟩, _, ⟨c, ends, rfl⟩, rfl⟩
      · rw [List.cons_append, List.nil_append, splitIgnored_ignoredChar ignored, ih others]
        rfl
      · have closed := splitIgnored_comment isLine ends (parts.flatten ++ rest)
        rw [ih others] at closed
        simpa only [List.cons_append, List.nil_append, List.append_assoc] using closed

end EntityMapping.Document
