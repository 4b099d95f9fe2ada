import EntityMapping.Document.Lexeme
import EntityMapping.Proofs.Document.Advance
import EntityMapping.Proofs.Document.PieceContext

/-!
# Cutting texts into lexemes

A text is cut into lexemes with gaps between them.  Texts whose lexemes are given
can be joined by a line feed, moved to another offset, and cut off behind any lexeme.
-/

namespace EntityMapping.Document

open EntityMapping.Source
open EntityMapping.Text

/-! ## Gaps -/

/-- A gap that reaches to the end of a text ends there with a line feed at the latest. -/
theorem splitIgnored_feed {comment : Bool} {gap : List Char}
    (whole : (splitIgnored comment gap).2 = []) (more : List Char) :
    splitIgnored comment (gap ++ '\n' :: more) =
      (gap ++ '\n' :: (splitIgnored false more).1, (splitIgnored false more).2) := by
  induction gap generalizing comment with
  | nil => cases comment <;> rfl
  | cons c rest ih =>
      cases comment with
      | true =>
          rw [List.cons_append, splitIgnored, ih whole]
          rfl
      | false =>
          rw [splitIgnored] at whole
          split at whole
          · rename_i ignored
            rw [List.cons_append, splitIgnored, if_pos ignored, ih whole]
            rfl
          · cases whole

/-- A gap does not depend on what follows the character behind it. -/
theorem splitIgnored_gap {comment : Bool} {text gap rest : List Char} {c : Char}
    (split : splitIgnored comment text = (gap, c :: rest)) (other : List Char) :
    splitIgnored comment (gap ++ c :: other) = (gap, c :: other) ∧
      splitIgnored false (c :: other) = ([], c :: other) := by
  induction text generalizing comment gap with
  | nil => cases comment <;> cases split
  | cons first behind ih =>
      cases comment with
      | true =>
          obtain ⟨rfl, after⟩ := Prod.ext_iff.mp split
          obtain ⟨inner, alone⟩ := ih (Prod.ext rfl after)
          refine ⟨?_, alone⟩
          rw [splitIgnored, List.cons_append, splitIgnored, inner]
      | false =>
          rw [splitIgnored] at split
          split at split
          · rename_i ignored
            obtain ⟨rfl, after⟩ := Prod.ext_iff.mp split
            obtain ⟨inner, alone⟩ := ih (Prod.ext rfl after)
            refine ⟨?_, alone⟩
            rw [List.cons_append, splitIgnored, if_pos ignored, inner]
          · rename_i kept
            cases split
            have stays : splitIgnored false (c :: other) = ([], c :: other) := by
              rw [splitIgnored, if_neg kept]
            exact ⟨stays, stays⟩

/-! ## Lexemes of a text -/

/-- The lexemes of a text that begins at the given offset. -/
inductive Cuts : Nat → List Char → List Lexeme → Prop where
  | nil {offset : Nat} {gap : List Char} (whole : (splitIgnored false gap).2 = []) :
      Cuts offset gap []
  | cons {offset start stop : Nat} {text gap tail rest : List Char} {c : Char} {token : Token}
      {lexemes : List Lexeme} (split : splitIgnored false text = (gap, c :: (tail ++ rest)))
      (first : Piece.first c (tail ++ rest) = ⟨some token, c :: tail, rest⟩)
      (isStart : start = offset + byteWidth gap) (isStop : stop = start + byteWidth (c :: tail))
      (behind : Cuts stop rest lexemes) : Cuts offset text (⟨token, ⟨start, stop⟩⟩ :: lexemes)

theorem itemsFrom_eq_nil {offset : Nat} {text : List Char}
    (whole : (splitIgnored false text).2 = []) : itemsFrom offset text = [] := by
  rw [itemsFrom]
  split
  · rfl
  · rename_i gap c rest split
    rw [split] at whole
    cases whole

theorem itemsFrom_eq_cons {offset : Nat} {text gap rest : List Char} {c : Char}
    (parts : splitIgnored false text = (gap, c :: rest)) :
    itemsFrom offset text =
      Item.ofPiece (Piece.first c rest) ⟨offset + byteWidth gap,
        offset + byteWidth gap + byteWidth (Piece.first c rest).text⟩ ::
      itemsFrom (offset + byteWidth gap + byteWidth (Piece.first c rest).text)
        (Piece.first c rest).rest := by
  rw [itemsFrom]
  split
  · rename_i split
    rw [parts] at split
    cases split
  · rename_i split
    rw [parts] at split
    cases split
    rfl

/-- A text is its gap, its first piece and the rest. -/
theorem text_eq_of_first {text gap rest : List Char} {c : Char}
    (parts : splitIgnored false text = (gap, c :: rest)) : text = gap ++ c :: rest := by
  have whole := splitIgnored_append false text
  rw [parts] at whole
  exact whole.symm

theorem lexemesOf_of_cuts {offset : Nat} {text : List Char} {lexemes : List Lexeme}
    (cuts : Cuts offset text lexemes) : lexemesOf (itemsFrom offset text) = .ok lexemes := by
  induction cuts with
  | nil whole =>
      rw [itemsFrom_eq_nil whole]
      rfl
  | cons split first isStart isStop behind ih =>
      rw [itemsFrom_eq_cons split, first, ← isStart, ← isStop]
      simp only [Item.ofPiece, lexemesOf, ih, Except.map]

theorem cuts_of_lexemesOf {offset : Nat} {text : List Char} {lexemes : List Lexeme}
    (cut : lexemesOf (itemsFrom offset text) = .ok lexemes) : Cuts offset text lexemes := by
  induction offset, text using itemsFrom.induct generalizing lexemes with
  | case1 offset text gap split =>
      have whole : (splitIgnored false text).2 = [] := congrArg Prod.snd split
      rw [itemsFrom_eq_nil whole] at cut
      cases cut
      exact .nil whole
  | case2 offset text gap c rest split piece start stop =>
      rename_i ih
      rw [itemsFrom_eq_cons split] at cut
      cases isToken : (Piece.first c rest).token with
      | none =>
          rw [Item.ofPiece, isToken] at cut
          cases cut
      | some token =>
          rw [Item.ofPiece, isToken] at cut
          obtain ⟨others, within, rfl⟩ := map_eq_ok_iff.mp cut
          obtain ⟨tail, after, rfl, first⟩ := Piece.first_eq_of_token isToken
          have behind := ih within
          simp only [stop, start, piece, first] at behind
          rw [first]
          exact .cons split first rfl rfl behind

theorem lexemes_eq_ok_iff {source : String} {found : List Lexeme} :
    lexemes source = .ok found ↔ Cuts 0 source.toList found :=
  ⟨cuts_of_lexemesOf, lexemesOf_of_cuts⟩

/-- A token that begins a text is its first lexeme, and those of the rest follow. -/
theorem Cuts.token {offset : Nat} {c : Char} {tail rest : List Char} {token : Token}
    {lexemes : List Lexeme} (begins : beginsGap c = false)
    (first : Piece.first c (tail ++ rest) = ⟨some token, c :: tail, rest⟩)
    (behind : Cuts (offset + byteWidth (c :: tail)) rest lexemes) :
    Cuts offset (c :: (tail ++ rest))
      (⟨token, ⟨offset, offset + byteWidth (c :: tail)⟩⟩ :: lexemes) := by
  have split : splitIgnored false (c :: (tail ++ rest)) = ([], c :: (tail ++ rest)) :=
    if_neg (Bool.eq_false_iff.mp begins)
  exact .cons split first rfl rfl behind

/-- A text that is a token as a whole has this as its only lexeme. -/
theorem Cuts.single {c : Char} {tail : List Char} {token : Token} (begins : beginsGap c = false)
    (first : Piece.first c tail = ⟨some token, c :: tail, []⟩) (offset : Nat) :
    Cuts offset (c :: tail) [⟨token, ⟨offset, offset + byteWidth (c :: tail)⟩⟩] := by
  have nothing : Cuts (offset + byteWidth (c :: tail)) [] [] := .nil rfl
  have isFirst : Piece.first c (tail ++ []) = ⟨some token, c :: tail, []⟩ := by
    rw [List.append_nil]
    exact first
  have cuts := Cuts.token begins isFirst nothing
  rwa [List.append_nil] at cuts

/-! ## Joining texts -/

/-- A gap and a line feed may stand in front of a text. -/
theorem Cuts.behindGap {offset : Nat} {gap text : List Char} {lexemes : List Lexeme}
    (whole : (splitIgnored false gap).2 = [])
    (cuts : Cuts (offset + byteWidth gap + 1) text lexemes) :
    Cuts offset (gap ++ '\n' :: text) lexemes := by
  have joined := splitIgnored_feed whole text
  cases cuts with
  | nil wholeText =>
      refine .nil ?_
      rw [joined]
      exact wholeText
  | cons split first isStart isStop behind =>
      rename_i gapText tail rest c token lexemes
      rw [split] at joined
      have feed : byteWidth ('\n' :: gapText) = 1 + byteWidth gapText := rfl
      refine .cons joined first ?_ isStop behind
      rw [isStart, byteWidth_append, feed]
      omega

/-- The lexemes of two texts with a line feed between them are those of the first, then
those of the second. -/
theorem Cuts.join {offset : Nat} {text more : List Char} {lexemes others : List Lexeme}
    (cuts : Cuts offset text lexemes)
    (further : Cuts (offset + byteWidth text + 1) more others) :
    Cuts offset (text ++ '\n' :: more) (lexemes ++ others) := by
  induction cuts with
  | nil whole => exact further.behindGap whole
  | @cons offset start stop text gap tail rest c token lexemes split first isStart isStop
      behind ih =>
      obtain rfl := text_eq_of_first split
      have apart : gap ++ c :: (tail ++ rest) ++ '\n' :: more =
          gap ++ c :: (tail ++ (rest ++ '\n' :: more)) := by
        simp
      have sameFirst := Piece.first_eq_of_trims first (trims_gap rest (c := '\n') (by decide) more)
      rw [apart]
      refine .cons (splitIgnored_gap split _).1 sameFirst isStart isStop (ih ?_)
      have same : stop + byteWidth rest + 1 =
          offset + byteWidth (gap ++ c :: (tail ++ rest)) + 1 := by
        rw [isStop, isStart, byteWidth_append, ← List.cons_append, byteWidth_append]
        omega
      rw [same]
      exact further

/-- Behind the last lexeme of a text another text may follow if it begins with something
ignorable or a punctuator. -/
theorem Cuts.append {offset : Nat} {text more : List Char} {lexemes others : List Lexeme}
    {before : Span} (cuts : Cuts offset text lexemes) (follows : before.stop = offset)
    (ends : (lastSpan before lexemes).stop = offset + byteWidth text)
    (stops : ∀ c ∈ more.head?, interrupts c = true)
    (further : Cuts (offset + byteWidth text) more others) :
    Cuts offset (text ++ more) (lexemes ++ others) := by
  induction cuts generalizing before with
  | @nil offset gap whole =>
      have stopped : before.stop = offset + byteWidth gap := ends
      have nothing : gap = [] := eq_nil_of_byteWidth_eq_zero (by omega)
      subst nothing
      exact further
  | @cons offset start stop text gap tail rest c token lexemes split first isStart isStop
      behind ih =>
      obtain rfl := text_eq_of_first split
      have width : offset + byteWidth (gap ++ c :: (tail ++ rest)) = stop + byteWidth rest := by
        rw [isStop, isStart, byteWidth_append, ← List.cons_append, byteWidth_append]
        omega
      rw [width] at ends further
      have sameFirst := Piece.first_eq_of_trims first (trims_append rest stops)
      rw [List.append_assoc, List.cons_append, List.append_assoc]
      exact .cons (splitIgnored_gap split _).1 sameFirst isStart isStop (ih rfl ends further)

/-! ## Moving texts -/

theorem Cuts.shift {offset : Nat} {text : List Char} {lexemes : List Lexeme}
    (cuts : Cuts offset text lexemes) (distance : Nat) :
    Cuts (offset + distance) text (lexemes.map (Lexeme.relocate (Span.shift distance))) := by
  induction cuts with
  | nil whole => exact .nil whole
  | @cons offset start stop text gap tail rest c token lexemes split first isStart isStop
      behind ih =>
      refine .cons split first ?_ ?_ ih
      · change start + distance = offset + distance + byteWidth gap
        omega
      · change stop + distance = start + distance + byteWidth (c :: tail)
        omega

theorem Cuts.unshift {offset distance : Nat} {text : List Char} {lexemes : List Lexeme}
    (cuts : Cuts offset text lexemes) (enough : distance ≤ offset) :
    Cuts (offset - distance) text (lexemes.map (Lexeme.relocate (Span.unshift distance))) := by
  induction cuts with
  | nil whole => exact .nil whole
  | @cons offset start stop text gap tail rest c token lexemes split first isStart isStop
      behind ih =>
      refine .cons split first ?_ ?_ (ih ?_)
      · change start - distance = offset - distance + byteWidth gap
        omega
      · change stop - distance = start - distance + byteWidth (c :: tail)
        omega
      · omega

/-! ## Parts of texts -/

/-- The lexemes of a text stand inside it. -/
theorem Cuts.within {offset : Nat} {text : List Char} {lexemes : List Lexeme}
    (cuts : Cuts offset text lexemes) :
    ∀ lexeme ∈ lexemes, offset ≤ lexeme.span.start ∧ lexeme.span.start ≤ lexeme.span.stop ∧
      lexeme.span.stop ≤ offset + byteWidth text := by
  induction cuts with
  | nil whole => exact fun lexeme member => absurd member List.not_mem_nil
  | @cons offset start stop text gap tail rest c token lexemes split first isStart isStop
      behind ih =>
      obtain rfl := text_eq_of_first split
      have width : byteWidth (gap ++ c :: (tail ++ rest)) =
          byteWidth gap + byteWidth (c :: tail) + byteWidth rest := by
        rw [byteWidth_append, ← List.cons_append, byteWidth_append, Nat.add_assoc]
      intro lexeme member
      rw [width]
      rcases List.mem_cons.mp member with rfl | later
      · simp only
        omega
      · obtain ⟨notBefore, ordered, notBehind⟩ := ih lexeme later
        omega

/-- Each token stops before the next one starts. -/
theorem Cuts.ordered {offset : Nat} {text : List Char} {lexemes : List Lexeme}
    (cuts : Cuts offset text lexemes) :
    lexemes.Pairwise fun earlier later => earlier.span.stop ≤ later.span.start := by
  induction cuts with
  | nil whole => exact .nil
  | cons split first isStart isStop behind ih =>
      exact List.pairwise_cons.mpr ⟨fun later member => (behind.within later member).1, ih⟩

/-- A token covers at least one byte. -/
theorem Cuts.start_lt_stop {offset : Nat} {text : List Char} {lexemes : List Lexeme}
    (cuts : Cuts offset text lexemes) :
    ∀ lexeme ∈ lexemes, lexeme.span.start < lexeme.span.stop := by
  induction cuts with
  | nil whole => exact List.forall_mem_nil _
  | @cons offset start stop text gap tail rest c token lexemes split first isStart isStop
      behind ih =>
      refine List.forall_mem_cons.mpr ⟨?_, ih⟩
      have wide := byteWidth_pos_of_ne_nil (List.cons_ne_nil c tail)
      simp only
      omega

/-- A text can be split where the last of its first lexemes ends. -/
theorem Cuts.split {offset : Nat} {text : List Char} {lexemes others : List Lexeme}
    (cuts : Cuts offset text (lexemes ++ others)) :
    ∃ front behind, text = front ++ behind ∧ Cuts offset front lexemes ∧
      (∀ before : Span, before.stop = offset →
        (lastSpan before lexemes).stop = offset + byteWidth front) ∧
      Cuts (offset + byteWidth front) behind others := by
  induction lexemes generalizing offset text with
  | nil => exact ⟨[], text, rfl, .nil rfl, fun before same => same, cuts⟩
  | cons lexeme lexemes ih =>
      cases cuts with
      | @cons offset start stop text gap tail rest c token lexemes split first isStart isStop
          cuts =>
          obtain ⟨front, behind, rfl, inner, ends, last⟩ := ih cuts
          have width : stop + byteWidth front =
              offset + byteWidth (gap ++ c :: (tail ++ front)) := by
            rw [isStop, isStart, byteWidth_append, ← List.cons_append, byteWidth_append]
            omega
          refine ⟨gap ++ c :: (tail ++ front), behind, ?_, ?_, ?_, width ▸ last⟩
          · rw [text_eq_of_first split]
            simp
          · have sameFirst := Piece.first_eq_of_trims first (trims_front front behind)
            exact .cons (splitIgnored_gap split _).1 sameFirst isStart isStop inner
          · intro before _
            rw [← width]
            exact ends ⟨start, stop⟩ rfl

/-- The last lexemes of a text are those of a text at its end. -/
theorem Cuts.drop {offset : Nat} {text : List Char} {others lexemes : List Lexeme}
    (cuts : Cuts offset text (others ++ lexemes)) :
    ∃ before behind, text = before ++ behind ∧
      Cuts (offset + byteWidth before) behind lexemes := by
  obtain ⟨before, behind, whole, -, -, inBehind⟩ := cuts.split
  exact ⟨before, behind, whole, inBehind⟩

/-- The first lexemes of a text are those of a text at its front, which ends where the
last of them does. -/
theorem Cuts.take {offset : Nat} {text : List Char} {lexemes others : List Lexeme}
    (cuts : Cuts offset text (lexemes ++ others)) :
    ∃ front behind, text = front ++ behind ∧ Cuts offset front lexemes ∧
      ∀ before : Span, before.stop = offset →
        (lastSpan before lexemes).stop = offset + byteWidth front := by
  obtain ⟨front, behind, whole, inFront, ends, -⟩ := cuts.split
  exact ⟨front, behind, whole, inFront, ends⟩

/-- The gap in front of the first lexeme can be cut off. -/
theorem Cuts.dropGap {offset : Nat} {text : List Char} {lexeme : Lexeme}
    {lexemes : List Lexeme} (cuts : Cuts offset text (lexeme :: lexemes)) :
    ∃ gap part, text = gap ++ part ∧ lexeme.span.start = offset + byteWidth gap ∧
      Cuts (offset + byteWidth gap) part (lexeme :: lexemes) := by
  cases cuts with
  | @cons offset start stop text gap tail rest c token lexemes split first isStart isStop
      behind =>
      have alone := (splitIgnored_gap split (tail ++ rest)).2
      exact ⟨gap, c :: (tail ++ rest), text_eq_of_first split, isStart,
        .cons alone first isStart isStop behind⟩

theorem exists_lastSpan (first : Lexeme) (rest : List Lexeme) :
    ∃ lexeme ∈ first :: rest, lastSpan first.span rest = lexeme.span := by
  induction rest generalizing first with
  | nil => exact ⟨first, List.mem_cons_self, rfl⟩
  | cons second rest ih =>
      obtain ⟨lexeme, member, same⟩ := ih second
      exact ⟨lexeme, List.mem_cons_of_mem first member, same⟩

/-- Lexemes in the middle of a text are those of the part of it that they cover. -/
theorem Cuts.part {offset : Nat} {text : List Char} {front lexemes back : List Lexeme}
    (cuts : Cuts offset text (front ++ (lexemes ++ back))) (nonempty : lexemes ≠ []) :
    ∃ before part behind, text = before ++ part ++ behind ∧
      Cuts (offset + byteWidth before) part lexemes ∧
      coverage lexemes =
        ⟨offset + byteWidth before, offset + byteWidth (before ++ part)⟩ := by
  obtain ⟨skipped, rest, rfl, inRest⟩ := cuts.drop
  obtain ⟨kept, behind, rfl, inKept, ends⟩ := inRest.take
  obtain ⟨first, others, rfl⟩ := List.exists_cons_of_ne_nil nonempty
  obtain ⟨gap, part, rfl, starts, inPart⟩ := inKept.dropGap
  have start : offset + byteWidth (skipped ++ gap) = offset + byteWidth skipped + byteWidth gap := by
    rw [byteWidth_append, Nat.add_assoc]
  have stop : offset + byteWidth (skipped ++ gap ++ part) =
      offset + byteWidth skipped + byteWidth (gap ++ part) := by
    rw [List.append_assoc, byteWidth_append, Nat.add_assoc]
  refine ⟨skipped ++ gap, part, behind, by simp, start ▸ inPart, ?_⟩
  obtain ⟨last, member, isLast⟩ := exists_lastSpan first others
  have lastStop : (lastSpan first.span others).stop =
      offset + byteWidth skipped + byteWidth (gap ++ part) :=
    ends ⟨0, offset + byteWidth skipped⟩ rfl
  rw [isLast] at lastStop
  obtain ⟨notBefore, -, -⟩ := inPart.within last member
  obtain ⟨-, -, notBehind⟩ := inPart.within first List.mem_cons_self
  rw [coverage, isLast, start, stop, Span.merge, Span.mk.injEq]
  rw [byteWidth_append] at lastStop ⊢
  constructor
  · omega
  · omega

end EntityMapping.Document
