import EntityMapping.Proofs.Document.Advance

/-!
# Readers of words, marks and lists

The basic readers of a cursor, and the two repetitions that all other readers are
built from: items up to a closing punctuator, and names behind separators.
-/

namespace EntityMapping.Document.Cursor

open EntityMapping.Source

/-- A reader only advances over spellings of the value it returns. -/
def Sound {α : Type} (read : (cursor : Cursor) → Reads α cursor)
    (spelling : α → Language Lexeme) : Prop :=
  ∀ {cursor : Cursor} {reading : Reading α cursor}, read cursor = .ok reading →
    cursor.Advances (spelling reading.value) reading.next

/-- A reader returns every value over whose spelling the cursor can advance, unless one
of the given tokens follows. -/
def Complete {α : Type} (read : (cursor : Cursor) → Reads α cursor)
    (spelling : α → Language Lexeme) (stops : List Token) : Prop :=
  ∀ {cursor next : Cursor} {value : α}, cursor.Advances (spelling value) next →
    Clear stops next.rest → ∃ shorter, read cursor = .ok ⟨value, next, shorter⟩

/-! ## Words and punctuators -/

theorem name_sound : Sound name word := by
  intro cursor reading read
  unfold name at read
  split at read
  · cases read
    exact advances_single.mpr rfl
  · cases read

theorem name_complete {cursor next : Cursor} {value : String}
    (moved : cursor.Advances (word value) next) :
    ∃ shorter, name cursor = .ok ⟨value, next, shorter⟩ := by
  obtain ⟨rest, last⟩ := cursor
  obtain ⟨nextRest, nextLast⟩ := next
  have front : rest = _ := advances_single.mp moved
  subst front
  exact ⟨_, rfl⟩

theorem punct_sound {wanted : Punctuator} {expectation : Expectation} {cursor : Cursor}
    {reading : Reading Unit cursor} (read : punct wanted expectation cursor = .ok reading) :
    cursor.Advances (mark wanted) reading.next := by
  unfold punct at read
  split at read
  · split at read
    · rename_i same
      subst same
      cases read
      exact advances_single.mpr rfl
    · cases read
  · cases read

theorem punct_complete {wanted : Punctuator} {cursor next : Cursor}
    (moved : cursor.Advances (mark wanted) next) (expectation : Expectation) :
    ∃ shorter, punct wanted expectation cursor = .ok ⟨(), next, shorter⟩ := by
  obtain ⟨rest, last⟩ := cursor
  obtain ⟨nextRest, nextLast⟩ := next
  have front : rest = _ := advances_single.mp moved
  subst front
  exact ⟨Nat.lt_succ_self _, by simp only [punct, if_pos]; rfl⟩

theorem punct?_sound {wanted : Punctuator} {cursor : Cursor} {reading : Reading Unit cursor}
    (read : cursor.punct? wanted = some reading) :
    cursor.Advances (mark wanted) reading.next := by
  unfold punct? at read
  split at read
  · split at read
    · rename_i same
      subst same
      cases read
      exact advances_single.mpr rfl
    · cases read
  · cases read

theorem punct?_complete {wanted : Punctuator} {cursor next : Cursor}
    (moved : cursor.Advances (mark wanted) next) :
    ∃ shorter, cursor.punct? wanted = some ⟨(), next, shorter⟩ := by
  obtain ⟨rest, last⟩ := cursor
  obtain ⟨nextRest, nextLast⟩ := next
  have front : rest = _ := advances_single.mp moved
  subst front
  exact ⟨Nat.lt_succ_self _, by simp only [punct?, if_pos]; rfl⟩

theorem punct?_eq_none {wanted : Punctuator} {cursor : Cursor}
    (clear : Clear [.punct wanted] cursor.rest) : cursor.punct? wanted = none := by
  unfold punct?
  split
  · rename_i found span rest last
    have other : found ≠ wanted := by simpa [Clear] using clear
    rw [if_neg other]
  · rfl

theorem word?_sound {wanted : String} {cursor : Cursor} {reading : Reading Unit cursor}
    (read : cursor.word? wanted = some reading) :
    cursor.Advances (word wanted) reading.next := by
  unfold word? at read
  split at read
  · split at read
    · rename_i same
      subst same
      cases read
      exact advances_single.mpr rfl
    · cases read
  · cases read

theorem word?_complete {wanted : String} {cursor next : Cursor}
    (moved : cursor.Advances (word wanted) next) :
    ∃ shorter, cursor.word? wanted = some ⟨(), next, shorter⟩ := by
  obtain ⟨rest, last⟩ := cursor
  obtain ⟨nextRest, nextLast⟩ := next
  have front : rest = _ := advances_single.mp moved
  subst front
  exact ⟨Nat.lt_succ_self _, by simp only [word?, if_pos]; rfl⟩

theorem word?_eq_none {wanted : String} {cursor : Cursor}
    (clear : Clear [.name wanted] cursor.rest) : cursor.word? wanted = none := by
  unfold word?
  split
  · rename_i found span rest last
    have other : found ≠ wanted := by simpa [Clear] using clear
    rw [if_neg other]
  · rfl

theorem skipPunct_sound (wanted : Punctuator) (cursor : Cursor) :
    cursor.Advances (1 + mark wanted) (cursor.skipPunct wanted).next := by
  unfold skipPunct
  split
  · rename_i reading found
    exact advances_add.mpr (Or.inr (punct?_sound found))
  · exact advances_add.mpr (Or.inl (advances_one.mpr rfl))

theorem skipPunct_complete {wanted : Punctuator} {cursor next : Cursor}
    (moved : cursor.Advances (1 + mark wanted) next)
    (clear : Clear [.punct wanted] next.rest) : (cursor.skipPunct wanted).next = next := by
  unfold skipPunct
  rcases advances_add.mp moved with stayed | read
  · rw [advances_one.mp stayed] at clear ⊢
    rw [punct?_eq_none clear]
    rfl
  · obtain ⟨shorter, found⟩ := punct?_complete read
    rw [found]

theorem skipWord_sound (wanted : String) (cursor : Cursor) :
    cursor.Advances (if (cursor.skipWord wanted).value then word wanted else 1)
      (cursor.skipWord wanted).next := by
  unfold skipWord
  split
  · rename_i reading found
    exact word?_sound found
  · exact advances_one.mpr rfl

theorem skipWord_complete {wanted : String} {present : Bool} {cursor next : Cursor}
    (moved : cursor.Advances (if present then word wanted else 1) next)
    (clear : Clear [.name wanted] next.rest) :
    (cursor.skipWord wanted).value = present ∧ (cursor.skipWord wanted).next = next := by
  unfold skipWord
  cases present with
  | true =>
      obtain ⟨shorter, found⟩ := word?_complete moved
      rw [found]
      exact ⟨rfl, rfl⟩
  | false =>
      rw [advances_one.mp moved] at clear ⊢
      rw [word?_eq_none clear]
      exact ⟨rfl, rfl⟩

/-! ## Descriptions -/

theorem description_sound (cursor : Cursor) :
    cursor.Advances (describing cursor.description.value) cursor.description.next := by
  unfold description
  split
  · exact advances_add.mpr (Or.inl (advances_single.mpr rfl))
  · exact advances_add.mpr (Or.inr (advances_single.mpr rfl))
  · exact advances_one.mpr rfl

/-- A description is read to its end if a name follows. -/
theorem description_complete {about : Option String} {cursor middle next : Cursor}
    {name : String} (moved : cursor.Advances (describing about) middle)
    (named : middle.Advances (word name) next) :
    cursor.description.value = about ∧ cursor.description.next = middle := by
  cases about with
  | none =>
      rw [advances_one.mp moved] at named
      obtain ⟨rest, last⟩ := cursor
      have front : rest = _ := advances_single.mp named
      subst front
      exact ⟨rfl, (advances_one.mp moved).symm⟩
  | some text =>
      obtain ⟨rest, last⟩ := cursor
      obtain ⟨middleRest, middleLast⟩ := middle
      rcases advances_add.mp moved with quoted | block
      · have front : rest = _ := advances_single.mp quoted
        subst front
        exact ⟨rfl, rfl⟩
      · have front : rest = _ := advances_single.mp block
        subst front
        exact ⟨rfl, rfl⟩

theorem fresh_describing {stops : List Token}
    (noString : ∀ token ∈ stops, token.stringValue? = none) (about : Option String) :
    Fresh stops (describing about) := by
  cases about with
  | none => exact fresh_one
  | some text =>
      apply Begins.fresh
      apply begins_add
      · exact begins_single fun member => by cases noString _ member
      · exact begins_single fun member => by cases noString _ member

/-! ## Items up to a closing punctuator -/

section Items

variable {α : Type} {close : Punctuator} {spelling : α → Language Lexeme}
  {stops : List Token}

theorem itemsUntil_sound {front : Cursor}
    {item : (cursor : Cursor) → cursor.rest.length ≤ front.rest.length → Reads α cursor}
    (sound : ∀ (cursor : Cursor) (inside : cursor.rest.length ≤ front.rest.length)
      (reading : Reading α cursor), item cursor inside = .ok reading →
        cursor.Advances (spelling reading.value) reading.next)
    {cursor : Cursor} {inside : cursor.rest.length ≤ front.rest.length}
    {reading : Reading (List α) cursor}
    (read : itemsUntil close front item cursor inside = .ok reading) :
    cursor.Advances (sequenced spelling reading.value * mark close) reading.next := by
  induction cursor, inside using @itemsUntil.induct α close front with
  | case1 cursor inside closing found =>
      rw [itemsUntil, found] at read
      cases read
      exact advances_mul.mpr ⟨cursor, advances_one.mpr rfl, punct?_sound found⟩
  | case2 cursor inside notClosed ih =>
      rw [itemsUntil, notClosed] at read
      obtain ⟨first, readFirst, read⟩ := bind_eq_ok_iff.mp read
      obtain ⟨others, readOthers, read⟩ := bind_eq_ok_iff.mp read
      cases read
      rw [sequenced_cons, mul_assoc]
      exact advances_mul.mpr
        ⟨first.next, sound cursor inside first readFirst, ih first readOthers⟩

theorem itemsUntil_complete {front : Cursor}
    {item : (cursor : Cursor) → cursor.rest.length ≤ front.rest.length → Reads α cursor}
    (complete : ∀ (cursor : Cursor) (inside : cursor.rest.length ≤ front.rest.length)
      (value : α) (next : Cursor), cursor.Advances (spelling value) next →
        Clear stops next.rest → ∃ shorter, item cursor inside = .ok ⟨value, next, shorter⟩)
    (begins : ∀ value, Begins (.punct close :: stops) (spelling value))
    (closes : .punct close ∉ stops) {cursor next : Cursor}
    (inside : cursor.rest.length ≤ front.rest.length) {values : List α}
    (moved : cursor.Advances (sequenced spelling values * mark close) next) :
    ∃ shorter, itemsUntil close front item cursor inside = .ok ⟨values, next, shorter⟩ := by
  obtain ⟨middle, items, closing⟩ := advances_mul.mp moved
  induction values generalizing cursor with
  | nil =>
      rw [advances_one.mp items] at closing
      obtain ⟨shorter, found⟩ := punct?_complete closing
      rw [itemsUntil, found]
      exact ⟨shorter, rfl⟩
  | cons first others ih =>
      rw [sequenced_cons] at items
      obtain ⟨behind, front, back⟩ := advances_mul.mp items
      have clearClose : Clear stops middle.rest :=
        closing.clear_of_begins (begins_single closes)
      have clear : Clear stops behind.rest :=
        back.clear (fresh_sequenced fun value =>
          ((begins value).mono (List.subset_cons_self _ _)).fresh) clearClose
      have notClosed : cursor.punct? close = none :=
        punct?_eq_none ((front.clear_of_begins (begins first)).mono (by simp))
      obtain ⟨shorter, readFirst⟩ := complete cursor inside first behind front clear
      have within : behind.rest.length ≤ _ := Nat.le_trans (Nat.le_of_lt shorter) inside
      obtain ⟨shorterRest, readOthers⟩ :=
        ih within (advances_mul.mpr ⟨middle, back, closing⟩) back
      rw [itemsUntil, notClosed]
      simp only [readFirst, ok_bind, readOthers]
      exact ⟨Nat.lt_trans shorterRest shorter, rfl⟩

variable {item : (cursor : Cursor) → Reads α cursor}

theorem many_sound (sound : Sound item spelling) :
    Sound (many close item) fun values => sequenced spelling values * mark close :=
  fun read => itemsUntil_sound (fun _ _ _ readItem => sound readItem) read

theorem many_complete (complete : Complete item spelling stops)
    (begins : ∀ value, Begins (.punct close :: stops) (spelling value))
    (closes : .punct close ∉ stops) {cursor next : Cursor} {values : List α}
    (moved : cursor.Advances (sequenced spelling values * mark close) next) :
    ∃ shorter, many close item cursor = .ok ⟨values, next, shorter⟩ :=
  itemsUntil_complete (fun _ _ _ _ movedItem clear => complete movedItem clear) begins closes
    (Nat.le_refl _) moved

theorem enclosed_sound {opening : Punctuator} (sound : Sound item spelling) {cursor : Cursor}
    {passing : Passing (List α) cursor}
    (read : enclosed opening close item cursor = .ok passing) :
    cursor.Advances (bracketed opening close spelling passing.value) passing.next := by
  unfold enclosed at read
  split at read
  · cases read
    exact advances_add.mpr (Or.inl (advances_one.mpr rfl))
  · rename_i inner found
    obtain ⟨items, readItems, read⟩ := bind_eq_ok_iff.mp read
    cases read
    exact advances_add.mpr (Or.inr
      (advances_mul.mpr ⟨inner.next, punct?_sound found, many_sound sound readItems⟩))

theorem enclosed_complete {opening : Punctuator} (complete : Complete item spelling stops)
    (begins : ∀ value, Begins (.punct close :: stops) (spelling value))
    (closes : .punct close ∉ stops) {cursor next : Cursor} {values : List α}
    (moved : cursor.Advances (bracketed opening close spelling values) next)
    (clear : Clear [.punct opening] next.rest) :
    ∃ notLonger, enclosed opening close item cursor = .ok ⟨values, next, notLonger⟩ := by
  rcases advances_add.mp moved with leftOut | written
  · cases values with
    | nil =>
        rw [advances_one.mp leftOut] at clear ⊢
        rw [enclosed, punct?_eq_none clear]
        exact ⟨Nat.le_refl _, rfl⟩
    | cons first others => exact absurd leftOut not_advances_zero
  · obtain ⟨inner, opened, items⟩ := advances_mul.mp written
    obtain ⟨shorter, found⟩ := punct?_complete opened
    obtain ⟨shorterItems, readItems⟩ := many_complete complete begins closes items
    rw [enclosed, found]
    simp only [readItems, ok_bind]
    exact ⟨Nat.le_of_lt (Nat.lt_trans shorterItems shorter), rfl⟩

end Items

/-! ## Names with separators -/

theorem namesBehind_sound {separator : Punctuator} {cursor : Cursor}
    {passing : Passing (List String) cursor}
    (read : namesBehind separator cursor = .ok passing) :
    cursor.Advances (furtherNames separator passing.value) passing.next := by
  induction cursor using namesBehind.induct separator with
  | case1 cursor absent =>
      rw [namesBehind, absent] at read
      cases read
      exact advances_one.mpr rfl
  | case2 cursor sign found ih =>
      rw [namesBehind, found] at read
      obtain ⟨first, readFirst, read⟩ := bind_eq_ok_iff.mp read
      obtain ⟨others, readOthers, read⟩ := bind_eq_ok_iff.mp read
      cases read
      have pair : cursor.Advances (mark separator * word first.value) first.next :=
        advances_mul.mpr ⟨sign.next, punct?_sound found, name_sound readFirst⟩
      rw [furtherNames, sequenced_cons]
      exact advances_mul.mpr ⟨first.next, pair, ih first readOthers⟩

theorem namesBehind_complete {separator : Punctuator} {cursor next : Cursor}
    {names : List String} (moved : cursor.Advances (furtherNames separator names) next)
    (clear : Clear [.punct separator] next.rest) :
    ∃ notLonger, namesBehind separator cursor = .ok ⟨names, next, notLonger⟩ := by
  induction names generalizing cursor with
  | nil =>
      rw [advances_one.mp moved] at clear ⊢
      rw [namesBehind, punct?_eq_none clear]
      exact ⟨Nat.le_refl _, rfl⟩
  | cons first others ih =>
      rw [furtherNames, sequenced_cons] at moved
      obtain ⟨middle, pair, back⟩ := advances_mul.mp moved
      obtain ⟨behind, sign, named⟩ := advances_mul.mp pair
      obtain ⟨shorterSign, found⟩ := punct?_complete sign
      obtain ⟨shorterName, readFirst⟩ := name_complete named
      obtain ⟨notLonger, readOthers⟩ := ih back
      rw [namesBehind, found]
      simp only [readFirst, ok_bind, readOthers]
      exact ⟨Nat.le_trans notLonger (Nat.le_of_lt (Nat.lt_trans shorterName shorterSign)), rfl⟩

theorem separatedNames_sound (separator : Punctuator) :
    Sound (separatedNames separator) (listing separator) := by
  intro cursor reading read
  simp only [separatedNames] at read
  obtain ⟨first, readFirst, read⟩ := bind_eq_ok_iff.mp read
  obtain ⟨others, readOthers, read⟩ := bind_eq_ok_iff.mp read
  cases read
  exact advances_mul.mpr ⟨_, skipPunct_sound separator cursor,
    advances_mul.mpr ⟨first.next, name_sound readFirst, namesBehind_sound readOthers⟩⟩

theorem separatedNames_complete (separator : Punctuator) :
    Complete (separatedNames separator) (listing separator) [.punct separator] := by
  intro cursor next names moved clear
  cases names with
  | nil => exact absurd moved not_advances_zero
  | cons first others =>
      obtain ⟨behind, lead, named⟩ := advances_mul.mp moved
      obtain ⟨middle, named, further⟩ := advances_mul.mp named
      have clearLead : Clear [.punct separator] behind.rest :=
        named.clear_of_begins (begins_single (by simp))
      have skipped := skipPunct_complete lead clearLead
      obtain ⟨shorter, readFirst⟩ := name_complete named
      obtain ⟨notLonger, readOthers⟩ := namesBehind_complete further clear
      subst skipped
      simp only [separatedNames, readFirst, ok_bind, readOthers]
      exact ⟨Nat.lt_of_le_of_lt notLonger
        (Nat.lt_of_lt_of_le shorter (cursor.skipPunct separator).notLonger), rfl⟩

end EntityMapping.Document.Cursor
