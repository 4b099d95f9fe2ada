import EntityMapping.Proofs.Document.Readers

/-!
# Readers of values, types and directives

The readers of values, type references and directives are sound and complete for
the spellings of what they return.  A type reference must not be followed by an
exclamation mark, and directives not by what would go on with them.
-/

namespace EntityMapping.Document.Cursor

open EntityMapping.Source

/-! ## Values -/

/-- A bare word is spelled as itself, whatever value it has. -/
theorem spelling_wordValue (name : String) : (wordValue name).spelling = word name := by
  unfold wordValue
  split
  · rename_i same
    subst same
    rfl
  · rename_i notTrue
    split
    · rename_i same
      subst same
      rfl
    · rename_i notFalse
      split
      · rename_i same
        subst same
        rfl
      · rename_i notNull
        simp [Value.spelling, isReserved, notTrue, notFalse, notNull]

theorem entry_sound {front : Cursor}
    {value : (cursor : Cursor) → cursor.rest.length ≤ front.rest.length → Reads Value cursor}
    (sound : ∀ (cursor : Cursor) (inside : cursor.rest.length ≤ front.rest.length)
      (reading : Reading Value cursor), value cursor inside = .ok reading →
        cursor.Advances reading.value.spelling reading.next)
    (cursor : Cursor) (inside : cursor.rest.length ≤ front.rest.length)
    (reading : Reading (String × Value) cursor)
    (read : entry front value cursor inside = .ok reading) :
    cursor.Advances (Value.entrySpelling reading.value) reading.next := by
  simp only [entry] at read
  obtain ⟨key, readKey, read⟩ := bind_eq_ok_iff.mp read
  obtain ⟨colon, readColon, read⟩ := bind_eq_ok_iff.mp read
  obtain ⟨content, readContent, read⟩ := bind_eq_ok_iff.mp read
  cases read
  exact advances_mul.mpr ⟨key.next, name_sound readKey,
    advances_mul.mpr ⟨colon.next, punct_sound readColon, sound _ _ content readContent⟩⟩

theorem entry_complete {front : Cursor}
    {value : (cursor : Cursor) → cursor.rest.length ≤ front.rest.length → Reads Value cursor}
    (complete : ∀ (cursor : Cursor) (inside : cursor.rest.length ≤ front.rest.length)
      (content : Value) (next : Cursor), cursor.Advances content.spelling next →
        ∃ shorter, value cursor inside = .ok ⟨content, next, shorter⟩)
    (cursor : Cursor) (inside : cursor.rest.length ≤ front.rest.length)
    (field : String × Value) (next : Cursor)
    (moved : cursor.Advances (Value.entrySpelling field) next) :
    ∃ shorter, entry front value cursor inside = .ok ⟨field, next, shorter⟩ := by
  obtain ⟨behind, named, moved⟩ := advances_mul.mp moved
  obtain ⟨middle, sign, moved⟩ := advances_mul.mp moved
  obtain ⟨shorterKey, readKey⟩ := name_complete named
  obtain ⟨shorterColon, readColon⟩ := punct_complete sign (.punct .colon)
  have within : middle.rest.length ≤ front.rest.length :=
    Nat.le_trans (Nat.le_of_lt (Nat.lt_trans shorterColon shorterKey)) inside
  obtain ⟨shorter, readContent⟩ := complete middle within field.2 next moved
  simp only [entry, readKey, ok_bind, readColon, readContent]
  exact ⟨Nat.lt_trans shorter (Nat.lt_trans shorterColon shorterKey), rfl⟩

theorem begins_value (content : Value) :
    Begins [.punct .bracketClose] content.spelling := by
  cases content with
  | null => exact begins_single (by simp)
  | boolean truth => cases truth <;> exact begins_single (by simp)
  | int number => exact begins_single (by simp)
  | float number => exact begins_single (by simp)
  | string text => exact begins_add (begins_single (by simp)) (begins_single (by simp))
  | enum name =>
      rw [Value.spelling]
      split
      · exact begins_zero
      · exact begins_single (by simp)
  | list items => exact begins_mul (begins_single (by simp))
  | object fields => exact begins_mul (begins_single (by simp))

theorem begins_entry (field : String × Value) :
    Begins [.punct .braceClose] (Value.entrySpelling field) :=
  begins_mul (begins_single (by simp))

theorem value_sound : Sound value Value.spelling := by
  intro cursor reading read
  induction cursor using value.induct with
  | case1 last =>
      rw [value] at read
      cases read
  | case2 number span rest last =>
      rw [value] at read
      cases read
      exact advances_single.mpr rfl
  | case3 number span rest last =>
      rw [value] at read
      cases read
      exact advances_single.mpr rfl
  | case4 text span rest last =>
      rw [value] at read
      cases read
      exact advances_add.mpr (Or.inl (advances_single.mpr rfl))
  | case5 text span rest last =>
      rw [value] at read
      cases read
      exact advances_add.mpr (Or.inr (advances_single.mpr rfl))
  | case6 name span rest last =>
      rw [value] at read
      cases read
      change Advances _ (wordValue name).spelling _
      rw [spelling_wordValue]
      exact advances_single.mpr rfl
  | case7 span rest last ih =>
      rw [value] at read
      obtain ⟨items, readItems, read⟩ := bind_eq_ok_iff.mp read
      cases read
      have moved := itemsUntil_sound (fun inner inside _ readItem => ih inner inside readItem)
        readItems
      rw [Value.spelling, itemsSpelling_eq]
      exact advances_mul.mpr ⟨⟨rest, span⟩, advances_single.mpr rfl, moved⟩
  | case8 span rest last ih =>
      rw [value] at read
      obtain ⟨fields, readFields, read⟩ := bind_eq_ok_iff.mp read
      cases read
      have moved := itemsUntil_sound
        (entry_sound fun inner inside _ readItem => ih inner inside readItem) readFields
      rw [Value.spelling, fieldsSpelling_eq]
      exact advances_mul.mpr ⟨⟨rest, span⟩, advances_single.mpr rfl, moved⟩
  | case9 span rest last =>
      rw [value] at read
      cases read
  | case10 other span rest last notBracket notBrace notDollar =>
      rw [value] at read
      · cases read
      · exact notBracket
      · exact notBrace
      · exact notDollar

/-- A value that is a single lexeme is read at the lexeme. -/
theorem value_of_single {cursor next : Cursor} {token : Token} {content : Value}
    (reads : ∀ span rest last,
      value ⟨⟨token, span⟩ :: rest, last⟩ = .ok (.single content rest span))
    (moved : cursor.Advances (single token) next) :
    ∃ shorter, value cursor = .ok ⟨content, next, shorter⟩ := by
  obtain ⟨rest, last⟩ := cursor
  have front : rest = _ := advances_single.mp moved
  subst front
  exact ⟨Nat.lt_succ_self _, reads _ _ _⟩

theorem value_of_word {cursor next : Cursor} {name : String}
    (moved : cursor.Advances (word name) next) :
    ∃ shorter, value cursor = .ok ⟨wordValue name, next, shorter⟩ :=
  value_of_single (fun _ _ _ => by rw [value]) moved

theorem value_of_quotation {cursor next : Cursor} {text : String}
    (moved : cursor.Advances (quotation text) next) :
    ∃ shorter, value cursor = .ok ⟨.string text, next, shorter⟩ := by
  rcases advances_add.mp moved with quoted | block
  · exact value_of_single (fun _ _ _ => by rw [value]) quoted
  · exact value_of_single (fun _ _ _ => by rw [value]) block

/-- Values are read completely at cursors in front of which there are fewer lexemes. -/
def CompleteBelow (bound : Nat) : Prop :=
  ∀ (cursor : Cursor) (content : Value) (next : Cursor), cursor.rest.length < bound →
    cursor.Advances content.spelling next →
      ∃ shorter, value cursor = .ok ⟨content, next, shorter⟩

theorem value_of_items {cursor next : Cursor} {items : List Value}
    (below : CompleteBelow cursor.rest.length)
    (moved : cursor.Advances (Value.list items).spelling next) :
    ∃ shorter, value cursor = .ok ⟨.list items, next, shorter⟩ := by
  obtain ⟨rest, last⟩ := cursor
  rw [Value.spelling, itemsSpelling_eq] at moved
  obtain ⟨⟨innerRest, innerLast⟩, opened, inside⟩ := advances_mul.mp moved
  have front : rest = _ := advances_single.mp opened
  subst front
  have each : ∀ (cursor : Cursor) (_ : cursor.rest.length ≤ innerRest.length)
      (item : Value) (next : Cursor), cursor.Advances item.spelling next →
      Clear [] next.rest → ∃ shorter, value cursor = .ok ⟨item, next, shorter⟩ :=
    fun cursor inside item next moved _ =>
      below cursor item next (Nat.lt_succ_of_le inside) moved
  obtain ⟨shorter, readItems⟩ :=
    itemsUntil_complete each begins_value (by simp) (Nat.le_refl _) inside
  rw [value]
  simp only [readItems, ok_bind]
  exact ⟨Nat.lt_succ_of_lt shorter, rfl⟩

theorem value_of_fields {cursor next : Cursor} {fields : List (String × Value)}
    (below : CompleteBelow cursor.rest.length)
    (moved : cursor.Advances (Value.object fields).spelling next) :
    ∃ shorter, value cursor = .ok ⟨.object fields, next, shorter⟩ := by
  obtain ⟨rest, last⟩ := cursor
  rw [Value.spelling, fieldsSpelling_eq] at moved
  obtain ⟨⟨innerRest, innerLast⟩, opened, inside⟩ := advances_mul.mp moved
  have front : rest = _ := advances_single.mp opened
  subst front
  have entries : ∀ (cursor : Cursor) (inside : cursor.rest.length ≤ innerRest.length)
      (field : String × Value) (next : Cursor),
      cursor.Advances (Value.entrySpelling field) next → Clear [] next.rest →
      ∃ shorter, entry ⟨innerRest, innerLast⟩ (fun inner _ => value inner) cursor inside =
        .ok ⟨field, next, shorter⟩ :=
    fun cursor inside field next moved _ =>
      entry_complete (fun cursor inside content next moved =>
        below cursor content next (Nat.lt_succ_of_le inside) moved) cursor inside field next moved
  obtain ⟨shorter, readFields⟩ :=
    itemsUntil_complete entries begins_entry (by simp) (Nat.le_refl _) inside
  rw [value]
  simp only [readFields, ok_bind]
  exact ⟨Nat.lt_succ_of_lt shorter, rfl⟩

theorem value_complete : Complete value Value.spelling [] := by
  intro cursor next content moved _
  induction cursor using shorter_induction generalizing next content with
  | step cursor ih =>
      have below : CompleteBelow cursor.rest.length :=
        fun inner content next shorter moved => ih inner shorter moved (by simp [Clear])
      cases content with
      | null => exact value_of_word moved
      | boolean truth => cases truth <;> exact value_of_word moved
      | int number => exact value_of_single (fun _ _ _ => by rw [value]) moved
      | float number => exact value_of_single (fun _ _ _ => by rw [value]) moved
      | string text => exact value_of_quotation moved
      | enum name =>
          rw [Value.spelling] at moved
          split at moved
          · exact absurd moved not_advances_zero
          · rename_i free
            have bare : wordValue name = .enum name := by
              simp only [isReserved, Bool.or_eq_true, decide_eq_true_eq, not_or] at free
              simp [wordValue, free]
            rw [← bare]
            exact value_of_word moved
      | list items => exact value_of_items below moved
      | object fields => exact value_of_fields below moved

/-! ## Type references -/

theorem marked_sound {before : Cursor} {inner : Reading TypeRef before}
    (unmarked : inner.value.isNonNull = false)
    (moved : before.Advances inner.value.spelling inner.next) :
    before.Advances (marked inner).value.spelling (marked inner).next := by
  unfold marked
  split
  · exact moved
  · rename_i bang found
    simp only [TypeRef.spelling, unmarked]
    exact advances_mul.mpr ⟨inner.next, moved, punct?_sound found⟩

theorem marked_of_clear {before next : Cursor} {type : TypeRef}
    (shorter : next.rest.length < before.rest.length)
    (clear : Clear [.punct .bang] next.rest) :
    marked ⟨type, next, shorter⟩ = (⟨type, next, shorter⟩ : Reading TypeRef before) := by
  simp only [marked, punct?_eq_none clear]

theorem marked_of_bang {before middle next : Cursor} {type : TypeRef}
    (shorter : middle.rest.length < before.rest.length)
    (moved : middle.Advances (mark .bang) next) :
    ∃ shorterMark, marked ⟨type, middle, shorter⟩ =
      (⟨.nonNull type, next, shorterMark⟩ : Reading TypeRef before) := by
  obtain ⟨shorterBang, found⟩ := punct?_complete moved
  exact ⟨Nat.lt_trans shorterBang shorter, by simp only [marked, found]⟩

theorem typeRef_sound : Sound typeRef TypeRef.spelling := by
  intro cursor reading read
  induction cursor using typeRef.induct with
  | case1 cursor notList =>
      rw [typeRef, notList] at read
      obtain ⟨base, readBase, rfl⟩ := map_eq_ok_iff.mp read
      exact marked_sound rfl (name_sound readBase)
  | case2 cursor opening found ih =>
      rw [typeRef, found] at read
      obtain ⟨item, readItem, read⟩ := bind_eq_ok_iff.mp read
      obtain ⟨closing, readClosing, read⟩ := bind_eq_ok_iff.mp read
      cases read
      apply marked_sound rfl
      exact advances_mul.mpr ⟨opening.next, punct?_sound found,
        advances_mul.mpr ⟨item.next, ih readItem, punct_sound readClosing⟩⟩

theorem typeRef_of_name {cursor next : Cursor} {name : String}
    (moved : cursor.Advances (word name) next) :
    ∃ shorter, typeRef cursor = .ok (marked ⟨.named name, next, shorter⟩) := by
  have notList : cursor.punct? .bracketOpen = none :=
    punct?_eq_none (moved.clear_of_begins (begins_single (by simp)))
  obtain ⟨shorter, readName⟩ := name_complete moved
  rw [typeRef, notList]
  simp only [readName]
  exact ⟨shorter, rfl⟩

theorem typeRef_of_list {cursor next : Cursor} {item : TypeRef}
    (complete : ∀ {cursor next : Cursor}, cursor.Advances item.spelling next →
      Clear [.punct .bang] next.rest → ∃ shorter, typeRef cursor = .ok ⟨item, next, shorter⟩)
    (moved : cursor.Advances (TypeRef.list item).spelling next) :
    ∃ shorter, typeRef cursor = .ok (marked ⟨.list item, next, shorter⟩) := by
  obtain ⟨inner, opened, inside⟩ := advances_mul.mp moved
  obtain ⟨behind, moved, closed⟩ := advances_mul.mp inside
  have clear : Clear [.punct .bang] behind.rest :=
    closed.clear_of_begins (begins_single (by simp))
  obtain ⟨shorterOpening, found⟩ := punct?_complete opened
  obtain ⟨shorterItem, readItem⟩ := complete moved clear
  obtain ⟨shorterClosing, readClosing⟩ := punct_complete closed (.punct .bracketClose)
  rw [typeRef, found]
  simp only [readItem, ok_bind, readClosing]
  exact ⟨Nat.lt_trans shorterClosing (Nat.lt_trans shorterItem shorterOpening), rfl⟩

theorem typeRef_of_clear {cursor next : Cursor} {type : TypeRef}
    (read : ∃ shorter, typeRef cursor = .ok (marked ⟨type, next, shorter⟩))
    (clear : Clear [.punct .bang] next.rest) :
    ∃ shorter, typeRef cursor = .ok ⟨type, next, shorter⟩ := by
  obtain ⟨shorter, read⟩ := read
  exact ⟨shorter, by rw [read, marked_of_clear shorter clear]⟩

/-- A type without a mark of its own is read up to where its mark would stand. -/
theorem typeRef_complete_unmarked (type : TypeRef) :
    (∀ {cursor next : Cursor}, type.isNonNull = false →
      cursor.Advances type.spelling next →
        ∃ shorter, typeRef cursor = .ok (marked ⟨type, next, shorter⟩)) ∧
    ∀ {cursor next : Cursor}, cursor.Advances type.spelling next →
      Clear [.punct .bang] next.rest →
        ∃ shorter, typeRef cursor = .ok ⟨type, next, shorter⟩ := by
  induction type with
  | named name =>
      exact ⟨fun _ moved => typeRef_of_name moved,
        fun moved clear => typeRef_of_clear (typeRef_of_name moved) clear⟩
  | list item ih =>
      exact ⟨fun _ moved => typeRef_of_list ih.2 moved,
        fun moved clear => typeRef_of_clear (typeRef_of_list ih.2 moved) clear⟩
  | nonNull inner ih =>
      constructor
      · intro cursor next contrary
        cases contrary
      · intro cursor next moved clear
        rw [TypeRef.spelling] at moved
        split at moved
        · exact absurd moved not_advances_zero
        · rename_i unmarked
          obtain ⟨behind, moved, bang⟩ := advances_mul.mp moved
          obtain ⟨shorter, read⟩ := ih.1 (Bool.eq_false_iff.mpr unmarked) moved
          obtain ⟨shorterMark, isMarked⟩ := marked_of_bang shorter bang
          exact ⟨shorterMark, by rw [read, isMarked]⟩

theorem typeRef_complete : Complete typeRef TypeRef.spelling [.punct .bang] :=
  fun moved clear => (typeRef_complete_unmarked _).2 moved clear

/-! ## Directives -/

theorem argument_sound (directive : String) : Sound (argument directive) Argument.spelling := by
  intro cursor reading read
  simp only [argument] at read
  obtain ⟨name, readName, read⟩ := bind_eq_ok_iff.mp read
  obtain ⟨colon, readColon, read⟩ := bind_eq_ok_iff.mp read
  obtain ⟨content, readContent, read⟩ := bind_eq_ok_iff.mp read
  cases read
  refine (advances_covering ?_).mpr ⟨?_, rfl⟩
  · exact Nat.lt_trans content.shorter (Nat.lt_trans colon.shorter name.shorter)
  · exact advances_mul.mpr ⟨name.next, name_sound readName,
      advances_mul.mpr ⟨colon.next, punct_sound readColon, value_sound readContent⟩⟩

/-- The cursor moves on over a language whose sequences are not empty. -/
theorem Advances.length_lt {cursor next : Cursor} {language : Language Lexeme}
    (moved : cursor.Advances language next) (begins : Begins [] language) :
    next.rest.length < cursor.rest.length := by
  obtain ⟨used, member, rest, -⟩ := moved
  have nonempty := List.length_pos_iff.mpr (begins used member).1
  rw [rest, List.length_append]
  omega

theorem begins_argument (stops : List Token) (marks : ∀ name, .name name ∉ stops)
    (argument : Argument) : Begins stops argument.spelling :=
  begins_covering _ (begins_mul (begins_single (marks _)))

theorem argument_complete (directive : String) :
    Complete (argument directive) Argument.spelling [] := by
  intro cursor next written moved _
  have shorter := moved.length_lt (begins_argument [] (by simp) written)
  obtain ⟨moved, covers⟩ := (advances_covering shorter).mp moved
  obtain ⟨behind, named, moved⟩ := advances_mul.mp moved
  obtain ⟨middle, sign, moved⟩ := advances_mul.mp moved
  obtain ⟨shorterName, readName⟩ := name_complete named
  obtain ⟨shorterColon, readColon⟩ :=
    punct_complete sign (.argumentValue directive written.name)
  obtain ⟨shorterValue, readValue⟩ := value_complete moved (by simp [Clear])
  simp only [argument, readName, ok_bind, readColon, readValue, covers]
  exact ⟨shorter, rfl⟩

theorem directiveBehind_sound {start : Span} {cursor : Cursor}
    {reading : Reading Directive cursor} (read : directiveBehind start cursor = .ok reading) :
    cursor.Advances reading.value.body reading.next ∧
      reading.next.spanSince start = reading.value.span := by
  simp only [directiveBehind] at read
  obtain ⟨name, readName, read⟩ := bind_eq_ok_iff.mp read
  obtain ⟨arguments, readArguments, read⟩ := bind_eq_ok_iff.mp read
  cases read
  exact ⟨advances_mul.mpr ⟨name.next, name_sound readName,
    enclosed_sound (argument_sound name.value) readArguments⟩, rfl⟩

theorem directiveBehind_complete {start : Span} {cursor next : Cursor} {directive : Directive}
    (moved : cursor.Advances directive.body next) (clear : Clear [.punct .parenOpen] next.rest)
    (covers : next.spanSince start = directive.span) :
    ∃ shorter, directiveBehind start cursor = .ok ⟨directive, next, shorter⟩ := by
  obtain ⟨behind, named, moved⟩ := advances_mul.mp moved
  obtain ⟨shorter, readName⟩ := name_complete named
  obtain ⟨notLonger, readArguments⟩ :=
    enclosed_complete (argument_complete directive.name)
      (begins_argument [.punct .parenClose] (by simp)) (by simp) moved clear
  simp only [directiveBehind, readName, ok_bind, readArguments, covers]
  exact ⟨Nat.lt_of_le_of_lt notLonger shorter, rfl⟩

theorem begins_directive (stops : List Token) (other : .punct .atSign ∉ stops)
    (directive : Directive) : Begins stops directive.spelling :=
  begins_covering _ (begins_mul (begins_single other))

theorem fresh_annotations {stops : List Token} (other : .punct .atSign ∉ stops)
    (directives : List Directive) : Fresh stops (annotations directives) :=
  fresh_sequenced fun directive => (begins_directive stops other directive).fresh

theorem directives_sound {cursor : Cursor} {passing : Passing (List Directive) cursor}
    (read : directives cursor = .ok passing) :
    cursor.Advances (annotations passing.value) passing.next := by
  induction cursor using directives.induct with
  | case1 cursor absent =>
      rw [directives, absent] at read
      cases read
      exact advances_one.mpr rfl
  | case2 cursor sign found ih =>
      rw [directives, found] at read
      obtain ⟨first, readFirst, read⟩ := bind_eq_ok_iff.mp read
      obtain ⟨others, readOthers, read⟩ := bind_eq_ok_iff.mp read
      cases read
      obtain ⟨moved, covers⟩ := directiveBehind_sound readFirst
      have whole : cursor.Advances first.value.spelling first.next :=
        (advances_covering (Nat.lt_trans first.shorter sign.shorter)).mpr
          ⟨advances_mul.mpr ⟨sign.next, punct?_sound found, moved⟩, covers⟩
      rw [annotations, sequenced_cons]
      exact advances_mul.mpr ⟨first.next, whole, ih first readOthers⟩

theorem directives_complete {cursor next : Cursor} {written : List Directive}
    (moved : cursor.Advances (annotations written) next)
    (clear : Clear [.punct .atSign, .punct .parenOpen] next.rest) :
    ∃ notLonger, directives cursor = .ok ⟨written, next, notLonger⟩ := by
  induction written generalizing cursor with
  | nil =>
      rw [advances_one.mp moved] at clear ⊢
      rw [directives, punct?_eq_none (clear.mono (by simp))]
      exact ⟨Nat.le_refl _, rfl⟩
  | cons first others ih =>
      rw [annotations, sequenced_cons] at moved
      obtain ⟨behind, front, back⟩ := advances_mul.mp moved
      have clearBehind : Clear [.punct .parenOpen] behind.rest :=
        back.clear (fresh_annotations (by simp) others) (clear.mono (by simp))
      have shorter := front.length_lt (begins_directive [] (by simp) first)
      obtain ⟨front, covers⟩ := (advances_covering shorter).mp front
      obtain ⟨middle, sign, body⟩ := advances_mul.mp front
      obtain ⟨shorterSign, found⟩ := punct?_complete sign
      obtain ⟨shorterFirst, readFirst⟩ := directiveBehind_complete body clearBehind covers
      obtain ⟨notLonger, readOthers⟩ := ih back
      rw [directives, found]
      simp only [readFirst, ok_bind, readOthers]
      exact ⟨Nat.le_trans notLonger (Nat.le_of_lt shorter), rfl⟩

end EntityMapping.Document.Cursor
