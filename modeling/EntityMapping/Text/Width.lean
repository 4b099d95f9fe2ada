/-!
# Width of a text in bytes

Source locations are byte offsets into the UTF-8 form of a text, while texts
themselves are lists of characters.  The byte width of a list of characters
is the link between the two.
-/

namespace EntityMapping.Text

/-- Number of bytes that the characters take in UTF-8. -/
def byteWidth : List Char → Nat
  | [] => 0
  | first :: rest => first.utf8Size + byteWidth rest

theorem byteWidth_append (left right : List Char) :
    byteWidth (left ++ right) = byteWidth left + byteWidth right := by
  induction left with
  | nil => simp [byteWidth]
  | cons first rest ih => simp [byteWidth, ih, Nat.add_assoc]

theorem utf8ByteSize_ofList (text : List Char) :
    (String.ofList text).utf8ByteSize = byteWidth text := by
  induction text with
  | nil => rfl
  | cons first rest ih =>
      rw [String.ofList_cons, String.utf8ByteSize_append, String.utf8ByteSize_singleton, ih]
      rfl

theorem byteWidth_toList (source : String) : byteWidth source.toList = source.utf8ByteSize := by
  rw [← utf8ByteSize_ofList, String.ofList_toList]

theorem byteWidth_pos_of_ne_nil {text : List Char} (nonempty : text ≠ []) :
    0 < byteWidth text := by
  cases text with
  | nil => exact absurd rfl nonempty
  | cons first rest =>
      have := first.utf8Size_pos
      simp only [byteWidth]
      omega

theorem eq_nil_of_byteWidth_eq_zero {text : List Char} (empty : byteWidth text = 0) :
    text = [] := by
  cases text with
  | nil => rfl
  | cons first rest =>
      have := byteWidth_pos_of_ne_nil (List.cons_ne_nil first rest)
      omega

/-- What stands in front of a text up to a place behind a part of it begins with this part. -/
theorem append_of_byteWidth_le {front rest before behind : List Char}
    (same : front ++ rest = before ++ behind) (notBefore : byteWidth front ≤ byteWidth before) :
    ∃ more, before = front ++ more ∧ rest = more ++ behind := by
  rcases List.append_eq_append_iff.mp same with ⟨more, isBefore, isRest⟩ | ⟨more, rfl, rfl⟩
  · exact ⟨more, isBefore, isRest⟩
  · rw [byteWidth_append] at notBefore
    have nothing : more = [] := eq_nil_of_byteWidth_eq_zero (by omega)
    subst nothing
    exact ⟨[], by simp, by simp⟩

theorem append_inj_of_byteWidth_eq {front rest before behind : List Char}
    (same : front ++ rest = before ++ behind) (width : byteWidth front = byteWidth before) :
    before = front ∧ behind = rest := by
  obtain ⟨more, rfl, isRest⟩ := append_of_byteWidth_le same (Nat.le_of_eq width)
  rw [byteWidth_append] at width
  have nothing : more = [] := eq_nil_of_byteWidth_eq_zero (by omega)
  subst nothing
  exact ⟨List.append_nil front, isRest.symm⟩

theorem byteWidth_replicate (count : Nat) (c : Char) :
    byteWidth (List.replicate count c) = count * c.utf8Size := by
  induction count with
  | zero => exact (Nat.zero_mul _).symm
  | succ count ih => rw [List.replicate_succ, byteWidth, ih, Nat.succ_mul, Nat.add_comm]

/-- The characters whose first byte lies before the given byte offset. -/
def charsBefore : Nat → List Char → List Char
  | _, [] => []
  | offset, first :: rest =>
      if offset = 0 then [] else first :: charsBefore (offset - first.utf8Size) rest

theorem charsBefore_zero (text : List Char) : charsBefore 0 text = [] := by
  cases text <;> simp [charsBefore]

/-- At a character boundary the characters before the offset are exactly the
prefix that ends there. -/
theorem charsBefore_byteWidth (left right : List Char) :
    charsBefore (byteWidth left) (left ++ right) = left := by
  induction left with
  | nil => simp [byteWidth, charsBefore_zero]
  | cons first rest ih =>
      have positive : first.utf8Size + byteWidth rest ≠ 0 := by
        have := first.utf8Size_pos
        omega
      rw [List.cons_append, byteWidth, charsBefore, if_neg positive,
        Nat.add_sub_cancel_left, ih]

end EntityMapping.Text
