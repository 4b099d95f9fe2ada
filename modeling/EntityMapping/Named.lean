/-!
# Items in order of first mention

A list whose items carry names.  Putting an item replaces the first one of its
name in place, or else appends it.
-/

namespace EntityMapping.Named

variable {α : Type}

/-- Put an item in the place of the one with its name, or else at the end. -/
def put (name : α → String) (item : α) : List α → List α
  | [] => [item]
  | first :: rest =>
      if name first = name item then item :: rest else first :: put name item rest

/-- The first item of a name. -/
def find? (name : α → String) (wanted : String) (items : List α) : Option α :=
  items.find? fun item => name item == wanted

theorem find?_put_self (name : α → String) (item : α) (items : List α) :
    find? name (name item) (put name item items) = some item := by
  induction items with
  | nil => simp [put, find?]
  | cons first rest ih =>
      simp only [put]
      split
      · simp [find?]
      · rename_i distinct
        simp only [find?] at ih ⊢
        simp [distinct, ih]

theorem find?_put_of_ne (name : α → String) (item : α) (items : List α)
    {other : String} (distinct : other ≠ name item) :
    find? name other (put name item items) = find? name other items := by
  have unequal : ¬ name item = other := fun equal => distinct equal.symm
  induction items with
  | nil => simp [put, find?, unequal]
  | cons first rest ih =>
      simp only [put]
      split
      · rename_i same
        simp [find?, same, unequal]
      · simp only [find?] at ih ⊢
        simp only [List.find?_cons]
        split
        · rfl
        · exact ih

/-- What is found under its name after putting: the new item, and the old ones of other
names. -/
theorem find?_put_eq_some_iff (name : α → String) (item other : α) (items : List α) :
    find? name (name other) (put name item items) = some other ↔
      other = item ∨
        (find? name (name other) items = some other ∧ name item ≠ name other) := by
  by_cases same : name item = name other
  · rw [← same, find?_put_self]
    constructor
    · intro found
      cases found
      exact Or.inl rfl
    · rintro (rfl | ⟨-, distinct⟩)
      · rfl
      · exact absurd rfl distinct
  · rw [find?_put_of_ne name item items (Ne.symm same)]
    constructor
    · exact fun found => Or.inr ⟨found, same⟩
    · rintro (rfl | ⟨found, -⟩)
      · exact absurd rfl same
      · exact found

/-- The names after putting: those before, with the new one behind them unless it
was there. -/
theorem map_name_put (name : α → String) (item : α) (items : List α) :
    (put name item items).map name =
      if name item ∈ items.map name then items.map name
      else items.map name ++ [name item] := by
  induction items with
  | nil => simp [put]
  | cons first rest ih =>
      simp only [put]
      split
      · rename_i same
        simp [same]
      · rename_i distinct
        have different : ¬ name item = name first := fun equal => distinct equal.symm
        simp only [List.map_cons, ih, List.mem_cons, different, false_or]
        split <;> simp

theorem put_of_not_mem {name : α → String} {item : α} {items : List α}
    (absent : name item ∉ items.map name) : put name item items = items ++ [item] := by
  induction items with
  | nil => rfl
  | cons first rest ih =>
      rw [List.map_cons, List.mem_cons, not_or] at absent
      rw [put, if_neg fun same => absent.1 same.symm, ih absent.2, List.cons_append]

/-- Of two items of one name that are put, the last one stays. -/
theorem put_put (name : α → String) {item other : α} (same : name item = name other)
    (items : List α) : put name item (put name other items) = put name item items := by
  induction items with
  | nil => simp [put, same]
  | cons first rest ih =>
      rw [put, put, ← same]
      by_cases isFirst : name first = name item
      · rw [if_pos isFirst, if_pos isFirst, put, if_pos same.symm]
      · rw [if_neg isFirst, if_neg isFirst, put, if_neg isFirst, ih]

/-- Items of different names can be put in either order if one has a place already. -/
theorem put_comm {name : α → String} {item other : α} {items : List α}
    (different : name item ≠ name other) (present : name item ∈ items.map name) :
    put name item (put name other items) = put name other (put name item items) := by
  induction items with
  | nil => cases present
  | cons first rest ih =>
      rw [put, put]
      by_cases isItem : name first = name item
      · have notOther : name first ≠ name other := isItem ▸ different
        rw [if_pos isItem, if_neg notOther, put, if_pos isItem, put, if_neg different]
      · rw [if_neg isItem]
        by_cases isOther : name first = name other
        · rw [if_pos isOther, put, if_neg different.symm, put, if_pos isOther]
        · rw [List.map_cons, List.mem_cons] at present
          have behind := present.resolve_left (Ne.symm isItem)
          rw [if_neg isOther, put, if_neg isItem, put, if_neg isOther, ih behind]

theorem nodup_names_put (name : α → String) (item : α) {items : List α}
    (distinct : (items.map name).Nodup) : ((put name item items).map name).Nodup := by
  rw [map_name_put]
  split
  · exact distinct
  · rename_i absent
    rw [List.nodup_append]
    refine ⟨distinct, by simp, ?_⟩
    intro left leftMember right rightMember equal
    simp only [List.mem_singleton] at rightMember
    exact absent (rightMember ▸ equal ▸ leftMember)

theorem eq_or_mem_of_mem_put {name : α → String} {item other : α} {items : List α}
    (member : other ∈ put name item items) : other = item ∨ other ∈ items := by
  induction items with
  | nil => exact Or.inl (List.mem_singleton.mp member)
  | cons first rest ih =>
      rw [put] at member
      split at member
      · rcases List.mem_cons.mp member with same | later
        · exact Or.inl same
        · exact Or.inr (List.mem_cons_of_mem first later)
      · rcases List.mem_cons.mp member with rfl | later
        · exact Or.inr List.mem_cons_self
        · exact (ih later).imp_right (List.mem_cons_of_mem first)

/-- Putting an item keeps all names and adds that of the item. -/
theorem mem_names_put (name : α → String) (item : α) (items : List α) (wanted : String) :
    wanted ∈ (put name item items).map name ↔ wanted ∈ items.map name ∨ wanted = name item := by
  rw [map_name_put]
  split
  · rename_i present
    constructor
    · exact Or.inl
    · rintro (member | rfl)
      · exact member
      · exact present
  · rw [List.mem_append, List.mem_singleton]

/-- Where names are distinct, every item is found under its name. -/
theorem find?_eq_some_iff_mem {name : α → String} {item : α} {items : List α}
    (distinct : (items.map name).Nodup) :
    find? name (name item) items = some item ↔ item ∈ items := by
  induction items with
  | nil => simp [find?]
  | cons first rest ih =>
      rw [List.map_cons, List.nodup_cons] at distinct
      rw [find?, List.find?_cons, List.mem_cons]
      cases same : name first == name item with
      | true =>
          constructor
          · intro found
            cases found
            exact Or.inl rfl
          · rintro (rfl | later)
            · rfl
            · rw [beq_iff_eq] at same
              exact absurd (List.mem_map.mpr ⟨item, later, same.symm⟩) distinct.1
      | false =>
          refine (ih distinct.2).trans ⟨Or.inr, ?_⟩
          rintro (rfl | later)
          · rw [beq_self_eq_true] at same
            cases same
          · exact later

end EntityMapping.Named
