import Mathlib.Data.List.Forall2

/-!
# Results of computations that can fail

When a computation that is put together from others succeeds, and with which error it
fails.
-/

namespace EntityMapping

variable {ε α β : Type}

theorem bind_eq_ok_iff {first : Except ε α} {next : α → Except ε β} {result : β} :
    first >>= next = .ok result ↔ ∃ value, first = .ok value ∧ next value = .ok result := by
  cases first with
  | error fault => simp [bind, Except.bind]
  | ok value => simp [bind, Except.bind]

theorem bind_eq_error_iff {first : Except ε α} {next : α → Except ε β} {fault : ε} :
    first >>= next = .error fault ↔
      first = .error fault ∨ ∃ value, first = .ok value ∧ next value = .error fault := by
  cases first with
  | error other => simp [bind, Except.bind]
  | ok value => simp [bind, Except.bind]

theorem map_eq_ok_iff {first : Except ε α} {f : α → β} {result : β} :
    first.map f = .ok result ↔ ∃ value, first = .ok value ∧ f value = result := by
  cases first with
  | error fault => simp [Except.map]
  | ok value => simp [Except.map]

theorem map_eq_error_iff {first : Except ε α} {f : α → β} {fault : ε} :
    first.map f = .error fault ↔ first = .error fault := by
  cases first with
  | error other => simp [Except.map]
  | ok value => simp [Except.map]

theorem mapError_eq_ok_iff {first : Except ε α} {f : ε → β} {result : α} :
    first.mapError f = .ok result ↔ first = .ok result := by
  constructor
  · intro mapped
    cases first with
    | error fault => cases mapped
    | ok value =>
        cases mapped
        rfl
  · rintro rfl
    rfl

theorem ok_bind (value : α) (next : α → Except ε β) :
    (.ok value : Except ε α) >>= next = next value := rfl

/-- What is made of a list is made of its items, one after another. -/
theorem forall₂_of_mapM_eq_ok {f : α → Except ε β} {items : List α} {results : List β}
    (made : items.mapM f = .ok results) :
    List.Forall₂ (fun item result => f item = .ok result) items results := by
  induction items generalizing results with
  | nil =>
      cases made
      exact .nil
  | cons first rest ih =>
      rw [List.mapM_cons] at made
      obtain ⟨head, ofFirst, made⟩ := bind_eq_ok_iff.mp made
      obtain ⟨tail, ofRest, made⟩ := bind_eq_ok_iff.mp made
      cases made
      exact .cons ofFirst (ih ofRest)

/-- Whatever stands in a list that is related to another, item by item, is related to an item of
that. -/
theorem exists_of_forall₂ {holds : α → β → Prop} {items : List α} {results : List β}
    (related : List.Forall₂ holds items results) :
    ∀ result ∈ results, ∃ item ∈ items, holds item result := by
  induction related with
  | nil => exact List.forall_mem_nil _
  | @cons first head rest tail ofFirst ofRest ih =>
      refine List.forall_mem_cons.mpr ⟨⟨first, List.mem_cons_self, ofFirst⟩, ?_⟩
      intro result member
      obtain ⟨item, among, ofItem⟩ := ih result member
      exact ⟨item, List.mem_cons_of_mem first among, ofItem⟩

/-- Whatever is made of a list comes from an item of it. -/
theorem exists_of_mapM_eq_ok {f : α → Except ε β} {items : List α} {results : List β}
    (made : items.mapM f = .ok results) :
    ∀ result ∈ results, ∃ item ∈ items, f item = .ok result :=
  exists_of_forall₂ (forall₂_of_mapM_eq_ok made)

/-- Every item of a list has its part in what is made of the list. -/
theorem exists_mem_of_mapM_eq_ok {f : α → Except ε β} {items : List α} {results : List β}
    (made : items.mapM f = .ok results) : ∀ item ∈ items, ∃ result ∈ results, f item = .ok result :=
  exists_of_forall₂ (forall₂_of_mapM_eq_ok made).flip

theorem exists_ok_of_mapM_eq_ok {f : α → Except ε β} {items : List α} {results : List β}
    (made : items.mapM f = .ok results) : ∀ item ∈ items, ∃ result, f item = .ok result := by
  intro item among
  obtain ⟨result, -, ofItem⟩ := exists_mem_of_mapM_eq_ok made item among
  exact ⟨result, ofItem⟩

/-- If something can be made of every item, it is made of the whole list, item by item. -/
theorem exists_mapM_eq_ok {f : α → Except ε β} {holds : α → β → Prop} {items : List α}
    (each : ∀ item ∈ items, ∃ result, f item = .ok result ∧ holds item result) :
    ∃ results, items.mapM f = .ok results ∧ List.Forall₂ holds items results := by
  induction items with
  | nil => exact ⟨[], rfl, .nil⟩
  | cons first rest ih =>
      obtain ⟨head, ofFirst, holdsFirst⟩ := each first List.mem_cons_self
      obtain ⟨tail, ofRest, holdsRest⟩ :=
        ih fun item member => each item (List.mem_cons_of_mem first member)
      refine ⟨head :: tail, ?_, .cons holdsFirst holdsRest⟩
      rw [List.mapM_cons, ofFirst, ok_bind, ofRest]
      rfl

/-- A list fails with the error of the first item that does. -/
theorem mapM_eq_error_iff {f : α → Except ε β} {items : List α} {fault : ε} :
    items.mapM f = .error fault ↔
      ∃ before item behind, items = before ++ item :: behind ∧
        (∀ earlier ∈ before, ∃ result, f earlier = .ok result) ∧ f item = .error fault := by
  induction items with
  | nil =>
      constructor
      · intro failed
        cases failed
      · rintro ⟨before, item, behind, split, -⟩
        simp at split
  | cons first rest ih =>
      rw [List.mapM_cons]
      constructor
      · intro failed
        rcases bind_eq_error_iff.mp failed with ofFirst | ⟨head, ofFirst, failed⟩
        · exact ⟨[], first, rest, rfl, List.forall_mem_nil _, ofFirst⟩
        · rcases bind_eq_error_iff.mp failed with ofRest | ⟨tail, -, made⟩
          · obtain ⟨before, item, behind, rfl, succeed, ofItem⟩ := ih.mp ofRest
            exact ⟨first :: before, item, behind, rfl,
              List.forall_mem_cons.mpr ⟨⟨head, ofFirst⟩, succeed⟩, ofItem⟩
          · cases made
      · rintro ⟨before, item, behind, split, succeed, ofItem⟩
        cases before with
        | nil =>
            cases split
            exact bind_eq_error_iff.mpr (Or.inl ofItem)
        | cons other before =>
            cases split
            obtain ⟨⟨head, ofFirst⟩, succeed⟩ := List.forall_mem_cons.mp succeed
            have ofRest := ih.mpr ⟨before, item, behind, rfl, succeed, ofItem⟩
            exact bind_eq_error_iff.mpr
              (Or.inr ⟨head, ofFirst, bind_eq_error_iff.mpr (Or.inl ofRest)⟩)

/-- What each step preserves, a successful run of steps preserves. -/
theorem foldlM_preserves {property : β → Prop} {step : β → α → Except ε β}
    (preserves : ∀ state item next, property state → step state item = .ok next → property next)
    {items : List α} {start final : β} (holds : property start)
    (run : items.foldlM step start = .ok final) : property final := by
  induction items generalizing start with
  | nil =>
      cases run
      exact holds
  | cons first rest ih =>
      rw [List.foldlM_cons] at run
      obtain ⟨next, stepped, run⟩ := bind_eq_ok_iff.mp run
      exact ih (preserves start first next holds stepped) run

end EntityMapping
