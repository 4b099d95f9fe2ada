/-!
# Entries sorted by key

A finite map from texts, kept as the list of its entries in increasing order of
keys.  Inserting under a key that is present replaces its value.
-/

namespace EntityMapping

/-- Entries of a map; operations keep them sorted by key. -/
abbrev Keyed (α : Type) := List (String × α)

namespace Keyed

variable {α : Type}

/-- Put a value under a key, replacing the one that was there. -/
def insert (key : String) (value : α) : Keyed α → Keyed α
  | [] => [(key, value)]
  | entry :: rest =>
      if key < entry.1 then (key, value) :: entry :: rest
      else if key = entry.1 then (key, value) :: rest
      else entry :: insert key value rest

/-- Insert entries one after another, so that the last of several with one key
stays. -/
def override (base : Keyed α) (entries : List (String × α)) : Keyed α :=
  entries.foldl (fun all entry => insert entry.1 entry.2 all) base

/-- The map with the given entries. -/
def ofEntries (entries : List (String × α)) : Keyed α :=
  override [] entries

/-- The keys in order. -/
def keys (entries : Keyed α) : List String :=
  entries.map Prod.fst

/-- Whether the keys increase strictly. -/
def Sorted (entries : Keyed α) : Prop :=
  entries.Pairwise fun left right => left.1 < right.1

theorem lookup_insert_self (key : String) (value : α) (entries : Keyed α) :
    (insert key value entries).lookup key = some value := by
  induction entries with
  | nil => simp [insert]
  | cons entry rest ih =>
      obtain ⟨first, stored⟩ := entry
      simp only [insert]
      split
      · simp
      · split
        · simp
        · rename_i notSmaller notEqual
          have distinct : (key == first) = false := by simpa using notEqual
          simp [List.lookup_cons, distinct, ih]

theorem lookup_insert_of_ne {key other : String} (value : α) (entries : Keyed α)
    (distinct : other ≠ key) :
    (insert key value entries).lookup other = entries.lookup other := by
  have unequal : (other == key) = false := by simpa using distinct
  induction entries with
  | nil => simp [insert, List.lookup_cons, unequal]
  | cons entry rest ih =>
      obtain ⟨first, stored⟩ := entry
      simp only [insert]
      split
      · simp [List.lookup_cons, unequal]
      · split
        · rename_i notSmaller equal
          have replaced : (other == first) = false := by simpa [← equal] using distinct
          simp [List.lookup_cons, unequal, replaced]
        · simp [List.lookup_cons, ih]

/-- Under a key stands what comes last under it, or else what was there before. -/
theorem lookup_override (key : String) (base : Keyed α) (entries : List (String × α)) :
    (override base entries).lookup key = (entries.reverse.lookup key).or (base.lookup key) := by
  induction entries generalizing base with
  | nil => simp [override]
  | cons entry rest ih =>
      obtain ⟨first, stored⟩ := entry
      have inserted := ih (insert first stored base)
      rw [List.reverse_cons, List.lookup_append, Option.or_assoc]
      refine inserted.trans (congrArg _ ?_)
      by_cases same : key = first
      · rw [same, lookup_insert_self, List.lookup_cons_self, Option.some_or]
      · have different : (key == first) = false := by simpa using same
        rw [lookup_insert_of_ne stored base same, List.lookup_cons, different, List.lookup_nil,
          Option.none_or]

theorem lookup_ofEntries (key : String) (entries : List (String × α)) :
    (ofEntries entries).lookup key = entries.reverse.lookup key := by
  rw [ofEntries, lookup_override, List.lookup_nil, Option.or_none]

theorem mem_keys_insert (key : String) (value : α) (entries : Keyed α) (other : String) :
    other ∈ (insert key value entries).keys ↔ other = key ∨ other ∈ entries.keys := by
  induction entries with
  | nil => simp [insert, keys]
  | cons entry rest ih =>
      simp only [insert]
      split
      · simp [keys]
      · split
        · rename_i notSmaller equal
          simp [keys, equal]
        · simp only [keys, List.map_cons, List.mem_cons] at ih ⊢
          rw [ih]
          constructor
          · rintro (first | second | third)
            · exact Or.inr (Or.inl first)
            · exact Or.inl second
            · exact Or.inr (Or.inr third)
          · rintro (first | second | third)
            · exact Or.inr (Or.inl first)
            · exact Or.inl second
            · exact Or.inr (Or.inr third)

theorem mem_keys_override (base : Keyed α) (entries : List (String × α)) (other : String) :
    other ∈ (override base entries).keys ↔
      other ∈ base.keys ∨ other ∈ entries.map Prod.fst := by
  induction entries generalizing base with
  | nil => simp [override]
  | cons entry rest ih =>
      have inserted := ih (insert entry.1 entry.2 base)
      rw [mem_keys_insert, or_assoc, or_left_comm] at inserted
      rw [List.map_cons, List.mem_cons]
      exact inserted

theorem mem_keys_of_lookup {key : String} {value : α} {entries : Keyed α}
    (found : entries.lookup key = some value) : key ∈ entries.keys := by
  obtain ⟨front, back, split, -⟩ := List.lookup_eq_some_iff.mp found
  rw [split, keys, List.map_append]
  exact List.mem_append_right _ List.mem_cons_self

theorem sorted_nil : Sorted ([] : Keyed α) := List.Pairwise.nil

theorem sorted_insert (key : String) (value : α) {entries : Keyed α}
    (sorted : entries.Sorted) : (insert key value entries).Sorted := by
  induction entries with
  | nil => simp [insert, Sorted]
  | cons entry rest ih =>
      obtain ⟨smallest, restSorted⟩ := List.pairwise_cons.mp sorted
      simp only [insert]
      split
      · rename_i smaller
        refine List.pairwise_cons.mpr ⟨?_, sorted⟩
        intro other member
        rcases List.mem_cons.mp member with rfl | member
        · exact smaller
        · exact String.lt_trans smaller (smallest other member)
      · split
        · rename_i notSmaller equal
          subst equal
          exact List.pairwise_cons.mpr ⟨smallest, restSorted⟩
        · rename_i notSmaller notEqual
          refine List.pairwise_cons.mpr ⟨?_, ih restSorted⟩
          intro other member
          have greater : entry.1 < key :=
            Std.lt_of_le_of_ne (String.not_lt.mp notSmaller) (Ne.symm notEqual)
          have inKeys : other.1 ∈ (insert key value rest).keys :=
            List.mem_map_of_mem member
          rcases (mem_keys_insert key value rest other.1).mp inKeys with equal | inRest
          · exact equal ▸ greater
          · obtain ⟨found, foundMember, sameKey⟩ := List.mem_map.mp inRest
            exact sameKey ▸ smallest found foundMember

theorem sorted_override {base : Keyed α} (sorted : base.Sorted)
    (entries : List (String × α)) : (override base entries).Sorted := by
  induction entries generalizing base with
  | nil => exact sorted
  | cons entry rest ih => exact ih (sorted_insert entry.1 entry.2 sorted)

theorem sorted_ofEntries (entries : List (String × α)) : (ofEntries entries).Sorted :=
  sorted_override sorted_nil entries

end Keyed

end EntityMapping
