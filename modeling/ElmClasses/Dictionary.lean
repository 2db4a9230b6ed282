/-!
# Entries and dictionaries

A list of entries, each a key with a value, is how this library keeps whatever is looked up by a
key: the fields of an object, the formats of a configuration, the files of a disk. Of several
entries with one key the first counts.

A dictionary is a finite map from text to values whose entries are kept in ascending order of their
keys, compared by code points. Two dictionaries with the same entries are equal, whatever the order
in which the entries were put in, so a dictionary is a value and not a history.

## Main results

* `find?_insert`: a look-up after an insertion finds the new value under the new key, and what was
  there before under any other.
* `find?_ofList`: a dictionary made of a list of entries finds what the list holds.
-/

namespace ElmClasses

universe u v w

variable {α : Type u} {β : Type v} {γ : Type w} [BEq α] [LawfulBEq α]

/-- What a look-up finds is an entry. -/
theorem mem_of_lookup_eq_some {key : α} {value : β} {entries : List (α × β)}
    (h : entries.lookup key = some value) : (key, value) ∈ entries := by
  obtain ⟨before, behind, rfl, -⟩ := List.lookup_eq_some_iff.1 h
  exact List.mem_append_right _ List.mem_cons_self

/-- A look-up finds nothing where no entry has its key. -/
theorem lookup_eq_none_iff_not_mem {key : α} {entries : List (α × β)} :
    entries.lookup key = none ↔ ∀ value, (key, value) ∉ entries := by
  rw [List.lookup_eq_none_iff]
  constructor
  · intro hnone value hmem
    exact bne_iff_ne.1 (hnone (key, value) hmem) rfl
  · rintro hnot ⟨k, value⟩ hmem
    refine bne_iff_ne.2 ?_
    rintro rfl
    exact hnot value hmem

variable [DecidableEq α]

/-- What a look-up finds behind a first entry. -/
theorem lookup_cons_ite (key k : α) (value : β) (entries : List (α × β)) :
    ((key, value) :: entries).lookup k = if k = key then some value else entries.lookup k := by
  rw [List.lookup_cons]
  by_cases h : k = key
  · simp [h]
  · rw [if_neg h, beq_eq_false_iff_ne.2 h]

/-- A look-up does not miss entries with other keys. -/
theorem lookup_filter {keeps : α × β → Bool} {key : α} {entries : List (α × β)}
    (h : ∀ value, keeps (key, value) = true) :
    (entries.filter keeps).lookup key = entries.lookup key := by
  induction entries with
  | nil => rfl
  | cons entry entries ih =>
    obtain ⟨k, value⟩ := entry
    by_cases hkey : key = k
    · subst hkey
      rw [List.filter_cons_of_pos (h value), lookup_cons_ite, lookup_cons_ite, if_pos rfl,
        if_pos rfl]
    · rw [lookup_cons_ite, if_neg hkey, List.filter_cons]
      split
      · rw [lookup_cons_ite, if_neg hkey, ih]
      · exact ih

/-- A look-up after all values were changed finds the changed value. -/
theorem lookup_map_values (change : α → β → γ) (entries : List (α × β)) (key : α) :
    (entries.map fun e => (e.1, change e.1 e.2)).lookup key =
      (entries.lookup key).map (change key) := by
  induction entries with
  | nil => rfl
  | cons entry entries ih =>
    obtain ⟨k, value⟩ := entry
    rw [List.map_cons, lookup_cons_ite, lookup_cons_ite, ih]
    by_cases hkey : key = k
    · subst hkey
      rw [if_pos rfl, if_pos rfl, Option.map_some]
    · rw [if_neg hkey, if_neg hkey]

end ElmClasses

namespace ElmClasses

/-- Entries in strictly ascending order of their keys. -/
structure Dictionary (α : Type) where
  entries : List (String × α)
  ascending : entries.Pairwise (·.1 < ·.1)
deriving DecidableEq

namespace Dictionary

variable {α β : Type}

/-- The dictionary without entries. -/
def empty : Dictionary α := ⟨[], .nil⟩

/-- Put an entry into its place in ascending entries; it takes the place of one with its key. -/
def insertEntry (key : String) (value : α) : List (String × α) → List (String × α)
  | [] => [(key, value)]
  | (k, v) :: rest =>
    if key < k then (key, value) :: (k, v) :: rest
    else if key = k then (key, value) :: rest
    else (k, v) :: insertEntry key value rest

/-- The keys after an insertion are the new one and those that were there. -/
theorem fst_mem_of_mem_insertEntry {key : String} {value : α} {entries : List (String × α)}
    {e : String × α} (h : e ∈ insertEntry key value entries) :
    e.1 = key ∨ ∃ e' ∈ entries, e'.1 = e.1 := by
  induction entries with
  | nil => exact .inl (by simp_all [insertEntry])
  | cons head rest ih =>
    obtain ⟨k, v⟩ := head
    simp only [insertEntry] at h
    split at h
    · rcases List.mem_cons.1 h with rfl | h
      · exact .inl rfl
      · exact .inr ⟨e, h, rfl⟩
    · split at h
      · rcases List.mem_cons.1 h with rfl | h
        · exact .inl rfl
        · exact .inr ⟨e, List.mem_cons_of_mem _ h, rfl⟩
      · rcases List.mem_cons.1 h with rfl | h
        · exact .inr ⟨(k, v), List.mem_cons_self, rfl⟩
        · rcases ih h with h | ⟨e', he', heq⟩
          · exact .inl h
          · exact .inr ⟨e', List.mem_cons_of_mem _ he', heq⟩

theorem ascending_insertEntry (key : String) (value : α) {entries : List (String × α)}
    (h : entries.Pairwise (·.1 < ·.1)) :
    (insertEntry key value entries).Pairwise (·.1 < ·.1) := by
  induction entries with
  | nil => simp [insertEntry]
  | cons head rest ih =>
    obtain ⟨k, v⟩ := head
    obtain ⟨hhead, hrest⟩ := List.pairwise_cons.1 h
    simp only [insertEntry]
    split
    · next hlt =>
      refine List.pairwise_cons.2 ⟨fun e he => ?_, h⟩
      rcases List.mem_cons.1 he with rfl | he
      · exact hlt
      · exact String.lt_trans hlt (hhead e he)
    · split
      · next heq =>
        subst heq
        exact List.pairwise_cons.2 ⟨hhead, hrest⟩
      · next hlt hne =>
        refine List.pairwise_cons.2 ⟨fun e he => ?_, ih hrest⟩
        rcases fst_mem_of_mem_insertEntry he with hkey | ⟨e', he', heq⟩
        · have hle : k ≤ key := String.not_lt.1 hlt
          rcases Decidable.em (k < key) with hk | hk
          · exact hkey ▸ hk
          · exact absurd (String.le_antisymm (String.not_lt.1 hk) hle) hne
        · exact heq ▸ hhead e' he'

/-- The dictionary with an entry added, or replaced if the key was there. -/
def insert (key : String) (value : α) (d : Dictionary α) : Dictionary α :=
  ⟨insertEntry key value d.entries, ascending_insertEntry key value d.ascending⟩

/-- The dictionary of entries in any order; of two with one key the first counts. -/
def ofList : List (String × α) → Dictionary α
  | [] => empty
  | (key, value) :: entries => (ofList entries).insert key value

/-- The value under a key. -/
def find? (d : Dictionary α) (key : String) : Option α :=
  d.entries.lookup key

/-- The dictionary with every value changed by a function of its key and itself. -/
def mapValues (f : String → α → β) (d : Dictionary α) : Dictionary β :=
  ⟨d.entries.map fun e => (e.1, f e.1 e.2), d.ascending.map _ fun _ _ h => h⟩

theorem lookup_insertEntry (key k : String) (value : α) (entries : List (String × α)) :
    (insertEntry key value entries).lookup k =
      if k = key then some value else entries.lookup k := by
  induction entries with
  | nil => exact lookup_cons_ite key k value []
  | cons head rest ih =>
    obtain ⟨k', v⟩ := head
    rw [insertEntry]
    split
    · exact lookup_cons_ite ..
    · split
      · next heq =>
        subst heq
        rw [lookup_cons_ite, lookup_cons_ite]
        split <;> rfl
      · next hne =>
        rw [lookup_cons_ite, lookup_cons_ite, ih]
        by_cases h : k = key
        · rw [if_pos h, if_pos h, if_neg (h ▸ hne)]
        · rw [if_neg h, if_neg h]

/-- What a look-up finds after an insertion. -/
theorem find?_insert (d : Dictionary α) (key k : String) (value : α) :
    (d.insert key value).find? k = if k = key then some value else d.find? k :=
  lookup_insertEntry key k value d.entries

/-- A dictionary finds what its entries hold. -/
theorem find?_ofList (entries : List (String × α)) (key : String) :
    (ofList entries).find? key = entries.lookup key := by
  induction entries with
  | nil => rfl
  | cons head rest ih =>
    obtain ⟨k, v⟩ := head
    rw [ofList, find?_insert, lookup_cons_ite, ih]

end Dictionary

end ElmClasses
