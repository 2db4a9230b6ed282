import Std.Data.HashMap

/-!
# Class tables

A table gives every class a value and keeps the classes in the order in which they were first
inserted. Inserting a class again replaces its value and leaves its place. A hash index finds the
place of a class, so a table is two representations of one list, and the index is exact: it maps a
class to a position if and only if the entry at that position is the entry of the class. That fact
is part of the type, so that a look-up is never out of bounds and no class has two entries.

## Main results

* `toList_insert_of_find?_eq_none`: a new class goes to the end.
* `nodup_keys`: no class has two entries.
-/

namespace ElmClasses

universe u

/-- Values for classes, in the order in which the classes came. -/
structure ClassTable (α : Type u) where
  /-- The positions of the classes. -/
  index : Std.HashMap String Nat
  entries : Array (String × α)
  /-- The index knows exactly the classes of the entries, each at its position. -/
  index_exact : ∀ (cls : String) (i : Nat),
    index[cls]? = some i ↔ (entries[i]?).map Prod.fst = some cls

namespace ClassTable

variable {α : Type u}

/-- The table without entries. -/
def empty : ClassTable α where
  index := ∅
  entries := #[]
  index_exact := by simp

/-- The position of a class is the position of an entry. -/
theorem lt_size_of_index {t : ClassTable α} {cls : String} {i : Nat}
    (h : t.index[cls]? = some i) : i < t.entries.size := by
  have h := (t.index_exact cls i).1 h
  rcases Nat.lt_or_ge i t.entries.size with hlt | hge
  · exact hlt
  · rw [Array.getElem?_eq_none hge] at h
    simp at h

/-- The value of a class. -/
def find? (t : ClassTable α) (cls : String) : Option α :=
  match h : t.index[cls]? with
  | some i =>
    have := lt_size_of_index h
    some t.entries[i].2
  | none => none

/-- Whether a class has a value. -/
def contains (t : ClassTable α) (cls : String) : Bool :=
  t.index.contains cls

/-- The number of classes. -/
def size (t : ClassTable α) : Nat := t.entries.size

/-- Whether there are no classes. -/
def isEmpty (t : ClassTable α) : Bool := t.entries.isEmpty

/-- The classes with their values, in the order in which the classes came. -/
def toList (t : ClassTable α) : List (String × α) := t.entries.toList

/-- The classes, in the order in which they came. -/
def keys (t : ClassTable α) : List String := t.toList.map Prod.fst

/-- The values, in the order of their classes. -/
def values (t : ClassTable α) : List α := t.toList.map Prod.snd

private theorem index_exact_set {t : ClassTable α} {cls : String} {i : Nat} (value : α)
    (h : t.index[cls]? = some i) (k : String) (j : Nat) :
    t.index[k]? = some j ↔
      ((t.entries.set i (cls, value) (lt_size_of_index h))[j]?).map Prod.fst = some k := by
  rw [t.index_exact, Array.getElem?_set]
  by_cases hij : i = j
  · subst hij
    rw [if_pos rfl, (t.index_exact cls i).1 h]
    rfl
  · rw [if_neg hij]

private theorem index_exact_push {t : ClassTable α} {cls : String} (value : α)
    (h : t.index[cls]? = none) (k : String) (j : Nat) :
    (t.index.insert cls t.entries.size)[k]? = some j ↔
      ((t.entries.push (cls, value))[j]?).map Prod.fst = some k := by
  rw [Std.HashMap.getElem?_insert, Array.getElem?_push]
  by_cases hj : j = t.entries.size
  · subst hj
    by_cases hk : cls = k
    · simp [hk]
    · have : t.index[k]? ≠ some t.entries.size := fun hindex =>
        Nat.lt_irrefl _ (lt_size_of_index hindex)
      simp [hk, this]
  · rw [if_neg hj]
    by_cases hk : cls = k
    · subst hk
      have : (t.entries[j]?).map Prod.fst ≠ some cls := fun hentry => by
        rw [(t.index_exact cls j).2 hentry] at h
        simp at h
      simp [this, Ne.symm hj]
    · simp [hk, t.index_exact]

/-- Give a class a value. A class that has one keeps its place. -/
def insert (t : ClassTable α) (cls : String) (value : α) : ClassTable α :=
  match h : t.index[cls]? with
  | some i =>
    { index := t.index
      entries := t.entries.set i (cls, value) (lt_size_of_index h)
      index_exact := index_exact_set value h }
  | none =>
    { index := t.index.insert cls t.entries.size
      entries := t.entries.push (cls, value)
      index_exact := index_exact_push value h }

/-- The value that a class had, and the table in which it has the new one. -/
def getThenInsert (t : ClassTable α) (cls : String) (value : α) : Option α × ClassTable α :=
  (t.find? cls, t.insert cls value)

theorem index_eq_none_of_find?_eq_none {t : ClassTable α} {cls : String}
    (h : t.find? cls = none) : t.index[cls]? = none := by
  unfold find? at h
  split at h
  · simp at h
  · assumption

/-- A new class goes to the end. -/
theorem toList_insert_of_find?_eq_none {t : ClassTable α} {cls : String} (value : α)
    (h : t.find? cls = none) : (t.insert cls value).toList = t.toList ++ [(cls, value)] := by
  have hindex := index_eq_none_of_find?_eq_none h
  unfold insert
  split
  · next hsome => rw [hindex] at hsome; simp at hsome
  · simp [toList]

/-- No class has two entries. -/
theorem nodup_keys (t : ClassTable α) : t.keys.Nodup := by
  rw [List.nodup_iff_pairwise_ne, List.pairwise_iff_getElem]
  intro i j hi hj hij heq
  have hget : ∀ k (hk : k < t.keys.length), t.index[t.keys[k]]? = some k := by
    intro k hk
    rw [t.index_exact]
    have hk' : k < t.entries.size := by simpa [keys, toList] using hk
    simp [keys, toList, hk']
  have := hget i hi
  rw [heq, hget j hj] at this
  injection this with this
  omega

end ClassTable

end ElmClasses
