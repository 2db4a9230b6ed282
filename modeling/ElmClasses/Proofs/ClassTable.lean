import Mathlib.Data.List.Induction
import Mathlib.Data.List.Nodup
import ElmClasses.ClassTable
import ElmClasses.Dictionary

/-!
# Class tables through their entries and their history

A class table is a hash index beside an array of entries. Everything that a table answers is a fact
about its list of entries `toList`, and the theorems below say which: after them nothing has to look
at the index any more. `index_exact`, which is part of the type, ties both representations together.
It is used here twice, once to turn membership of a class into a position and once to turn a
position into a look-up; the rest follows.

What is collected in a table, or by a run, is kept once and in the place where it came first. The
members of a history are therefore `eraseDups` of it, and the equation for one more member at the
end (`eraseDups_concat`) is all that an induction over the history needs.

## Main results

* `contains_iff_mem_keys`, `find?_eq_some_iff`: the two questions about a class, answered by the
  entries.
* `toList_insert_of_notMem`, `toList_insert_of_mem`: what an insertion does to the entries, for a
  new class and for one that has an entry.
* `isMadeBy_insertAll`: all that a table answers, from the insertions alone.
-/

namespace ElmClasses

/-- A member at the end counts only if it is new. -/
theorem eraseDups_concat {α : Type} [DecidableEq α] (xs : List α) (x : α) :
    (xs ++ [x]).eraseDups = if x ∈ xs then xs.eraseDups else xs.eraseDups ++ [x] := by
  rw [List.eraseDups_append]
  by_cases hx : x ∈ xs
  · simp [List.removeAll, hx]
  · simp [List.removeAll, hx, List.eraseDups_cons]

/-- A list without repeated members has each of them once. -/
theorem nodup_eraseDups {α : Type} [DecidableEq α] (xs : List α) : xs.eraseDups.Nodup := by
  induction xs using List.reverseRecOn with
  | nil => exact List.nodup_nil
  | append_singleton xs x ih =>
      rw [eraseDups_concat]
      by_cases hx : x ∈ xs
      · rwa [if_pos hx]
      · have hnew : x ∉ xs.eraseDups := by rwa [List.mem_eraseDups]
        rw [if_neg hx, ← List.concat_eq_append]
        exact ih.concat hnew

/-- Which members a list has does not depend on their order, and how often they
repeat does not matter. -/
theorem eraseDups_perm {α : Type} [DecidableEq α] {xs ys : List α} (h : xs.Perm ys) :
    xs.eraseDups.Perm ys.eraseDups := by
  apply (List.perm_ext_iff_of_nodup (nodup_eraseDups xs) (nodup_eraseDups ys)).2
  intro x
  rw [List.mem_eraseDups, List.mem_eraseDups]
  exact h.mem_iff

end ElmClasses

namespace ElmClasses.ClassTable

universe u

variable {α : Type u}

/-- The index and the classes in order are inverse to each other. -/
theorem index_eq_some_iff (t : ClassTable α) (cls : String) (i : Nat) :
    t.index[cls]? = some i ↔ t.keys[i]? = some cls := by
  rw [t.index_exact, keys, List.getElem?_map, toList, Array.getElem?_toList]

/-- A class has an entry exactly if the index knows a position for it. -/
theorem mem_keys_iff (t : ClassTable α) (cls : String) :
    cls ∈ t.keys ↔ ∃ i, t.index[cls]? = some i := by
  rw [List.mem_iff_getElem?]
  constructor
  · rintro ⟨i, hi⟩
    exact ⟨i, (index_eq_some_iff t cls i).2 hi⟩
  · rintro ⟨i, hi⟩
    exact ⟨i, (index_eq_some_iff t cls i).1 hi⟩

@[simp] theorem toList_empty : (empty : ClassTable α).toList = [] := rfl

theorem contains_iff_mem_keys (t : ClassTable α) (cls : String) :
    t.contains cls = true ↔ cls ∈ t.keys := by
  rw [contains, Std.HashMap.contains_eq_isSome_getElem?, Option.isSome_iff_exists,
    mem_keys_iff]

/-- The value of a class is the one that its entry holds. -/
theorem find?_eq_some_iff (t : ClassTable α) (cls : String) (value : α) :
    t.find? cls = some value ↔ (cls, value) ∈ t.toList := by
  constructor
  · intro h
    unfold find? at h
    split at h
    · next i hindex =>
        have hlt := lt_size_of_index hindex
        have hkey := (t.index_exact cls i).1 hindex
        rw [Array.getElem?_eq_getElem hlt] at hkey
        have hentry : t.entries[i] = (cls, value) :=
          Prod.ext (Option.some.inj hkey) (Option.some.inj h)
        rw [toList, Array.mem_toList_iff, ← hentry]
        exact Array.getElem_mem hlt
    · simp at h
  · intro h
    obtain ⟨i, hi⟩ := List.mem_iff_getElem?.1 h
    rw [toList, Array.getElem?_toList] at hi
    have hindex : t.index[cls]? = some i := by
      rw [t.index_exact, hi]
      rfl
    obtain ⟨hlt, hentry⟩ := Array.getElem?_eq_some_iff.1 hi
    unfold find?
    split
    · next j hj =>
        obtain rfl : j = i := Option.some.inj (hj.symm.trans hindex)
        show some t.entries[j].2 = some value
        rw [hentry]
    · next hnone => simp [hnone] at hindex

theorem find?_eq_none_iff (t : ClassTable α) (cls : String) :
    t.find? cls = none ↔ cls ∉ t.keys := by
  rw [Option.eq_none_iff_forall_ne_some, keys, List.mem_map]
  constructor
  · rintro h ⟨⟨_, value⟩, hmem, rfl⟩
    exact h value ((find?_eq_some_iff t _ value).2 hmem)
  · intro h value hfind
    exact h ⟨(cls, value), (find?_eq_some_iff t cls value).1 hfind, rfl⟩

/-- Two entries with one class are one entry. -/
theorem eq_of_mem_toList (t : ClassTable α) {cls : String} {v w : α}
    (hv : (cls, v) ∈ t.toList) (hw : (cls, w) ∈ t.toList) : v = w := by
  rw [← find?_eq_some_iff] at hv hw
  exact Option.some.inj (hv.symm.trans hw)

/-- A new class goes behind the others. -/
theorem toList_insert_of_notMem (t : ClassTable α) {cls : String} (value : α)
    (h : cls ∉ t.keys) : (t.insert cls value).toList = t.toList ++ [(cls, value)] :=
  toList_insert_of_find?_eq_none value ((find?_eq_none_iff t cls).2 h)

/-- A class that has an entry keeps its place, and so do all others; only the
value of its entry changes. -/
theorem toList_insert_of_mem (t : ClassTable α) {cls : String} (value : α)
    (h : cls ∈ t.keys) :
    (t.insert cls value).toList =
      t.toList.map fun e => if e.1 = cls then (cls, value) else e := by
  obtain ⟨i, hi⟩ := (mem_keys_iff t cls).1 h
  unfold insert
  split
  · next j hj =>
      refine List.ext_getElem? fun k => ?_
      rw [toList, Array.getElem?_toList, Array.getElem?_set, List.getElem?_map, toList,
        Array.getElem?_toList]
      by_cases hjk : j = k
      · subst hjk
        obtain ⟨e, he, hcls⟩ := Option.map_eq_some_iff.1 ((t.index_exact cls j).1 hj)
        rw [if_pos rfl, he, Option.map_some, if_pos hcls]
      · rw [if_neg hjk]
        cases hk : t.entries[k]? with
        | none => rfl
        | some e =>
            have hne : e.1 ≠ cls := by
              intro hcls
              have hindex : t.index[cls]? = some k := by
                rw [t.index_exact, hk, Option.map_some, hcls]
              exact hjk (Option.some.inj (hj.symm.trans hindex))
            rw [Option.map_some, if_neg hne]
  · next hnone => simp [hnone] at hi

/-- Inserting what is there changes nothing. -/
theorem toList_insert_of_mem_toList (t : ClassTable α) {cls : String} {value : α}
    (h : (cls, value) ∈ t.toList) : (t.insert cls value).toList = t.toList := by
  have hkey : cls ∈ t.keys := List.mem_map.2 ⟨(cls, value), h, rfl⟩
  have hsame : ∀ e ∈ t.toList, (if e.1 = cls then (cls, value) else e) = id e := by
    rintro ⟨k, v⟩ he
    by_cases hk : k = cls
    · subst hk
      rw [if_pos rfl, eq_of_mem_toList t h he, id]
    · rw [if_neg hk, id]
  calc (t.insert cls value).toList
      = t.toList.map fun e => if e.1 = cls then (cls, value) else e :=
        toList_insert_of_mem t value hkey
    _ = t.toList.map id := List.map_congr_left hsame
    _ = t.toList := List.map_id t.toList

/-- The entries behind an insertion are the new one and those of the other classes. -/
theorem mem_toList_insert (t : ClassTable α) (cls : String) (value : α) (e : String × α) :
    e ∈ (t.insert cls value).toList ↔ e = (cls, value) ∨ (e.1 ≠ cls ∧ e ∈ t.toList) := by
  by_cases hkey : cls ∈ t.keys
  · rw [toList_insert_of_mem t value hkey, List.mem_map]
    constructor
    · rintro ⟨old, hold, rfl⟩
      by_cases hcls : old.1 = cls
      · exact .inl (if_pos hcls)
      · rw [if_neg hcls]
        exact .inr ⟨hcls, hold⟩
    · rintro (rfl | ⟨hne, he⟩)
      · obtain ⟨old, hold, hcls⟩ := List.mem_map.1 hkey
        exact ⟨old, hold, if_pos hcls⟩
      · exact ⟨e, he, if_neg hne⟩
  · rw [toList_insert_of_notMem t value hkey, List.mem_append, List.mem_singleton]
    constructor
    · rintro (he | rfl)
      · have hne : e.1 ≠ cls := fun hcls => hkey (hcls ▸ List.mem_map_of_mem he)
        exact .inr ⟨hne, he⟩
      · exact .inl rfl
    · rintro (rfl | ⟨-, he⟩)
      · exact .inr rfl
      · exact .inl he

/-- What a look-up finds behind an insertion. -/
theorem find?_insert (t : ClassTable α) (cls k : String) (value : α) :
    (t.insert cls value).find? k = if k = cls then some value else t.find? k := by
  refine Option.ext fun w => ?_
  rw [find?_eq_some_iff, mem_toList_insert]
  by_cases hk : k = cls
  · subst hk
    rw [if_pos rfl]
    simp [eq_comm]
  · rw [if_neg hk, find?_eq_some_iff]
    simp [hk]

/-- The classes behind an insertion. -/
theorem keys_insert (t : ClassTable α) (cls : String) (value : α) :
    (t.insert cls value).keys = if cls ∈ t.keys then t.keys else t.keys ++ [cls] := by
  by_cases hkey : cls ∈ t.keys
  · rw [if_pos hkey, keys, toList_insert_of_mem t value hkey, List.map_map, keys]
    refine List.map_congr_left fun e _ => ?_
    show (if e.1 = cls then (cls, value) else e).1 = e.1
    by_cases hcls : e.1 = cls
    · rw [if_pos hcls, hcls]
    · rw [if_neg hcls]
  · rw [if_neg hkey, keys, toList_insert_of_notMem t value hkey, List.map_append, keys]
    rfl

/-!
## Tables and the insertions that made them

A table that was made by insertions forgets most of them: a class keeps the place of its first
insertion and the value of its last. The following says so of all that a table answers, over every
list of insertions, and of what each insertion gave back on the way. `IsMadeBy` is the list of these
answers.

Two of them are the invariant of the run, and an insertion at the end changes each of them by
one equation: the classes in their order (`keys_insertAll`), and what a look-up finds
(`find?_insertAll`). The other answers follow from these two for any table, because the index
of a table is exact.
-/

/-- Insertions one after another: the values that the classes had before, and the table in the
end. -/
def insertAll (t : ClassTable α) : List (String × α) → List (Option α) × ClassTable α
  | [] => ([], t)
  | (cls, value) :: later =>
    let (old, next) := t.getThenInsert cls value
    let (olds, last) := insertAll next later
    (old :: olds, last)

/-- The value of the last of some insertions that is one of a class. -/
def lastValue? (history : List (String × α)) (cls : String) : Option α :=
  history.reverse.lookup cls

theorem insertAll_cons (t : ClassTable α) (cls : String) (value : α)
    (later : List (String × α)) :
    t.insertAll ((cls, value) :: later) =
      (t.find? cls :: ((t.insert cls value).insertAll later).1,
        ((t.insert cls value).insertAll later).2) := rfl

/-- **Insertions in two parts**: the second part starts with the table of the first. -/
theorem insertAll_append (t : ClassTable α) (earlier later : List (String × α)) :
    t.insertAll (earlier ++ later) =
      ((t.insertAll earlier).1 ++ ((t.insertAll earlier).2.insertAll later).1,
        ((t.insertAll earlier).2.insertAll later).2) := by
  induction earlier generalizing t with
  | nil => rfl
  | cons e earlier ih =>
      obtain ⟨cls, value⟩ := e
      rw [List.cons_append, insertAll_cons, insertAll_cons, ih]
      rfl

theorem length_insertAll (t : ClassTable α) (history : List (String × α)) :
    (t.insertAll history).1.length = history.length := by
  induction history generalizing t with
  | nil => rfl
  | cons e later ih =>
      obtain ⟨cls, value⟩ := e
      rw [insertAll_cons, List.length_cons, List.length_cons, ih]

/-- The last insertion of a history counts for its own class only. -/
theorem lastValue?_concat (history : List (String × α)) (cls k : String) (value : α) :
    lastValue? (history ++ [(cls, value)]) k =
      if k = cls then some value else lastValue? history k := by
  rw [lastValue?, List.reverse_append, List.reverse_singleton, List.singleton_append,
    lookup_cons_ite, lastValue?]

/-- **The classes of a table** come in the order of their first insertions. -/
theorem keys_insertAll (history : List (String × α)) :
    (insertAll empty history).2.keys = (history.map Prod.fst).eraseDups := by
  induction history using List.reverseRecOn with
  | nil => rfl
  | append_singleton history e ih =>
      obtain ⟨cls, value⟩ := e
      have hkeys : (insertAll empty (history ++ [(cls, value)])).2.keys =
          ((insertAll empty history).2.insert cls value).keys := by
        rw [insertAll_append]
        rfl
      rw [hkeys, keys_insert, ih, List.map_append, List.map_singleton, eraseDups_concat]
      simp only [List.mem_eraseDups]

/-- **A class has the value of its last insertion.** -/
theorem find?_insertAll (history : List (String × α)) (k : String) :
    (insertAll empty history).2.find? k = lastValue? history k := by
  induction history using List.reverseRecOn with
  | nil =>
      have hnone : k ∉ (empty : ClassTable α).keys := List.not_mem_nil
      exact (find?_eq_none_iff empty k).2 hnone
  | append_singleton history e ih =>
      obtain ⟨cls, value⟩ := e
      have hfind : (insertAll empty (history ++ [(cls, value)])).2.find? k =
          ((insertAll empty history).2.insert cls value).find? k := by
        rw [insertAll_append]
        rfl
      rw [hfind, find?_insert, ih, lastValue?_concat]

/-- **An insertion gives back the value of the last one of its class before it.** -/
theorem getElem?_insertAll (earlier later : List (String × α)) (cls : String) (value : α) :
    (insertAll empty (earlier ++ (cls, value) :: later)).1[earlier.length]? =
      some (lastValue? earlier cls) := by
  rw [insertAll_append, insertAll_cons, find?_insertAll,
    List.getElem?_append_right (Nat.le_of_eq (length_insertAll empty earlier)),
    length_insertAll, Nat.sub_self]
  rfl

theorem mem_keys_insertAll (history : List (String × α)) (cls : String) :
    cls ∈ (insertAll empty history).2.keys ↔ cls ∈ history.map Prod.fst := by
  rw [keys_insertAll, List.mem_eraseDups]

theorem keys_insertAll_eq_nil_iff (history : List (String × α)) :
    (insertAll empty history).2.keys = [] ↔ history = [] := by
  rw [← List.map_eq_nil_iff (f := Prod.fst), List.eq_nil_iff_forall_not_mem,
    List.eq_nil_iff_forall_not_mem]
  simp only [mem_keys_insertAll]

/-- Each entry is a class with the value that a look-up finds. -/
theorem toList_map_some (t : ClassTable α) :
    t.toList.map (fun e => (e.1, some e.2)) = t.keys.map fun cls => (cls, t.find? cls) := by
  rw [keys, List.map_map]
  refine List.map_congr_left fun e he => ?_
  show (e.1, some e.2) = (e.1, t.find? e.1)
  rw [(find?_eq_some_iff t e.1 e.2).2 he]

theorem values_map_some (t : ClassTable α) : t.values.map some = t.keys.map t.find? := by
  have hvalues : t.values.map some = (t.toList.map fun e => (e.1, some e.2)).map Prod.snd := by
    rw [values, List.map_map, List.map_map]
    rfl
  rw [hvalues, toList_map_some, List.map_map]
  rfl

theorem size_eq_length_keys (t : ClassTable α) : t.size = t.keys.length := by
  simp [size, keys, toList]

theorem isEmpty_iff_keys_eq_nil (t : ClassTable α) : t.isEmpty = true ↔ t.keys = [] := by
  simp [isEmpty, keys, toList]

/-- What insertions one after another, from the table without entries on, have given back
(`olds`) and what the table `t` answers that they made. -/
structure IsMadeBy (history : List (String × α)) (olds : List (Option α)) (t : ClassTable α) :
    Prop where
  /-- The classes come in the order of their first insertions, -/
  keys_eq : t.keys = (history.map Prod.fst).eraseDups
  /-- each once, -/
  nodup_keys : t.keys.Nodup
  /-- and as many as there are distinct ones. -/
  size_eq : t.size = (history.map Prod.fst).eraseDups.length
  isEmpty_iff : t.isEmpty = true ↔ history = []
  /-- Each class comes with the value of its last insertion. -/
  toList_eq : t.toList.map (fun e => (e.1, some e.2)) =
    (history.map Prod.fst).eraseDups.map fun cls => (cls, lastValue? history cls)
  values_eq : t.values.map some =
    (history.map Prod.fst).eraseDups.map (lastValue? history)
  /-- A look-up finds that value as well, -/
  find?_eq : ∀ cls, t.find? cls = lastValue? history cls
  /-- and nothing only under a class that was never inserted. -/
  find?_eq_none_iff : ∀ cls, t.find? cls = none ↔ cls ∉ history.map Prod.fst
  contains_iff : ∀ cls, t.contains cls = true ↔ cls ∈ history.map Prod.fst
  /-- The index knows the place of each class, which is that of an entry. -/
  index_iff : ∀ (cls : String) (i : Nat),
    t.index[cls]? = some i ↔ (history.map Prod.fst).eraseDups[i]? = some cls
  index_lt : ∀ (cls : String) (i : Nat), t.index[cls]? = some i → i < t.entries.size
  /-- Each insertion gave back the value of the last one of its class before it. -/
  length_olds : olds.length = history.length
  olds_eq : ∀ earlier cls value later, history = earlier ++ (cls, value) :: later →
    olds[earlier.length]? = some (lastValue? earlier cls)

/-- **A table keeps the order in which its classes came first, and the values that they were
given last.** -/
theorem isMadeBy_insertAll (history : List (String × α)) :
    IsMadeBy history (insertAll empty history).1 (insertAll empty history).2 := by
  have hkeys := keys_insertAll history
  have hfind := find?_insertAll history
  have hmem := mem_keys_insertAll history
  refine
    { keys_eq := hkeys
      nodup_keys := nodup_keys _
      size_eq := by rw [size_eq_length_keys, hkeys]
      isEmpty_iff := by rw [isEmpty_iff_keys_eq_nil, keys_insertAll_eq_nil_iff]
      toList_eq := by simp only [toList_map_some, hkeys, hfind]
      values_eq := ?values
      find?_eq := hfind
      find?_eq_none_iff := fun cls => by rw [find?_eq_none_iff, hmem]
      contains_iff := fun cls => by rw [contains_iff_mem_keys, hmem]
      index_iff := fun cls i => by rw [index_eq_some_iff, hkeys]
      index_lt := fun cls i h => lt_size_of_index h
      length_olds := length_insertAll empty history
      olds_eq := ?olds }
  case values =>
    rw [values_map_some, hkeys]
    exact List.map_congr_left fun cls _ => hfind cls
  case olds =>
    rintro earlier cls value later rfl
    exact getElem?_insertAll earlier later cls value

end ElmClasses.ClassTable
