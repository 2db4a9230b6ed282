import Mathlib.Data.List.Nodup
import ElmClasses.Dictionary

/-!
# Dictionaries by their look-ups

A dictionary keeps its entries in one order, so that nothing about it is lost in its
look-ups: two dictionaries that find the same under every key are equal. Facts about
dictionaries can therefore be proved key by key, and a dictionary made of a list of
entries need not be compared with any order of that list.

## Main results

* `find?_eq_some_iff`: what a look-up finds is an entry.
* `ext_find?`: a dictionary is determined by its look-ups.
-/

namespace ElmClasses.Dictionary

variable {α β : Type}

/-- No key has two entries. -/
theorem find?_eq_some_iff (d : Dictionary α) (key : String) (value : α) :
    d.find? key = some value ↔ (key, value) ∈ d.entries := by
  obtain ⟨entries, hascending⟩ := d
  show entries.lookup key = some value ↔ (key, value) ∈ entries
  induction entries with
  | nil => simp
  | cons entry entries ih =>
      obtain ⟨k, v⟩ := entry
      obtain ⟨hhead, hrest⟩ := List.pairwise_cons.1 hascending
      rw [lookup_cons_ite, List.mem_cons, Prod.mk.injEq]
      by_cases hkey : key = k
      · subst hkey
        have hnot : (key, value) ∉ entries := fun hmem =>
          String.lt_irrefl key (hhead (key, value) hmem)
        rw [if_pos rfl, Option.some.injEq]
        constructor
        · rintro rfl
          exact .inl ⟨rfl, rfl⟩
        · rintro (⟨-, rfl⟩ | hmem)
          · rfl
          · exact absurd hmem hnot
      · rw [if_neg hkey, ih hrest]
        constructor
        · exact .inr
        · rintro (⟨rfl, -⟩ | hmem)
          · exact absurd rfl hkey
          · exact hmem

/-- **A dictionary is determined by its look-ups.** -/
theorem ext_find? {d e : Dictionary α} (h : ∀ key, d.find? key = e.find? key) : d = e := by
  have hnodup : ∀ d : Dictionary α, d.entries.Nodup := by
    intro d
    refine d.ascending.imp ?_
    rintro a b hlt rfl
    exact String.lt_irrefl a.1 hlt
  have hperm : d.entries.Perm e.entries := by
    rw [List.perm_ext_iff_of_nodup (hnodup d) (hnodup e)]
    rintro ⟨key, value⟩
    rw [← find?_eq_some_iff, ← find?_eq_some_iff, h key]
  have hentries : d.entries = e.entries := by
    refine List.Perm.eq_of_pairwise ?_ d.ascending e.ascending hperm
    intro a b _ _ hab hba
    exact absurd (String.lt_trans hab hba) (String.lt_irrefl a.1)
  cases d
  cases e
  cases hentries
  rfl

theorem find?_mapValues (change : String → α → β) (d : Dictionary α) (key : String) :
    (d.mapValues change).find? key = (d.find? key).map (change key) :=
  lookup_map_values change d.entries key

/-- A dictionary has no other entries than the ones it was made of. -/
theorem mem_of_mem_entries_ofList {entries : List (String × α)} {e : String × α}
    (h : e ∈ (ofList entries).entries) : e ∈ entries := by
  apply mem_of_lookup_eq_some
  rw [← find?_ofList, find?_eq_some_iff]
  exact h

end ElmClasses.Dictionary
