import Mathlib.Data.List.Basic
import ElmClasses.Text.CharClass

/-!
# Characters and pieces of texts

There are 128 ASCII characters, so what is decidable of one is decided for all of them by looking.
Of the characters of one text it is decided by looking through the text.

Texts are put together with a separator between them and cut again where it stands. What is in the
joined text is in one of the pieces or in the separator (`mem_intercalate_of_mem`,
`forall_mem_intercalate`), and no piece that cutting leaves has the separator inside
(`notMem_of_mem_splitOn`).
-/

namespace ElmClasses.Text

/-- What holds of the first 128 code points holds of every ASCII character. -/
theorem forall_ascii {P : Char → Prop} (h : ∀ n < 0x80, P (Char.ofNat n)) {c : Char}
    (hc : c.toNat < 0x80) : P c := by
  have hcode := h c.toNat hc
  rwa [Char.ofNat_toNat] at hcode

/-- **The case of an ASCII character.** Letters have the other case, and nothing else changes. -/
theorem case_of_ascii {c : Char} (h : c.toNat < 0x80) :
    (c.isUpper = true → c.toLower.isLower = true) ∧ (c.isUpper = false → c.toLower = c) ∧
      (c.isLower = true → c.toUpper.isUpper = true) ∧ (c.isLower = false → c.toUpper = c) ∧
      (c.isLower = true → c.isUpper = false ∧ c.isDigit = false) :=
  forall_ascii (P := fun c =>
    (c.isUpper = true → c.toLower.isLower = true) ∧ (c.isUpper = false → c.toLower = c) ∧
      (c.isLower = true → c.toUpper.isUpper = true) ∧ (c.isLower = false → c.toUpper = c) ∧
      (c.isLower = true → c.isUpper = false ∧ c.isDigit = false))
    (by decide +kernel) h

/-- Lower case letters, as the standard library knows them, are ASCII characters. -/
theorem toNat_lt_of_isLower {c : Char} (h : c.isLower = true) : c.toNat < 0x80 := by
  have hlower : c.isLower = (decide (c.val ≥ 'a'.val) && decide (c.val ≤ 'z'.val)) := rfl
  simp only [hlower, Bool.and_eq_true, decide_eq_true_eq, UInt32.le_iff_toNat_le,
    ge_iff_le] at h
  have hval : c.toNat = c.val.toNat := rfl
  have hz : 'z'.val.toNat = 122 := rfl
  omega

/-- What is decided of a text one by one holds of all its characters. -/
theorem forall_mem_of_all {P : Char → Prop} [DecidablePred P] {text : List Char}
    (h : text.all (fun c => decide (P c)) = true) : ∀ c ∈ text, P c := fun c hc =>
  of_decide_eq_true (List.all_eq_true.1 h c hc)

/-- What is behind the start of a text. -/
theorem isPrefixOf?_append (opening rest : List Char) :
    opening.isPrefixOf? (opening ++ rest) = some rest :=
  List.isPrefixOf?_eq_some_iff_append_eq.2 rfl

/-- What stands in joined texts stands in one of them or between them. -/
theorem mem_intercalate_of_mem {sep text : List Char} {texts : List (List Char)} {c : Char}
    (htext : text ∈ texts) (hc : c ∈ text) : c ∈ sep.intercalate texts := by
  induction texts with
  | nil => cases htext
  | cons first rest ih =>
      cases rest with
      | nil =>
          obtain rfl := List.mem_singleton.1 htext
          rwa [List.intercalate_singleton]
      | cons second rest =>
          rw [List.intercalate_cons_cons, List.mem_append, List.mem_append]
          rcases List.mem_cons.1 htext with rfl | hrest
          · exact .inl (.inl hc)
          · exact .inr (ih hrest)

/-- What holds of the members of lists and of those between them holds of the members of
the joined list. -/
theorem forall_mem_intercalate {α : Type} {P : α → Prop} {sep : List α} {texts : List (List α)}
    (hsep : ∀ c ∈ sep, P c) (h : ∀ text ∈ texts, ∀ c ∈ text, P c) :
    ∀ c ∈ sep.intercalate texts, P c := by
  induction texts with
  | nil => simp
  | cons first rest ih =>
      obtain ⟨hfirst, hrest⟩ := List.forall_mem_cons.1 h
      cases rest with
      | nil => rwa [List.intercalate_singleton]
      | cons second rest =>
          rw [List.intercalate_cons_cons, List.forall_mem_append, List.forall_mem_append]
          exact ⟨⟨hfirst, hsep⟩, ih hrest⟩

/-- Two lists of pieces are joined by the separator. -/
theorem intercalate_append {α : Type} (sep : List α) {front back : List (List α)}
    (hfront : front ≠ []) (hback : back ≠ []) :
    sep.intercalate (front ++ back) =
      sep.intercalate front ++ sep ++ sep.intercalate back := by
  induction front with
  | nil => exact absurd rfl hfront
  | cons first rest ih =>
      cases rest with
      | nil => rw [List.singleton_append, List.intercalate_cons_of_ne_nil hback,
          List.intercalate_singleton]
      | cons second rest =>
          rw [List.cons_append, List.cons_append, List.intercalate_cons_cons, ← List.cons_append,
            ih (by simp), List.intercalate_cons_cons]
          simp only [List.append_assoc]

/-- No piece has the separator inside. -/
theorem notMem_of_mem_splitOn {sep : Char} {text piece : List Char}
    (h : piece ∈ text.splitOn sep) : sep ∉ piece := by
  induction text generalizing piece with
  | nil =>
      rw [List.splitOn_nil, List.mem_singleton] at h
      simp [h]
  | cons c cs ih =>
      rw [List.splitOn_cons_eq_if_modifyHead] at h
      split at h
      · rcases List.mem_cons.1 h with rfl | hmem
        · exact List.not_mem_nil
        · exact ih hmem
      · next hc =>
          cases hpieces : cs.splitOn sep with
          | nil => exact absurd hpieces (List.splitOn_ne_nil sep cs)
          | cons first rest =>
              rw [hpieces, List.modifyHead_cons] at h
              rcases List.mem_cons.1 h with rfl | hmem
              · have hfirst : sep ∉ first := ih (hpieces ▸ List.mem_cons_self)
                have hne : c ≠ sep := by simpa using hc
                simp [hfirst, hne.symm]
              · exact ih (hpieces ▸ List.mem_cons_of_mem first hmem)

/-- What stands in a piece stands in the text. -/
theorem mem_of_mem_splitOn {sep c : Char} {text piece : List Char}
    (hpiece : piece ∈ text.splitOn sep) (hc : c ∈ piece) : c ∈ text := by
  have hjoined : c ∈ [sep].intercalate (text.splitOn sep) := mem_intercalate_of_mem hpiece hc
  rwa [List.intercalate_splitOn] at hjoined

end ElmClasses.Text
