import Mathlib.Data.List.Basic
import ElmClasses.Proofs.Elm.Words
import ElmClasses.Proofs.Text.Basic

/-!
# When value names are valid

The words of a class come from two places. Those that the class itself is divided
into are cleaned on the way: a character that no identifier can hold never enters
a word, but divides words instead. The configured prefix does not take that way.
Where a segment starts with it, it becomes a word as it is.

So the value name of an ASCII class is valid unless the prefix brings a hyphen of
its own, and it is invalid if the prefix does, since no later step removes a
hyphen. `isValueName_valueName_iff` states both directions at once. The hyphens
around a prefix are harmless, because they are trimmed; a prefix such as `my-app-`
is not, once a segment uses it (`hyphen_mem_ofClassText`).

The argument runs along the data: a clean text is a list of characters that an
identifier can hold, every word of an ASCII class is clean (`wordGroups_clean`), joining
keeps that (`joined_clean`), and repairing a clean text makes it a value name
(`isValueName_repaired`). A hyphen goes the same way without being stopped.
-/

namespace ElmClasses.Elm

open Text

/-- Characters of a value name: ASCII letters and digits, and the underscore. -/
def isNameChar (c : Char) : Bool :=
  c.isAlphanum || c == '_'

/-- What the compiler accepts as the name of a value. -/
structure IsValueName (name : List Char) : Prop where
  start_isLower : ∃ c ∈ name.head?, c.isLower = true
  chars : ∀ c ∈ name, isNameChar c = true
  not_reserved : ∀ word ∈ ValueName.reservedWords, name ≠ word.toList

namespace ValueName

/-- A text of which every character can stand in a value name. -/
def IsClean (text : List Char) : Prop :=
  ∀ c ∈ text, isNameChar c = true

theorem isClean_nil : IsClean [] := by
  simp [IsClean]

theorem IsClean.cons {c : Char} {text : List Char} (hc : isNameChar c = true)
    (h : IsClean text) : IsClean (c :: text) :=
  List.forall_mem_cons.2 ⟨hc, h⟩

theorem IsClean.append {first second : List Char} (hfirst : IsClean first)
    (hsecond : IsClean second) : IsClean (first ++ second) :=
  List.forall_mem_append.2 ⟨hfirst, hsecond⟩

theorem isAlpha_eq (c : Char) : c.isAlpha = (c.isUpper || c.isLower) := rfl

/-- A character of a value name is an ASCII character. -/
theorem toNat_lt_of_isNameChar {c : Char} (h : isNameChar c = true) : c.toNat < 0x80 := by
  have hupper : c.isUpper = decide (c.val ≥ 'A'.val ∧ c.val ≤ 'Z'.val) := rfl
  have hlower : c.isLower = (decide (c.val ≥ 'a'.val) && decide (c.val ≤ 'z'.val)) := rfl
  simp only [isNameChar, Char.isAlphanum, isAlpha_eq, hupper, hlower, Char.isDigit,
    Bool.or_eq_true, Bool.and_eq_true, decide_eq_true_eq, beq_iff_eq,
    UInt32.le_iff_toNat_le, ge_iff_le] at h
  have hval : c.toNat = c.val.toNat := rfl
  have hZ : 'Z'.val.toNat = 90 := rfl
  have hz : 'z'.val.toNat = 122 := rfl
  have hnine : '9'.val.toNat = 57 := rfl
  rcases h with ((h | h) | h) | rfl
  · omega
  · omega
  · omega
  · decide

theorem isNameChar_of_isUpper {c : Char} (h : c.isUpper = true) : isNameChar c = true := by
  simp only [isNameChar, Char.isAlphanum, isAlpha_eq, h, Bool.true_or]

theorem isNameChar_of_isLower {c : Char} (h : c.isLower = true) : isNameChar c = true := by
  simp only [isNameChar, Char.isAlphanum, isAlpha_eq, h, Bool.or_true, Bool.true_or]

/-- Both cases of a character of a value name can stand in one. -/
theorem isNameChar_toUpper {c : Char} (h : isNameChar c = true) :
    isNameChar c.toUpper = true := by
  obtain ⟨-, -, hletter, hother, -⟩ := case_of_ascii (toNat_lt_of_isNameChar h)
  cases hlower : c.isLower with
  | true => exact isNameChar_of_isUpper (hletter hlower)
  | false => rwa [hother hlower]

theorem isNameChar_toLower {c : Char} (h : isNameChar c = true) :
    isNameChar c.toLower = true := by
  obtain ⟨hletter, hother, -⟩ := case_of_ascii (toNat_lt_of_isNameChar h)
  cases hupper : c.isUpper with
  | true => exact isNameChar_of_isLower (hletter hupper)
  | false => rwa [hother hupper]

theorem isLower_toLower {c : Char} (h : isNameChar c = true) (hupper : c.isUpper = true) :
    c.toLower.isLower = true :=
  (case_of_ascii (toNat_lt_of_isNameChar h)).1 hupper

theorem isNameChar_of_isWordChar {c : Char} (hascii : c.toNat < 0x80)
    (h : isWordChar c = true) : isNameChar c = true := by
  rwa [isWordChar, isAlphanumeric_of_ascii hascii] at h

/-- A prefix that a segment uses is one of its words, as it is. -/
theorem mem_segmentWords {utilityPrefix segment : List Char} (hne : utilityPrefix ≠ [])
    (h : utilityPrefix ++ ['-'] <+: segment) :
    utilityPrefix ∈ segmentWords utilityPrefix segment := by
  obtain ⟨rest, hrest⟩ := h
  have hstrip : utilityPrefix.isPrefixOf? segment = some ('-' :: rest) := by
    rw [List.isPrefixOf?_eq_some_iff_append_eq, ← hrest]
    simp
  simp [segmentWords, hne, hstrip]

theorem intercalate_clean {sep : List Char} {texts : List (List Char)} (hsep : IsClean sep)
    (h : ∀ text ∈ texts, IsClean text) : IsClean (sep.intercalate texts) :=
  forall_mem_intercalate hsep h

/-- Changing the case of the first character keeps a text clean. -/
theorem capitalized_clean {word : List Char} (h : IsClean word) :
    IsClean (capitalized word) := by
  cases word with
  | nil => exact isClean_nil
  | cons c cs =>
      obtain ⟨hc, hcs⟩ := List.forall_mem_cons.1 h
      rw [capitalized, uppercase_of_ascii (toNat_lt_of_isNameChar hc)]
      exact IsClean.cons (isNameChar_toUpper hc) hcs

theorem uncapitalized_clean {word : List Char} (h : IsClean word) :
    IsClean (uncapitalized word) := by
  cases word with
  | nil => exact isClean_nil
  | cons c cs =>
      obtain ⟨hc, hcs⟩ := List.forall_mem_cons.1 h
      rw [uncapitalized, lowercase_of_ascii (toNat_lt_of_isNameChar hc)]
      exact IsClean.cons (isNameChar_toLower hc) hcs

/-- **Clean words are joined to a clean text**, in either style. -/
theorem joined_clean (style : NameStyle) {groups : List (List (List Char))}
    (h : ∀ group ∈ groups, ∀ word ∈ group, IsClean word) : IsClean (joined style groups) := by
  cases style with
  | snake =>
      refine intercalate_clean (List.all_eq_true.1 (by decide)) fun text htext => ?_
      obtain ⟨group, hgroup, rfl⟩ := List.mem_map.1 htext
      exact intercalate_clean (List.all_eq_true.1 (by decide)) (h group hgroup)
  | camel =>
      have hwords : ∀ word ∈ groups.flatten, IsClean word := by
        intro word hword
        obtain ⟨group, hgroup, hmem⟩ := List.mem_flatten.1 hword
        exact h group hgroup word hmem
      show IsClean (camelJoined groups.flatten)
      cases hflat : groups.flatten with
      | nil => exact isClean_nil
      | cons first later =>
          rw [hflat] at hwords
          obtain ⟨hfirst, hlater⟩ := List.forall_mem_cons.1 hwords
          refine (uncapitalized_clean hfirst).append fun c hc => ?_
          obtain ⟨word, hword, hmem⟩ := List.mem_flatMap.1 hc
          exact capitalized_clean (hlater word hword) c hmem

/-! ## Repair -/

/-- A reserved word with an underscore behind it is not reserved. -/
theorem append_underscore_ne_reserved {word : String} (h : word ∈ reservedWords)
    (name : List Char) : name ++ ['_'] ≠ word.toList := by
  have hlast : reservedWords.all (fun word => word.toList.getLast? != some '_') = true := by
    decide +kernel
  have hword := List.all_eq_true.1 hlast word h
  intro heq
  rw [← heq, List.getLast?_concat] at hword
  exact absurd hword (by decide)

/-- A repaired name is not reserved. -/
theorem repaired_ne_reserved (style : NameStyle) (name : List Char) :
    ∀ word ∈ reservedWords, repaired style name ≠ word.toList := by
  intro word hword
  unfold repaired
  dsimp only
  split
  · exact append_underscore_ne_reserved hword _
  · next hfree =>
      intro heq
      refine hfree (List.any_eq_true.2 ⟨word, hword, ?_⟩)
      rw [heq]
      exact beq_self_eq_true _

/-- The repaired start of a clean text is clean and a lower case letter comes first. -/
theorem repairedStart_clean (style : NameStyle) {name : List Char} (h : IsClean name) :
    (∃ c ∈ (repairedStart style name).head?, c.isLower = true) ∧
      IsClean (repairedStart style name) := by
  have hn : isNameChar 'n' = true := by decide
  have hunderscore : isNameChar '_' = true := by decide
  unfold repairedStart
  split
  · exact ⟨⟨'n', rfl, by decide⟩, IsClean.cons hn isClean_nil⟩
  · next c cs =>
      obtain ⟨hc, hcs⟩ := List.forall_mem_cons.1 h
      have hascii := toNat_lt_of_isNameChar hc
      rw [isNumeric_of_ascii hascii, isUppercase_of_ascii hascii,
        lowercase_of_ascii hascii]
      split
      · cases style with
        | snake => exact ⟨⟨'n', rfl, by decide⟩, (h.cons hunderscore).cons hn⟩
        | camel => exact ⟨⟨'n', rfl, by decide⟩, h.cons hn⟩
      · next hdigit =>
          split
          · next hupper =>
              exact ⟨⟨c.toLower, rfl, isLower_toLower hc hupper⟩,
                IsClean.cons (isNameChar_toLower hc) hcs⟩
          · next hupper =>
              split
              · exact ⟨⟨'n', rfl, by decide⟩, h.cons hn⟩
              · next hne =>
                  refine ⟨⟨c, rfl, ?_⟩, h⟩
                  simpa [isNameChar, Char.isAlphanum, isAlpha_eq, hdigit, hupper, hne]
                    using hc

/-- **A clean text is repaired to a value name.** -/
theorem isValueName_repaired (style : NameStyle) {name : List Char} (h : IsClean name) :
    IsValueName (repaired style name) := by
  obtain ⟨hlower, hclean⟩ := repairedStart_clean style h
  refine ⟨?_, ?_, repaired_ne_reserved style name⟩
  · obtain ⟨c, hc, hlow⟩ := hlower
    refine ⟨c, ?_, hlow⟩
    unfold repaired
    dsimp only
    split
    · rw [List.head?_append, hc]
      rfl
    · exact hc
  · unfold repaired
    dsimp only
    split
    · exact hclean.append (IsClean.cons (by decide) isClean_nil)
    · exact hclean

theorem hyphen_mem_capitalized {word : List Char} (h : '-' ∈ word) :
    '-' ∈ capitalized word := by
  cases word with
  | nil => cases h
  | cons c cs =>
      rcases List.mem_cons.1 h with rfl | hcs
      · exact List.mem_append_left cs (by decide)
      · exact List.mem_append_right _ hcs

theorem hyphen_mem_uncapitalized {word : List Char} (h : '-' ∈ word) :
    '-' ∈ uncapitalized word := by
  cases word with
  | nil => cases h
  | cons c cs =>
      rcases List.mem_cons.1 h with rfl | hcs
      · exact List.mem_append_left cs (by decide)
      · exact List.mem_append_right _ hcs

/-- Joining keeps a hyphen inside of a word, in either style. -/
theorem hyphen_mem_joined (style : NameStyle) {groups : List (List (List Char))}
    {group : List (List Char)} {word : List Char} (hgroup : group ∈ groups)
    (hword : word ∈ group) (h : '-' ∈ word) : '-' ∈ joined style groups := by
  cases style with
  | snake =>
      have hinner : '-' ∈ ['_'].intercalate group := mem_intercalate_of_mem hword h
      exact mem_intercalate_of_mem (List.mem_map.2 ⟨group, hgroup, rfl⟩) hinner
  | camel =>
      have hflat : word ∈ groups.flatten := List.mem_flatten.2 ⟨group, hgroup, hword⟩
      show '-' ∈ camelJoined groups.flatten
      cases hwords : groups.flatten with
      | nil =>
          rw [hwords] at hflat
          cases hflat
      | cons first later =>
          rw [hwords] at hflat
          rcases List.mem_cons.1 hflat with rfl | hlater
          · exact List.mem_append_left _ (hyphen_mem_uncapitalized h)
          · exact List.mem_append_right _
              (List.mem_flatMap.2 ⟨word, hlater, hyphen_mem_capitalized h⟩)

/-- No repair removes a hyphen. -/
theorem hyphen_mem_repaired (style : NameStyle) {name : List Char} (h : '-' ∈ name) :
    '-' ∈ repaired style name := by
  have hstart : '-' ∈ repairedStart style name := by
    unfold repairedStart
    split
    · cases h
    · next c cs =>
        split
        · cases style with
          | snake => exact List.mem_cons_of_mem _ (List.mem_cons_of_mem _ h)
          | camel => exact List.mem_cons_of_mem _ h
        · split
          · next hupper =>
              rcases List.mem_cons.1 h with rfl | hcs
              · exact absurd hupper (by decide)
              · exact List.mem_append_right _ hcs
          · split
            · exact List.mem_cons_of_mem _ h
            · exact h
  unfold repaired
  dsimp only
  split
  · exact List.mem_append_left _ hstart
  · exact hstart

theorem mem_of_mem_trimHyphens {text : List Char} {c : Char} (h : c ∈ trimHyphens text) :
    c ∈ text := by
  have hfront := List.dropWhile_subset _ (List.mem_reverse.1 h)
  exact List.dropWhile_subset _ (List.mem_reverse.1 hfront)

/-- The words of all segments are clean if a prefix that one of them uses is. -/
theorem wordGroups_clean {utilityPrefix cls : List Char} (h : ∀ c ∈ cls, c.toNat < 0x80)
    (huse : ∀ segment ∈ cls.splitOn ':', trimHyphens utilityPrefix ++ ['-'] <+: segment →
      IsClean (trimHyphens utilityPrefix)) :
    ∀ group ∈ wordGroups utilityPrefix cls, ∀ word ∈ group, IsClean word := by
  have hlower : ∀ c : Char, c.isLower = true → isNameChar c = true := fun _ =>
    isNameChar_of_isLower
  have hchars : ∀ c ∈ cls, isWordChar c = true → isNameChar c = true := fun c hc =>
    isNameChar_of_isWordChar (h c hc)
  exact fun group hgroup word hword =>
    (isWordOf_wordGroups hlower hchars huse group hgroup word hword).chars

/-- The hyphens of a prefix that a segment uses are in the value name. -/
theorem hyphen_mem_ofClassText (style : NameStyle) {utilityPrefix cls segment : List Char}
    (hhyphen : '-' ∈ trimHyphens utilityPrefix) (hsegment : segment ∈ cls.splitOn ':')
    (huse : trimHyphens utilityPrefix ++ ['-'] <+: segment) :
    '-' ∈ ofClassText style utilityPrefix cls := by
  have hne : trimHyphens utilityPrefix ≠ [] := List.ne_nil_of_mem hhyphen
  have hword := mem_segmentWords hne huse
  have hgroup : segmentWords (trimHyphens utilityPrefix) segment ∈
      wordGroups utilityPrefix cls := by
    refine List.mem_filter.2 ⟨List.mem_map.2 ⟨segment, hsegment, rfl⟩, ?_⟩
    cases hwords : segmentWords (trimHyphens utilityPrefix) segment with
    | nil =>
        rw [hwords] at hword
        cases hword
    | cons first rest => rfl
  exact hyphen_mem_repaired style (hyphen_mem_joined style hgroup hword hhyphen)

end ValueName

/-! ## Value names of classes -/

/-- **The value name of an ASCII class is valid exactly if no segment uses a prefix
with a hyphen inside.** The prefix is one of ASCII letters, digits, underscores and
hyphens in any arrangement; the hyphens around it do not count. -/
theorem isValueName_valueName_iff (style : NameStyle) {utilityPrefix cls : String}
    (hcls : ∀ c ∈ cls.toList, c.toNat < 0x80)
    (hchars : ∀ c ∈ utilityPrefix.toList, c.isAlphanum = true ∨ c = '_' ∨ c = '-') :
    IsValueName (valueName style utilityPrefix cls).toList ↔
      '-' ∉ ValueName.trimHyphens utilityPrefix.toList ∨
        ∀ segment ∈ cls.toList.splitOn ':',
          ¬ ValueName.trimHyphens utilityPrefix.toList ++ ['-'] <+: segment := by
  rw [valueName, String.toList_ofList]
  constructor
  · intro hvalid
    by_contra hbad
    obtain ⟨hhyphen, hused⟩ := not_or.1 hbad
    simp only [not_forall, not_not] at hhyphen hused
    obtain ⟨segment, hsegment, huse⟩ := hused
    have hmem := ValueName.hyphen_mem_ofClassText style hhyphen hsegment huse
    exact absurd (hvalid.chars '-' hmem) (by decide)
  · intro hgood
    have huse : ∀ segment ∈ cls.toList.splitOn ':',
        ValueName.trimHyphens utilityPrefix.toList ++ ['-'] <+: segment →
          ValueName.IsClean (ValueName.trimHyphens utilityPrefix.toList) := by
      intro segment hsegment hused
      rcases hgood with hplain | hunused
      · intro c hc
        rcases hchars c (ValueName.mem_of_mem_trimHyphens hc) with halnum | rfl | rfl
        · simp [isNameChar, halnum]
        · decide
        · exact absurd hc hplain
      · exact absurd hused (hunused segment hsegment)
    exact ValueName.isValueName_repaired style
      (ValueName.joined_clean style (ValueName.wordGroups_clean hcls huse))

/-- A prefix with a hyphen inside, not used by one class and used by another. -/
theorem isValueName_valueName_my_app :
    IsValueName (valueName .camel "-my-app-" "sm:-my-appendix").toList ∧
      ¬ IsValueName (valueName .snake "-my-app-" "sm:my-app--flex").toList := by
  have hchars : ∀ c ∈ "-my-app-".toList, c.isAlphanum = true ∨ c = '_' ∨ c = '-' :=
    forall_mem_of_all (by decide)
  have hunused : ∀ c ∈ "sm:-my-appendix".toList, c.toNat < 0x80 := forall_mem_of_all (by decide)
  have hused : ∀ c ∈ "sm:my-app--flex".toList, c.toNat < 0x80 := forall_mem_of_all (by decide)
  constructor
  · refine (isValueName_valueName_iff .camel hunused hchars).2 (.inr ?_)
    decide
  · intro hvalid
    rcases (isValueName_valueName_iff .snake hused hchars).1 hvalid with h | h
    · exact h (by decide)
    · exact h "my-app--flex".toList (by decide) (by decide)

/-- A prefix can make a value name invalid that was valid without it. -/
theorem not_forall_isValueName_valueName :
    ¬ ∀ (style : NameStyle) (utilityPrefix cls : String),
      (∀ c ∈ cls.toList, c.toNat < 0x80) →
      (∀ c ∈ utilityPrefix.toList, c.isAlphanum = true ∨ c = '_' ∨ c = '-') →
      IsValueName (valueName style utilityPrefix cls).toList := by
  intro h
  have hvalid := h .snake "my-app-" "my-app-flex" (forall_mem_of_all (by decide))
    (forall_mem_of_all (by decide))
  exact absurd (hvalid.chars '-' (by decide +kernel)) (by decide)

end ElmClasses.Elm
