import ElmClasses.Proofs.Elm.NameStyles
import ElmClasses.Proofs.Elm.ValueName
import ElmClasses.Proofs.Text.CaseMapping

/-!
# Identifiers of classes in any script

Beyond ASCII a value name is an identifier in a wider sense: letters, numerals and
underscores of any script, with neither a capital nor a numeral nor an underscore in front.
The words of a class have no other characters, but some letters are written in another case
in the name than they have in the class, and a case mapping can bring what no word has.

A capital in front is to become a small letter. Some capitals have none, as the bold ones
of mathematics, and they stay; and the small form of `İ` is an `i` with a combining dot,
which is no letter. Both spoil a name in either style (`IsLoneCapital`). In camel style the
first letters of all later words become capitals, and a few small letters have no capital
but one with a combining mark, as `ǰ` and `ΐ` (`HasMarkedCapital`). Nothing else spoils a
name: `valueName_isIdentifier_iff` says so in both directions.

The argument follows the name from its front. Repairing the start of a text is a matter of
its first character alone (`repairedStart_cons`), and what becomes of a first character that
is one of a word is well formed unless it is a lone capital
(`isWellFormed_repairedStart_iff`). Behind it only camel style brings anything that
is not in the words.

## Main results

* `isWellFormed_repairedStart_iff`: which starts can be repaired.
* `isWellFormed_joined_iff`: which words give a well-formed start, in either style.
* `valueName_isIdentifier_iff`: when the name of a class is an identifier.
-/

namespace ElmClasses.Elm

open Text

/-- A name of letters, numerals and underscores of any script, which is not reserved, and
of which the first character is no numeral, no capital and no underscore. -/
structure IsIdentifier (name : List Char) : Prop where
  ne_nil : name ≠ []
  chars : ∀ c ∈ name, ValueName.isWordChar c = true
  start : ∀ c ∈ name.head?, isNumeric c = false ∧ isUppercase c = false ∧ c ≠ '_'
  not_reserved : ∀ word ∈ ValueName.reservedWords, name ≠ word.toList

/-- A capital that lower case does not make a small letter: it has no small form, or one of
two characters. -/
def IsLoneCapital (c : Char) : Prop :=
  isUppercase c = true ∧ isNumeric c = false ∧ (lowercase c = [c] ∨ c = 'İ')

/-- A letter whose upper case form is written with a mark, which is no character of words. -/
def HasMarkedCapital (c : Char) : Prop :=
  ∃ d ∈ uppercase c, ValueName.isWordChar d = false

namespace ValueName

/-- A text of characters of words that starts as an identifier does. -/
structure IsWellFormed (text : List Char) : Prop where
  chars : ∀ c ∈ text, isWordChar c = true
  start : ∀ c ∈ text.head?, isNumeric c = false ∧ isUppercase c = false ∧ c ≠ '_'

/-- Words of which a name cannot be an identifier: the first one starts with a capital
that stays, or in camel style a later one starts with a letter that brings a mark. -/
def IsSpoiled (style : NameStyle) : List (List Char) → Prop
  | [] => False
  | first :: later =>
    (∃ c ∈ first.head?, IsLoneCapital c) ∨
      style = .camel ∧ ∃ word ∈ later, ∃ c ∈ word.head?, HasMarkedCapital c

/-- The mark in the small form of `İ`. -/
theorem isWordChar_dot : isWordChar '\u0307' = false := by
  decide +kernel

theorem isWordChar_of_isLower {c : Char} (h : c.isLower = true) : isWordChar c = true := by
  rw [isWordChar, isAlphanumeric_of_ascii (toNat_lt_of_isLower h), Char.isAlphanum, isAlpha_eq,
    h]
  simp

theorem ne_underscore_of_isUppercase {c : Char} (h : isUppercase c = true) : c ≠ '_' := by
  rintro rfl
  exact absurd h (by decide)

section Lower

variable {c d : Char} (h : IsLowerForm c d)
include h

theorem isWordChar_of_isLowerForm : isWordChar d = true := by
  rw [isWordChar, h.isAlphanumeric_eq, Bool.true_or]

theorem ne_underscore_of_isLowerForm : d ≠ '_' := by
  rintro rfl
  exact absurd h.isAlphanumeric_eq (by decide)

theorem isNumeric_of_isLowerForm (hc : isNumeric c = false) : isNumeric d = false := by
  rw [Bool.eq_false_iff]
  intro hd
  rw [h.isNumeric_of hd] at hc
  cases hc

/-- A capital with a small form is no lone one. -/
theorem not_isLoneCapital_of_isLowerForm (hlower : lowercase c = [d]) : ¬ IsLoneCapital c := by
  rintro ⟨hupper, -, hsame | rfl⟩
  · obtain rfl := List.singleton_inj.1 (hsame.symm.trans hlower)
    rw [h.isUppercase_eq] at hupper
    cases hupper
  · cases hlower

end Lower

/-- A small letter, as the mapping gives it, is no capital. -/
theorem not_isLoneCapital {c : Char} (h : isUppercase c = false) : ¬ IsLoneCapital c :=
  fun hlone => absurd hlone.1 (by simp [h])

/-- No repair leaves nothing. -/
theorem repairedStart_ne_nil (style : NameStyle) (name : List Char) :
    repairedStart style name ≠ [] := by
  unfold repairedStart
  split
  · simp
  · next c cs =>
      split
      · cases style <;> simp
      · split
        · simp [lowercase_ne_nil]
        · split <;> simp

theorem isWellFormed_append_iff {front : List Char} (hne : front ≠ []) (tail : List Char) :
    IsWellFormed (front ++ tail) ↔ IsWellFormed front ∧ ∀ d ∈ tail, isWordChar d = true := by
  obtain ⟨c, cs, rfl⟩ := List.exists_cons_of_ne_nil hne
  constructor
  · rintro ⟨hchars, hstart⟩
    obtain ⟨hfront, htail⟩ := List.forall_mem_append.1 hchars
    exact ⟨⟨hfront, hstart⟩, htail⟩
  · rintro ⟨⟨hfront, hstart⟩, htail⟩
    exact ⟨List.forall_mem_append.2 ⟨hfront, htail⟩, hstart⟩

theorem isWellFormed_cons {c : Char} {tail : List Char} (hnumeric : isNumeric c = false)
    (hupper : isUppercase c = false) (hne : c ≠ '_')
    (hchars : ∀ d ∈ c :: tail, isWordChar d = true) : IsWellFormed (c :: tail) :=
  ⟨hchars, fun _ hd => Option.some.inj hd ▸ ⟨hnumeric, hupper, hne⟩⟩

/-- The word that goes before what cannot stand in front. -/
theorem isWellFormed_n {tail : List Char} (h : ∀ d ∈ tail, isWordChar d = true) :
    IsWellFormed ('n' :: tail) :=
  isWellFormed_cons (by decide) (by decide) (by decide)
    (List.forall_mem_cons.2 ⟨by decide, h⟩)

/-! ## Repair -/

/-- Repairing the start of a text is repairing its first character. -/
theorem repairedStart_cons (style : NameStyle) (c : Char) (tail : List Char) :
    repairedStart style (c :: tail) = repairedStart style [c] ++ tail := by
  simp only [repairedStart]
  split
  · cases style <;> rfl
  · split
    · rw [List.append_nil]
    · split <;> rfl

theorem repairedStart_of_isLoneCapital (style : NameStyle) {c : Char} (h : IsLoneCapital c) :
    repairedStart style [c] = lowercase c := by
  simp [repairedStart, h.1, h.2.1]

/-- A lone capital is still a capital, or brings a mark. -/
theorem not_isWellFormed_lowercase {c : Char} (h : IsLoneCapital c) :
    ¬ IsWellFormed (lowercase c) := by
  intro hwell
  obtain ⟨hupper, -, hsame | rfl⟩ := h
  · rw [hsame] at hwell
    rw [(hwell.start c rfl).2.1] at hupper
    cases hupper
  · have hdot := hwell.chars '\u0307' (by decide)
    rw [isWordChar_dot] at hdot
    cases hdot

/-- What is repaired of a character that is no lone capital. -/
theorem isWellFormed_repairedStart_singleton (style : NameStyle) {c : Char}
    (hword : isWordChar c = true) (h : ¬ IsLoneCapital c) :
    IsWellFormed (repairedStart style [c]) := by
  have hunderscore : isWordChar '_' = true := by decide
  simp only [repairedStart]
  split
  · cases style with
    | snake => exact isWellFormed_n (by simp [hunderscore, hword])
    | camel => exact isWellFormed_n (by simp [hword])
  · next hnumeric =>
      rw [Bool.not_eq_true] at hnumeric
      split
      · next hupper =>
          rcases lowercase_cases c with hsame | hdotted | ⟨d, hlower, hform⟩
          · exact absurd ⟨hupper, hnumeric, .inl hsame⟩ h
          · exact absurd ⟨hupper, hnumeric, .inr hdotted⟩ h
          · rw [hlower]
            exact isWellFormed_cons (isNumeric_of_isLowerForm hform hnumeric)
              hform.isUppercase_eq (ne_underscore_of_isLowerForm hform)
              (by simp [isWordChar_of_isLowerForm hform])
      · next hupper =>
          rw [Bool.not_eq_true] at hupper
          split
          · exact isWellFormed_n (by simp [hword])
          · next hne => exact isWellFormed_cons hnumeric hupper hne (by simp [hword])

/-- **A start is repaired unless it is a lone capital**, and what comes behind it stays as
it is. -/
theorem isWellFormed_repairedStart_iff (style : NameStyle) {c : Char}
    (hword : isWordChar c = true) (tail : List Char) :
    IsWellFormed (repairedStart style (c :: tail)) ↔
      ¬ IsLoneCapital c ∧ ∀ d ∈ tail, isWordChar d = true := by
  have hne : repairedStart style [c] ≠ [] := repairedStart_ne_nil style [c]
  have hfront : IsWellFormed (repairedStart style [c]) ↔ ¬ IsLoneCapital c := by
    refine ⟨fun hwell hlone => ?_, isWellFormed_repairedStart_singleton style hword⟩
    rw [repairedStart_of_isLoneCapital style hlone] at hwell
    exact not_isWellFormed_lowercase hlone hwell
  rw [repairedStart_cons, isWellFormed_append_iff hne, hfront]

/-- A repaired text never starts with a numeral or an underscore. -/
theorem head?_repairedStart (style : NameStyle) {c : Char} (hword : isWordChar c = true)
    (tail : List Char) :
    ∀ d ∈ (repairedStart style (c :: tail)).head?, isNumeric d = false ∧ d ≠ '_' := by
  have hne : repairedStart style [c] ≠ [] := repairedStart_ne_nil style [c]
  rw [repairedStart_cons, List.head?_append_of_ne_nil _ hne]
  intro d hd
  by_cases hlone : IsLoneCapital c
  · rw [repairedStart_of_isLoneCapital style hlone] at hd
    obtain ⟨hupper, hnumeric, hsame | rfl⟩ := hlone
    · rw [hsame] at hd
      obtain rfl := Option.some.inj hd
      exact ⟨hnumeric, ne_underscore_of_isUppercase hupper⟩
    · obtain rfl := Option.some.inj hd
      decide
  · obtain ⟨hnumeric, -, hunderscore⟩ :=
      (isWellFormed_repairedStart_singleton style hword hlone).start d hd
    exact ⟨hnumeric, hunderscore⟩

/-- A repaired name is the text with a repaired start, and an underscore may follow. -/
theorem repaired_eq_append (style : NameStyle) (name : List Char) :
    ∃ behind, (∀ c ∈ behind, isWordChar c = true) ∧
      repaired style name = repairedStart style name ++ behind := by
  unfold repaired
  dsimp only
  split
  · exact ⟨['_'], List.forall_mem_singleton.2 (by decide), rfl⟩
  · exact ⟨[], by simp, (List.append_nil _).symm⟩

theorem repaired_ne_nil (style : NameStyle) (name : List Char) : repaired style name ≠ [] := by
  obtain ⟨behind, -, heq⟩ := repaired_eq_append style name
  rw [heq]
  exact List.append_ne_nil_of_left_ne_nil (repairedStart_ne_nil style name) behind

/-- A repaired name is an identifier if the text with a repaired start is well formed. -/
theorem isIdentifier_repaired_iff (style : NameStyle) (name : List Char) :
    IsIdentifier (repaired style name) ↔ IsWellFormed (repairedStart style name) := by
  obtain ⟨behind, hbehind, heq⟩ := repaired_eq_append style name
  have hne : repairedStart style name ≠ [] := repairedStart_ne_nil style name
  have hwell : IsWellFormed (repaired style name) ↔ IsWellFormed (repairedStart style name) := by
    rw [heq, isWellFormed_append_iff hne]
    exact ⟨And.left, fun h => ⟨h, hbehind⟩⟩
  rw [← hwell]
  refine ⟨fun h => ⟨h.chars, h.start⟩, fun h => ⟨?_, h.chars, h.start, ?_⟩⟩
  · exact repaired_ne_nil style name
  · exact repaired_ne_reserved style name

/-! ## Joining -/

/-- The small form of a character in front of a text, before its start is repaired. -/
theorem isWellFormed_repairedStart_lowercase_iff (style : NameStyle) {c : Char}
    (hword : isWordChar c = true) (tail : List Char) :
    IsWellFormed (repairedStart style (lowercase c ++ tail)) ↔
      ¬ IsLoneCapital c ∧ ∀ d ∈ tail, isWordChar d = true := by
  rcases lowercase_cases c with hsame | rfl | ⟨d, hlower, hform⟩
  · rw [hsame]
    exact isWellFormed_repairedStart_iff style hword tail
  · have hlone : IsLoneCapital 'İ' := ⟨by decide +kernel, by decide +kernel, .inr rfl⟩
    have hsmall : lowercase 'İ' = ['i', '\u0307'] := rfl
    rw [hsmall, List.cons_append, isWellFormed_repairedStart_iff style (by decide)]
    simp [hlone, isWordChar_dot]
  · rw [hlower, List.singleton_append,
      isWellFormed_repairedStart_iff style (isWordChar_of_isLowerForm hform)]
    simp [not_isLoneCapital hform.isUppercase_eq, not_isLoneCapital_of_isLowerForm hform hlower]

/-- A small form starts with a character of words. -/
theorem lowercase_eq_cons {c : Char} (hword : isWordChar c = true) :
    ∃ d ds, lowercase c = d :: ds ∧ isWordChar d = true := by
  rcases lowercase_cases c with hsame | rfl | ⟨d, hlower, hform⟩
  · exact ⟨c, [], hsame, hword⟩
  · exact ⟨'i', ['\u0307'], rfl, by decide⟩
  · exact ⟨d, [], hlower, isWordChar_of_isLowerForm hform⟩

/-- A word with a capital in front keeps to characters of words unless the capital brings
a mark. -/
theorem capitalized_chars_iff {word : List Char} (h : ∀ c ∈ word, isWordChar c = true) :
    (∀ d ∈ capitalized word, isWordChar d = true) ↔
      ¬ ∃ c ∈ word.head?, HasMarkedCapital c := by
  cases word with
  | nil => simp [capitalized]
  | cons c cs =>
      have hcs := (List.forall_mem_cons.1 h).2
      have hupper : (∀ d ∈ uppercase c, isWordChar d = true) ↔ ¬ HasMarkedCapital c := by
        simp [HasMarkedCapital]
      rw [capitalized, List.forall_mem_append, hupper]
      simpa using fun _ => hcs

theorem not_isSpoiled_snake {c : Char} {cs : List Char} {later : List (List Char)} :
    ¬ IsSpoiled .snake ((c :: cs) :: later) ↔ ¬ IsLoneCapital c := by
  simp [IsSpoiled]

theorem not_isSpoiled_camel {c : Char} {cs : List Char} {later : List (List Char)} :
    ¬ IsSpoiled .camel ((c :: cs) :: later) ↔
      ¬ IsLoneCapital c ∧ ∀ word ∈ later, ¬ ∃ d ∈ word.head?, HasMarkedCapital d := by
  simp only [IsSpoiled, List.head?_cons, Option.mem_some_iff, exists_eq_left', true_and,
    not_or, not_exists, not_and]

section Joined

variable {groups : List (List (List Char))} (hne : ∀ group ∈ groups, group ≠ [])

include hne in
/-- Without words there are no groups, and nothing to join. -/
theorem joined_eq_nil (style : NameStyle) (hflat : groups.flatten = []) :
    joined style groups = [] := by
  have hgroups : groups = [] :=
    List.eq_nil_iff_forall_not_mem.2 fun group hgroup =>
      hne group hgroup (List.flatten_eq_nil_iff.1 hflat group hgroup)
  rw [hgroups]
  cases style <;> rfl

variable (hwords : ∀ group ∈ groups, ∀ word ∈ group, IsWordOf (isWordChar · = true) word)
include hwords

theorem isWordOf_of_mem_flatten :
    ∀ word ∈ groups.flatten, IsWordOf (isWordChar · = true) word := by
  intro word hword
  obtain ⟨group, hgroup, hmem⟩ := List.mem_flatten.1 hword
  exact hwords group hgroup word hmem

/-- Snake style puts underscores between words and changes none. -/
theorem joined_snake_chars : ∀ c ∈ joined .snake groups, isWordChar c = true := by
  refine forall_mem_intercalate (List.all_eq_true.1 (by decide)) fun text htext => ?_
  obtain ⟨group, hgroup, rfl⟩ := List.mem_map.1 htext
  exact forall_mem_intercalate (List.all_eq_true.1 (by decide)) fun word hword =>
    (hwords group hgroup word hword).chars

include hne

/-- In snake style a name starts as the first word does. -/
theorem joined_snake_eq_cons {c : Char} {cs : List Char} {later : List (List Char)}
    (hflat : groups.flatten = (c :: cs) :: later) :
    ∃ tail, joined .snake groups = c :: tail ∧ ∀ d ∈ tail, isWordChar d = true := by
  have hchars := joined_snake_chars hwords
  cases groups with
  | nil => cases hflat
  | cons first rest =>
      obtain ⟨word, words, rfl⟩ := List.exists_cons_of_ne_nil (hne first List.mem_cons_self)
      obtain ⟨rfl, -⟩ := List.cons.inj hflat
      obtain ⟨behind, hbehind⟩ := joined_snake_cons words rest
      have hjoined : joined .snake (((c :: cs) :: words) :: rest) = c :: (cs ++ behind) :=
        hbehind (c :: cs)
      rw [hjoined] at hchars
      exact ⟨cs ++ behind, hjoined, (List.forall_mem_cons.1 hchars).2⟩

/-- Joined words are nothing, or start with a character of words. -/
theorem joined_cases (style : NameStyle) :
    joined style groups = [] ∨
      ∃ c tail, joined style groups = c :: tail ∧ isWordChar c = true := by
  cases hflat : groups.flatten with
  | nil => exact .inl (joined_eq_nil hne style hflat)
  | cons first later =>
      have hfirst := isWordOf_of_mem_flatten hwords first (hflat ▸ List.mem_cons_self)
      obtain ⟨c, cs, rfl⟩ := List.exists_cons_of_ne_nil hfirst.ne_nil
      have hc := hfirst.chars c List.mem_cons_self
      cases style with
      | snake =>
          obtain ⟨tail, hjoined, -⟩ := joined_snake_eq_cons hne hwords hflat
          exact .inr ⟨c, tail, hjoined, hc⟩
      | camel =>
          obtain ⟨d, ds, hlower, hd⟩ := lowercase_eq_cons hc
          refine .inr ⟨d, ds ++ cs ++ later.flatMap capitalized, ?_, hd⟩
          rw [joined, hflat, camelJoined, uncapitalized, hlower]
          rfl

/-- **The repaired start of joined words is well formed unless the words are spoiled.** -/
theorem isWellFormed_joined_iff (style : NameStyle) :
    IsWellFormed (repairedStart style (joined style groups)) ↔
      ¬ IsSpoiled style groups.flatten := by
  have hall := isWordOf_of_mem_flatten hwords
  cases hflat : groups.flatten with
  | nil =>
      rw [joined_eq_nil hne style hflat]
      exact iff_of_true (isWellFormed_n (by simp)) id
  | cons first later =>
      rw [hflat] at hall
      obtain ⟨⟨hfirst, hchars⟩, hlater⟩ := List.forall_mem_cons.1 hall
      obtain ⟨c, cs, rfl⟩ := List.exists_cons_of_ne_nil hfirst
      obtain ⟨hc, hcs⟩ := List.forall_mem_cons.1 hchars
      cases style with
      | snake =>
          obtain ⟨tail, hjoined, htail⟩ := joined_snake_eq_cons hne hwords hflat
          rw [hjoined, isWellFormed_repairedStart_iff .snake hc, not_isSpoiled_snake]
          exact and_iff_left htail
      | camel =>
          have hjoined : joined .camel groups =
              lowercase c ++ (cs ++ later.flatMap capitalized) := by
            rw [joined, hflat, camelJoined, uncapitalized, List.append_assoc]
          have hmarks : (∀ d ∈ later.flatMap capitalized, isWordChar d = true) ↔
              ∀ word ∈ later, ¬ ∃ c ∈ word.head?, HasMarkedCapital c := by
            rw [List.forall_mem_flatMap]
            exact forall₂_congr fun word hword => capitalized_chars_iff (hlater word hword).chars
          rw [hjoined, isWellFormed_repairedStart_lowercase_iff .camel hc,
            List.forall_mem_append, hmarks, not_isSpoiled_camel, and_iff_right hcs]

end Joined

/-- The words of a class without a prefix are words of characters of words. -/
theorem isWordOf_wordGroups_nil (cls : List Char) :
    ∀ group ∈ wordGroups [] cls, ∀ word ∈ group, IsWordOf (isWordChar · = true) word :=
  isWordOf_wordGroups (fun _ => isWordChar_of_isLower) (fun _ _ hc => hc)
    fun _ _ _ _ hc => absurd hc List.not_mem_nil

end ValueName

/-- **When the name of a class is an identifier.** Whatever the class is, its name is neither
empty nor reserved, and starts with neither a numeral nor an underscore. It is an identifier
exactly if the words of the class are not spoiled. -/
theorem valueName_isIdentifier_iff (style : NameStyle) (cls : String) :
    let name := (valueName style "" cls).toList
    (name ≠ [] ∧ (∀ word ∈ ValueName.reservedWords, name ≠ word.toList) ∧
        ∀ c ∈ name.head?, isNumeric c = false ∧ c ≠ '_') ∧
      (IsIdentifier name ↔
        ¬ ValueName.IsSpoiled style (ValueName.wordGroups [] cls.toList).flatten) := by
  intro name
  have hname : name = ValueName.repaired style
      (ValueName.joined style (ValueName.wordGroups [] cls.toList)) := by
    simp only [name, valueName, String.toList_ofList]
    rfl
  have hne : ∀ group ∈ ValueName.wordGroups [] cls.toList, group ≠ [] := fun _ hgroup =>
    ValueName.ne_nil_of_mem_wordGroups hgroup
  have hwords := ValueName.isWordOf_wordGroups_nil cls.toList
  rw [hname]
  refine ⟨⟨?_, ValueName.repaired_ne_reserved style _, ?_⟩, ?_⟩
  · exact ValueName.repaired_ne_nil style _
  · obtain ⟨behind, -, heq⟩ := ValueName.repaired_eq_append style
      (ValueName.joined style (ValueName.wordGroups [] cls.toList))
    rw [heq, List.head?_append_of_ne_nil _ (ValueName.repairedStart_ne_nil style _)]
    rcases ValueName.joined_cases hne hwords style with hnil | ⟨c, tail, hjoined, hc⟩
    · rw [hnil]
      exact fun c hc => Option.some.inj hc ▸ by decide
    · rw [hjoined]
      exact ValueName.head?_repairedStart style hc tail
  · rw [ValueName.isIdentifier_repaired_iff]
    exact ValueName.isWellFormed_joined_iff hne hwords style

/-- A capital with a small form of two characters, a capital without a small form, and a
letter that brings a mark into the name. -/
theorem not_isIdentifier_valueName :
    ¬ IsIdentifier (valueName .snake "" "\u0130").toList ∧
      ¬ IsIdentifier (valueName .snake "" "𝐀").toList ∧
      ¬ IsIdentifier (valueName .camel "" "a-\u01f0").toList := by
  refine ⟨fun h => ?_, fun h => ?_, fun h => ?_⟩
  · exact absurd (h.chars '\u0307' (by decide +kernel)) (by decide +kernel)
  · exact absurd (h.start '𝐀' (by decide +kernel)).2.1 (by decide +kernel)
  · exact absurd (h.chars '\u030c' (by decide +kernel)) (by decide +kernel)

end ElmClasses.Elm
