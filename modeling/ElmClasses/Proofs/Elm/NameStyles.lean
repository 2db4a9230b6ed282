import ElmClasses.Proofs.Elm.ValueName
import ElmClasses.Proofs.Elm.Words

/-!
# Snake names and camel names

In snake style one underscore divides the words of a segment and two divide the segments.
Both are found again as long as no word is empty or has an underscore of its own, and no
segment is without words. Cut at every underscore, a name gives its words, with an empty
piece between those of different segments (`IsPlain.splitOn_joined`); cut at the empty
pieces, the words are grouped by segments (`IsPlain.splitOn_pieces`). So nothing about words
and segments is lost in a name, and it neither starts nor ends with an underscore.

## Main results

* `IsPlain.eq_of_joined_eq`: a snake name has only one grouping of words.
* `IsPlain.head?_joined`, `IsPlain.getLast?_joined`: no underscore stands at an end.
* `repairedStart_joined`: repairing a start is starting the words.
* `valueName_camel_eq`: classes with one snake name have one camel name.
-/

namespace ElmClasses.Elm.ValueName

open Text

theorem joined_snake_cons_cons (first second : List Char) (words : List (List Char))
    (later : List (List (List Char))) :
    joined .snake ((first :: second :: words) :: later) =
      first ++ '_' :: joined .snake ((second :: words) :: later) := by
  cases later <;> simp [joined, List.intercalate_singleton, List.intercalate_cons_cons]

/-- What is behind the first word of a name does not depend on the word. -/
theorem joined_snake_cons (words : List (List Char)) (later : List (List (List Char))) :
    ∃ behind, ∀ word, joined .snake ((word :: words) :: later) = word ++ behind := by
  cases words with
  | nil =>
      cases later with
      | nil => exact ⟨[], fun word => by simp [joined, List.intercalate_singleton]⟩
      | cons second rest =>
          refine ⟨['_', '_'] ++ joined .snake (second :: rest), fun word => ?_⟩
          simp [joined, List.intercalate_singleton, List.intercalate_cons_cons]
  | cons second words => exact ⟨_, fun word => joined_snake_cons_cons word second words later⟩

/-- Words of which every snake name is made in one way only. -/
structure IsPlain (groups : List (List (List Char))) : Prop where
  ne_nil : groups ≠ []
  group_ne_nil : ∀ group ∈ groups, group ≠ []
  words : ∀ group ∈ groups, ∀ word ∈ group, IsWordOf (· ≠ '_') word

/-- Two underscores between segments are an empty piece between their words. -/
theorem joined_snake {groups : List (List (List Char))} (h : ∀ group ∈ groups, group ≠ []) :
    joined .snake groups = ['_'].intercalate ([[]].intercalate groups) := by
  induction groups with
  | nil => rfl
  | cons first rest ih =>
      obtain ⟨hfirst, hrest⟩ := List.forall_mem_cons.1 h
      cases rest with
      | nil => simp [joined, List.intercalate_singleton]
      | cons second rest =>
          have hjoin : joined .snake (first :: second :: rest) =
              ['_'].intercalate first ++ ['_', '_'] ++ joined .snake (second :: rest) := by
            simp only [joined, List.map_cons, List.intercalate_cons_cons]
          have hback : [[]].intercalate (second :: rest) ≠ [] := by
            obtain ⟨word, words, rfl⟩ := List.exists_cons_of_ne_nil (hrest second (by simp))
            cases rest <;> simp [List.intercalate_singleton, List.intercalate_cons_cons]
          rw [hjoin, ih hrest, List.intercalate_cons_cons,
            intercalate_append ['_'] (by simp) hback, intercalate_append ['_'] hfirst (by simp)]
          simp [List.intercalate_singleton]

namespace IsPlain

variable {groups other : List (List (List Char))} (h : IsPlain groups)
include h

/-- Cutting at empty pieces gives the words of each segment. -/
theorem splitOn_pieces : ([[]].intercalate groups).splitOn [] = groups := by
  refine List.splitOn_intercalate [] (fun group hgroup hmem => ?_) h.ne_nil
  exact (h.words group hgroup [] hmem).ne_nil rfl

theorem pieces_ne_nil : [[]].intercalate groups ≠ [] := by
  intro hnil
  have hgroups := h.splitOn_pieces
  rw [hnil, List.splitOn_nil] at hgroups
  exact h.group_ne_nil [] (hgroups ▸ List.mem_cons_self) rfl

/-- Cutting a name at its underscores gives the pieces. -/
theorem splitOn_joined : (joined .snake groups).splitOn '_' = [[]].intercalate groups := by
  have hpieces : ∀ piece ∈ [[]].intercalate groups, '_' ∉ piece :=
    forall_mem_intercalate (by simp) fun group hgroup word hword hmem =>
      (h.words group hgroup word hword).chars '_' hmem rfl
  rw [joined_snake h.group_ne_nil]
  exact List.splitOn_intercalate '_' hpieces h.pieces_ne_nil

/-- **A snake name has only one grouping of words.** -/
theorem eq_of_joined_eq (hother : IsPlain other)
    (heq : joined .snake groups = joined .snake other) : groups = other := by
  rw [← h.splitOn_pieces, ← h.splitOn_joined, heq, hother.splitOn_joined,
    hother.splitOn_pieces]

/-- No segment is without words, so empty pieces stand at neither end and never side by
side. -/
theorem splitOn_pieces_ne (front back : List (List (List Char))) :
    ([[]].intercalate groups).splitOn [] ≠ front ++ [] :: back := by
  intro heq
  rw [h.splitOn_pieces] at heq
  exact h.group_ne_nil [] (heq ▸ by simp) rfl

theorem joined_ne_nil : joined .snake groups ≠ [] := by
  intro hnil
  have hpieces := h.splitOn_joined
  -- An empty name has one empty piece, and that would be two segments without words.
  rw [hnil, List.splitOn_nil] at hpieces
  refine absurd ?_ (h.splitOn_pieces_ne [] [[]])
  rw [← hpieces]
  rfl

theorem head?_joined : (joined .snake groups).head? ≠ some '_' := by
  intro hhead
  obtain ⟨behind, hname⟩ := List.head?_eq_some_iff.1 hhead
  have hpieces := h.splitOn_joined
  -- An underscore in front would end a segment without words.
  have hcut : ('_' :: behind).splitOn '_' = [] :: behind.splitOn '_' :=
    List.splitOn_append_cons_self [] behind
  rw [hname, hcut] at hpieces
  refine absurd ?_ (h.splitOn_pieces_ne [] ((behind.splitOn '_').splitOn []))
  rw [← hpieces]
  exact List.splitOn_append_cons_self [] (behind.splitOn '_')

theorem getLast?_joined : (joined .snake groups).getLast? ≠ some '_' := by
  intro hlast
  obtain ⟨front, hname⟩ := List.getLast?_eq_some_iff.1 hlast
  have hpieces := h.splitOn_joined
  rw [hname, List.splitOn_append_cons_self, List.splitOn_nil] at hpieces
  refine absurd ?_ (h.splitOn_pieces_ne ((front.splitOn '_').splitOn []) [])
  rw [← hpieces, List.splitOn_append_cons_self, List.splitOn_nil]

end IsPlain

end ElmClasses.Elm.ValueName

namespace ElmClasses.Elm

/-!
## The two styles

A snake name keeps all words of a class apart, and a camel name does not: `a-b-c` and `aB-c`
differ in snake style and are `aBC` in camel style. It is never the other way round. Two plain
classes with one snake name, where plain means ASCII without underscores, have one camel
name as well (`valueName_camel_eq`).

Two snake names can be equal for two reasons: the words are the same, or a repair made
them the same. But a repair of the start is nothing but another word in front, or another
case of the first letter, and in both styles it is the same change to the words
(`repairedStart_joined`). The repair of a reserved word shows, since no other name ends
with an underscore. So names are names of *started* words, equal snake names have the same
started words, and a camel name is made of them.
-/

open Text

/-- A class of ASCII characters without underscores. -/
def IsPlainClass (cls : String) : Prop :=
  ∀ c ∈ cls.toList, c.toNat < 0x80 ∧ c ≠ '_'

namespace ValueName

/-- Words of ASCII characters without underscores. -/
def AreAsciiWords (groups : List (List (List Char))) : Prop :=
  ∀ group ∈ groups, group ≠ [] ∧
    ∀ word ∈ group, IsWordOf (fun c => c.toNat < 0x80 ∧ c ≠ '_') word

/-- The words of a plain class are plain, and so is a prefix that a segment uses: it is a
part of the class. -/
theorem areAsciiWords_wordGroups (utilityPrefix : List Char) {cls : List Char}
    (h : ∀ c ∈ cls, c.toNat < 0x80 ∧ c ≠ '_') :
    AreAsciiWords (wordGroups utilityPrefix cls) := by
  have hlower : ∀ c : Char, c.isLower = true → c.toNat < 0x80 ∧ c ≠ '_' := by
    refine fun c hc => ⟨toNat_lt_of_isLower hc, ?_⟩
    rintro rfl
    exact absurd hc (by decide)
  have huse : ∀ segment ∈ cls.splitOn ':', trimHyphens utilityPrefix ++ ['-'] <+: segment →
      ∀ c ∈ trimHyphens utilityPrefix, c.toNat < 0x80 ∧ c ≠ '_' := by
    intro segment hsegment hused c hc
    exact h c (mem_of_mem_splitOn hsegment (hused.subset (List.mem_append_left _ hc)))
  intro group hgroup
  refine ⟨ne_nil_of_mem_wordGroups hgroup, ?_⟩
  exact isWordOf_wordGroups hlower (fun c hc _ => h c hc) huse group hgroup

/-- Words with the repair of the start: the word `n` goes before a digit, another first
letter is written small, and `n` stands in for no words. -/
def started : List (List (List Char)) → List (List (List Char))
  | ((c :: cs) :: words) :: later =>
    if c.isDigit then (['n'] :: (c :: cs) :: words) :: later
    else ((c.toLower :: cs) :: words) :: later
  | _ => [[['n']]]

theorem joined_camel_cons (c : Char) (cs : List Char) (words : List (List Char))
    (later : List (List (List Char))) :
    joined .camel (((c :: cs) :: words) :: later) =
      lowercase c ++ (cs ++ (words ++ later.flatten).flatMap capitalized) := by
  simp [joined, camelJoined, uncapitalized]

/-- What becomes of an ASCII character in another case. -/
theorem asciiCase_spec {c : Char} (h : c.toNat < 0x80) :
    (c.isDigit = true → c.toLower = c ∧ c.toUpper = c) ∧
      (c.isDigit = false → c.toLower.isDigit = false) ∧
      (c.isUpper = false → c.toLower = c) ∧
      c.toLower.toNat < 0x80 ∧ (c ≠ '_' → c.toLower ≠ '_') :=
  forall_ascii (P := fun c =>
    (c.isDigit = true → c.toLower = c ∧ c.toUpper = c) ∧
      (c.isDigit = false → c.toLower.isDigit = false) ∧
      (c.isUpper = false → c.toLower = c) ∧
      c.toLower.toNat < 0x80 ∧ (c ≠ '_' → c.toLower ≠ '_'))
    (by decide +kernel) h

/-- The start of a text whose first character is an ASCII one. -/
theorem repairedStart_ascii (style : NameStyle) {c : Char} (h : c.toNat < 0x80) (hne : c ≠ '_')
    (cs : List Char) :
    repairedStart style (c :: cs) =
      if c.isDigit then
        match style with
        | .snake => 'n' :: '_' :: c :: cs
        | .camel => 'n' :: c :: cs
      else c.toLower :: cs := by
  obtain ⟨-, -, hsmall, -⟩ := asciiCase_spec h
  rw [repairedStart.eq_def]
  dsimp only
  rw [isNumeric_of_ascii h, isUppercase_of_ascii h, lowercase_of_ascii h]
  split
  · rfl
  · split
    · rfl
    · next hupper => rw [hsmall (by simpa using hupper)]

/-- **Repairing the start of joined words is starting the words**, in either style. -/
theorem repairedStart_joined (style : NameStyle) {groups : List (List (List Char))}
    (h : AreAsciiWords groups) :
    repairedStart style (joined style groups) = joined style (started groups) := by
  cases groups with
  | nil => cases style <;> rfl
  | cons group later =>
      obtain ⟨⟨hgroup, hwords⟩, -⟩ := List.forall_mem_cons.1 h
      obtain ⟨word, words, rfl⟩ := List.exists_cons_of_ne_nil hgroup
      obtain ⟨⟨hword, hchars⟩, -⟩ := List.forall_mem_cons.1 hwords
      obtain ⟨c, cs, rfl⟩ := List.exists_cons_of_ne_nil hword
      obtain ⟨hascii, hne⟩ := hchars c List.mem_cons_self
      obtain ⟨hdigit, hletter, -, hsmallAscii, hsmallNe⟩ := asciiCase_spec hascii
      obtain ⟨behind, hsnake⟩ := joined_snake_cons words later
      by_cases hc : c.isDigit = true
      · obtain ⟨hlower, hupper⟩ := hdigit hc
        rw [started, if_pos hc]
        cases style with
        | snake =>
            rw [joined_snake_cons_cons, hsnake, List.cons_append,
              repairedStart_ascii .snake hascii hne, if_pos hc]
            rfl
        | camel =>
            have hn : lowercase 'n' = ['n'] := rfl
            rw [joined_camel_cons, joined_camel_cons, lowercase_of_ascii hascii, hlower,
              List.singleton_append, repairedStart_ascii .camel hascii hne, if_pos hc, hn]
            simp [capitalized, uppercase_of_ascii hascii, hupper]
      · rw [started, if_neg hc]
        cases style with
        | snake =>
            rw [hsnake, hsnake, List.cons_append, repairedStart_ascii .snake hascii hne, if_neg hc,
              List.cons_append]
        | camel =>
            have hstays : ¬ c.toLower.isDigit = true := by
              simp [hletter (by simpa using hc)]
            rw [joined_camel_cons, joined_camel_cons, lowercase_of_ascii hascii,
              lowercase_of_ascii hsmallAscii, List.singleton_append,
              repairedStart_ascii .camel hsmallAscii (hsmallNe hne), if_neg hstays,
              List.singleton_append]

theorem IsWordOf.of_ascii {word : List Char}
    (h : IsWordOf (fun c => c.toNat < 0x80 ∧ c ≠ '_') word) : IsWordOf (· ≠ '_') word :=
  ⟨h.ne_nil, fun c hc => (h.chars c hc).2⟩

theorem isWordOf_n : IsWordOf (· ≠ '_') ['n'] :=
  ⟨by decide, List.forall_mem_singleton.2 (by decide)⟩

/-- Starting words changes the first one, or puts another one before it. -/
theorem started_cons {c : Char} {cs : List Char}
    (h : IsWordOf (fun c => c.toNat < 0x80 ∧ c ≠ '_') (c :: cs)) (words : List (List Char))
    (later : List (List (List Char))) :
    ∃ front, started (((c :: cs) :: words) :: later) = (front ++ words) :: later ∧
      front ≠ [] ∧ ∀ word ∈ front, IsWordOf (· ≠ '_') word := by
  obtain ⟨hascii, hc⟩ := h.chars c List.mem_cons_self
  obtain ⟨-, -, -, -, hsmall⟩ := asciiCase_spec hascii
  obtain ⟨-, hcs⟩ := List.forall_mem_cons.1 h.of_ascii.chars
  rw [started]
  split
  · refine ⟨[['n'], c :: cs], rfl, by simp, ?_⟩
    exact List.forall_mem_cons.2 ⟨isWordOf_n, List.forall_mem_singleton.2 h.of_ascii⟩
  · refine ⟨[c.toLower :: cs], rfl, by simp, ?_⟩
    exact List.forall_mem_singleton.2 ⟨by simp, List.forall_mem_cons.2 ⟨hsmall hc, hcs⟩⟩

/-- Started words are plain, and there is one at least. -/
theorem isPlain_started {groups : List (List (List Char))} (h : AreAsciiWords groups) :
    IsPlain (started groups) := by
  cases groups with
  | nil => exact ⟨by simp [started], by simp [started], by simpa [started] using isWordOf_n⟩
  | cons group later =>
      obtain ⟨⟨hgroup, hwords⟩, hlater⟩ := List.forall_mem_cons.1 h
      obtain ⟨word, words, rfl⟩ := List.exists_cons_of_ne_nil hgroup
      obtain ⟨hword, hothers⟩ := List.forall_mem_cons.1 hwords
      obtain ⟨c, cs, rfl⟩ := List.exists_cons_of_ne_nil hword.ne_nil
      obtain ⟨front, heq, hne, hfront⟩ := started_cons hword words later
      have hfirst : ∀ word ∈ front ++ words, IsWordOf (· ≠ '_') word :=
        List.forall_mem_append.2 ⟨hfront, fun word hmem => (hothers word hmem).of_ascii⟩
      rw [heq]
      refine ⟨by simp, ?_, ?_⟩
      · exact List.forall_mem_cons.2 ⟨by simp [hne], fun group hmem => (hlater group hmem).1⟩
      · exact List.forall_mem_cons.2 ⟨hfirst, fun group hmem word hword =>
          ((hlater group hmem).2 word hword).of_ascii⟩

/-- The repair of reserved words keeps apart what does not end with an underscore. -/
theorem eq_of_repaired_eq {style : NameStyle} {name other : List Char}
    (hname : (repairedStart style name).getLast? ≠ some '_')
    (hother : (repairedStart style other).getLast? ≠ some '_')
    (heq : repaired style name = repaired style other) :
    repairedStart style name = repairedStart style other := by
  unfold repaired at heq
  dsimp only at heq
  split at heq
  · split at heq
    · exact List.append_cancel_right heq
    · rw [← heq, List.getLast?_concat] at hother
      exact absurd rfl hother
  · split at heq
    · rw [heq, List.getLast?_concat] at hname
      exact absurd rfl hname
    · exact heq

/-- **Plain words with one snake name have one camel name.** -/
theorem repaired_camel_eq {groups other : List (List (List Char))} (h : AreAsciiWords groups)
    (hother : AreAsciiWords other)
    (heq : repaired .snake (joined .snake groups) = repaired .snake (joined .snake other)) :
    repaired .camel (joined .camel groups) = repaired .camel (joined .camel other) := by
  have hplain := isPlain_started h
  have hotherPlain := isPlain_started hother
  have hlast : (repairedStart .snake (joined .snake groups)).getLast? ≠ some '_' := by
    rw [repairedStart_joined .snake h]
    exact hplain.getLast?_joined
  have hotherLast : (repairedStart .snake (joined .snake other)).getLast? ≠ some '_' := by
    rw [repairedStart_joined .snake hother]
    exact hotherPlain.getLast?_joined
  have hstarts := eq_of_repaired_eq hlast hotherLast heq
  rw [repairedStart_joined .snake h, repairedStart_joined .snake hother] at hstarts
  have hstarted : started groups = started other := hplain.eq_of_joined_eq hotherPlain hstarts
  rw [repaired, repaired, repairedStart_joined .camel h, repairedStart_joined .camel hother,
    hstarted]

end ValueName

/-- **Plain classes with one snake name have one camel name**, with any prefix. -/
theorem valueName_camel_eq {utilityPrefix cls other : String} (hcls : IsPlainClass cls)
    (hother : IsPlainClass other)
    (h : valueName .snake utilityPrefix cls = valueName .snake utilityPrefix other) :
    valueName .camel utilityPrefix cls = valueName .camel utilityPrefix other :=
  congrArg String.ofList <| ValueName.repaired_camel_eq
    (ValueName.areAsciiWords_wordGroups utilityPrefix.toList hcls)
    (ValueName.areAsciiWords_wordGroups utilityPrefix.toList hother) (String.ofList_injective h)

end ElmClasses.Elm
