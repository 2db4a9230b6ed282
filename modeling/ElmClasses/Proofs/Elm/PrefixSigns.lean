import ElmClasses.Proofs.Elm.Words
import ElmClasses.Proofs.Text.Basic

/-!
# What a utility prefix changes

A configured prefix has a way of its own through a segment: it is taken off, it becomes a
word as it is, and the sign of the segment is looked for behind it. If all its characters
may stand in a word, most of that makes no difference. The prefix would have become the
first word anyway, because a hyphen follows it, and the text behind that hyphen would have
been cut into the same words.

The sign is what differs. Without a prefix a sign stands in front of the segment, and the
second of two hyphens only divides words. Behind a prefix it is the sign, and gives the
word `neg`. So a prefix has the effect of one rewriting of the class, in which `neg` is
spelled out between two hyphens wherever a sign follows the prefix (`signSpelled`), and no
effect on classes without such a sign.

## Main results

* `segmentWords_signSpelled`: one segment, read with a prefix and rewritten.
* `valueName_signsSpelled`: the names of a class with a prefix and without one.
-/

namespace ElmClasses.Elm

open Text

namespace ValueName

/-- A segment starts with the prefix and a hyphen, and a sign is behind these. -/
def HasPrefixSign (utilityPrefix segment : List Char) : Prop :=
  ∃ behind, HasSign behind ∧ segment = utilityPrefix ++ '-' :: behind

/-- A segment in which a sign behind the prefix is spelled out as a word. -/
def signSpelled (utilityPrefix segment : List Char) : List Char :=
  match utilityPrefix.isPrefixOf? segment with
  | some ('-' :: '-' :: c :: rest) =>
    if isAlphanumeric c then
      utilityPrefix ++ '-' :: 'n' :: 'e' :: 'g' :: '-' :: c :: rest
    else segment
  | _ => segment

/-- A class in which the signs behind the prefix are spelled out in every segment. -/
def signsSpelled (utilityPrefix cls : List Char) : List Char :=
  [':'].intercalate ((cls.splitOn ':').map (signSpelled utilityPrefix))

theorem signSpelled_sign (utilityPrefix : List Char) {c : Char}
    (hc : isAlphanumeric c = true) (rest : List Char) :
    signSpelled utilityPrefix (utilityPrefix ++ '-' :: '-' :: c :: rest) =
      utilityPrefix ++ '-' :: 'n' :: 'e' :: 'g' :: '-' :: c :: rest := by
  rw [signSpelled, isPrefixOf?_append]
  exact if_pos hc

theorem signSpelled_eq_self {utilityPrefix segment : List Char}
    (h : ¬ HasPrefixSign utilityPrefix segment) :
    signSpelled utilityPrefix segment = segment := by
  unfold signSpelled
  split
  · next c rest hstrip =>
      have hc : ¬ isAlphanumeric c = true := by
        intro hc
        have hsegment := (List.isPrefixOf?_eq_some_iff_append_eq.1 hstrip).symm
        exact h ⟨'-' :: c :: rest, ⟨c, rest, hc, rfl⟩, hsegment⟩
      rw [if_neg hc]
  · rfl

/-- A segment is rewritten exactly if a sign is behind the prefix. -/
theorem signSpelled_ne_iff (utilityPrefix segment : List Char) :
    signSpelled utilityPrefix segment ≠ segment ↔ HasPrefixSign utilityPrefix segment := by
  constructor
  · intro hne
    by_contra h
    exact hne (signSpelled_eq_self h)
  · rintro ⟨_, ⟨c, rest, hc, rfl⟩, rfl⟩ heq
    rw [signSpelled_sign utilityPrefix hc, List.append_cancel_left_eq] at heq
    exact absurd (List.cons.inj (List.cons.inj heq).2).1 (by decide)

instance (utilityPrefix segment : List Char) :
    Decidable (HasPrefixSign utilityPrefix segment) :=
  decidable_of_iff _ (signSpelled_ne_iff utilityPrefix segment)

/-! ## One segment -/

section Segment

variable {utilityPrefix : List Char}

/-- A segment that uses the prefix has it as its first word. -/
theorem segmentWords_append_hyphen (hne : utilityPrefix ≠ []) (rest : List Char) :
    segmentWords utilityPrefix (utilityPrefix ++ '-' :: rest) =
      utilityPrefix :: signedWords rest := by
  rw [segmentWords, if_neg hne, isPrefixOf?_append]
  rfl

/-- A segment that does not use the prefix is read as if there were none. -/
theorem segmentWords_of_unused {segment : List Char}
    (h : ∀ rest, segment ≠ utilityPrefix ++ '-' :: rest) :
    segmentWords utilityPrefix segment = signedWords segment := by
  unfold segmentWords
  split
  · rfl
  · split
    · next rest hstrip =>
        have hsegment := (List.isPrefixOf?_eq_some_iff_append_eq.1 hstrip).symm
        exact absurd hsegment (h rest)
    · rfl

/-- **Reading a segment with a prefix is reading the rewritten segment without one.** -/
theorem segmentWords_signSpelled (hne : utilityPrefix ≠ [])
    (hchars : ∀ c ∈ utilityPrefix, isWordChar c = true) (segment : List Char) :
    segmentWords utilityPrefix segment =
      segmentWords [] (signSpelled utilityPrefix segment) := by
  have hneg : ∀ c ∈ ['n', 'e', 'g'], isWordChar c = true := List.all_eq_true.1 (by decide)
  rw [segmentWords_nil]
  by_cases hused : ∃ rest, segment = utilityPrefix ++ '-' :: rest
  · obtain ⟨rest, rfl⟩ := hused
    rw [segmentWords_append_hyphen hne]
    by_cases hsign : HasSign rest
    · -- The sign gives `neg`, which is the second word of the rewritten segment.
      obtain ⟨c, tail, hc, rfl⟩ := hsign
      have hspelled : words ('n' :: 'e' :: 'g' :: '-' :: c :: tail) =
          ['n', 'e', 'g'] :: words (c :: tail) :=
        words_append_hyphen (by decide) hneg (c :: tail)
      rw [signedWords_sign hc, signSpelled_sign utilityPrefix hc,
        signedWords_append hne hchars, words_append_hyphen hne hchars, hspelled]
    · have hplain : ¬ HasPrefixSign utilityPrefix (utilityPrefix ++ '-' :: rest) := by
        rintro ⟨behind, hbehind, heq⟩
        obtain rfl : rest = behind := (List.cons.inj (List.append_cancel_left heq)).2
        exact hsign hbehind
      rw [signedWords_eq_words hsign, signSpelled_eq_self hplain,
        signedWords_append hne hchars, words_append_hyphen hne hchars]
  · have hplain : ¬ HasPrefixSign utilityPrefix segment := fun ⟨behind, _, heq⟩ =>
      hused ⟨behind, heq⟩
    rw [signSpelled_eq_self hplain]
    exact segmentWords_of_unused fun rest heq => hused ⟨rest, heq⟩

/-- Rewriting a segment brings no colon into it. -/
theorem notMem_signSpelled (hchars : ∀ c ∈ utilityPrefix, isWordChar c = true)
    {segment : List Char} (h : ':' ∉ segment) : ':' ∉ signSpelled utilityPrefix segment := by
  by_cases hsign : HasPrefixSign utilityPrefix segment
  · obtain ⟨_, ⟨c, rest, hc, rfl⟩, rfl⟩ := hsign
    have hfront : ':' ∉ utilityPrefix := notMem_of_isWordChar hchars (by decide)
    rw [signSpelled_sign utilityPrefix hc]
    simp only [List.mem_append, List.mem_cons, not_or] at h ⊢
    exact ⟨hfront, by decide, by decide, by decide, by decide, by decide, h.2.2.2⟩
  · rwa [signSpelled_eq_self hsign]

end Segment

section Class

variable {utilityPrefix : List Char}

/-- The segments of a rewritten class are the rewritten segments. -/
theorem splitOn_signsSpelled (hchars : ∀ c ∈ utilityPrefix, isWordChar c = true)
    (cls : List Char) :
    (signsSpelled utilityPrefix cls).splitOn ':' =
      (cls.splitOn ':').map (signSpelled utilityPrefix) := by
  refine List.splitOn_intercalate ':' (fun text htext => ?_) (by simp)
  obtain ⟨segment, hsegment, rfl⟩ := List.mem_map.1 htext
  exact notMem_signSpelled hchars (notMem_of_mem_splitOn hsegment)

/-- A class without signs behind the prefix is not rewritten. -/
theorem signsSpelled_eq_self {cls : List Char}
    (h : ∀ segment ∈ cls.splitOn ':', ¬ HasPrefixSign utilityPrefix segment) :
    signsSpelled utilityPrefix cls = cls := by
  have hsame : ∀ segment ∈ cls.splitOn ':',
      signSpelled utilityPrefix segment = id segment := fun segment hsegment =>
    signSpelled_eq_self (h segment hsegment)
  rw [signsSpelled, List.map_congr_left hsame, List.map_id, List.intercalate_splitOn]

end Class

/-- The words of a class with a prefix are those of the rewritten class without one. -/
theorem wordGroups_signsSpelled {utilityPrefix : List Char}
    (hne : trimHyphens utilityPrefix ≠ [])
    (hchars : ∀ c ∈ trimHyphens utilityPrefix, isWordChar c = true) (cls : List Char) :
    wordGroups utilityPrefix cls =
      wordGroups [] (signsSpelled (trimHyphens utilityPrefix) cls) := by
  have hnone : trimHyphens [] = [] := rfl
  have hsegments : segmentWords (trimHyphens utilityPrefix) =
      segmentWords [] ∘ signSpelled (trimHyphens utilityPrefix) :=
    funext (segmentWords_signSpelled hne hchars)
  rw [wordGroups, wordGroups, hnone, splitOn_signsSpelled hchars, List.map_map, hsegments]

theorem ofClassText_signsSpelled (style : NameStyle) {utilityPrefix : List Char}
    (hne : trimHyphens utilityPrefix ≠ [])
    (hchars : ∀ c ∈ trimHyphens utilityPrefix, isWordChar c = true) (cls : List Char) :
    ofClassText style utilityPrefix cls =
      ofClassText style [] (signsSpelled (trimHyphens utilityPrefix) cls) := by
  rw [ofClassText, ofClassText, wordGroups_signsSpelled hne hchars]

end ValueName

/-- **A prefix changes the signs behind it, and nothing else.** Let the prefix, without the
hyphens around it, be a text of alphanumeric characters and underscores that is not empty.
The name of a class is the one that the class has without a prefix when `neg` is spelled
out, between hyphens, in every segment with a sign behind the prefix. So the prefix does
not change the name of a class that has no such segment. -/
theorem valueName_signsSpelled (style : NameStyle) {utilityPrefix : String}
    (hne : ValueName.trimHyphens utilityPrefix.toList ≠ [])
    (hchars : ∀ c ∈ ValueName.trimHyphens utilityPrefix.toList,
      isAlphanumeric c = true ∨ c = '_') (cls : String) :
    let inner := ValueName.trimHyphens utilityPrefix.toList
    valueName style utilityPrefix cls =
        valueName style "" (String.ofList (ValueName.signsSpelled inner cls.toList)) ∧
      ((∀ segment ∈ cls.toList.splitOn ':', ¬ ValueName.HasPrefixSign inner segment) →
        valueName style utilityPrefix cls = valueName style "" cls) := by
  intro inner
  have hwords : ∀ c ∈ inner, ValueName.isWordChar c = true := by
    intro c hc
    simpa [ValueName.isWordChar] using hchars c hc
  have hname : valueName style utilityPrefix cls =
      valueName style "" (String.ofList (ValueName.signsSpelled inner cls.toList)) := by
    have hnone : "".toList = [] := rfl
    rw [valueName, valueName, hnone, String.toList_ofList,
      ValueName.ofClassText_signsSpelled style hne hwords]
  refine ⟨hname, fun hplain => ?_⟩
  rw [hname, ValueName.signsSpelled_eq_self hplain, String.ofList_toList]

/-- A prefix with letters beyond ASCII, in a class with a sign behind it and in one with
two hyphens that are no sign. -/
theorem valueName_signsSpelled_margins :
    let inner := ValueName.trimHyphens "-größe_2-".toList
    inner ≠ [] ∧ (∀ c ∈ inner, isAlphanumeric c = true ∨ c = '_') ∧
      valueName .camel "-größe_2-" "sm:größe_2--m-1:größe_2-p" =
        valueName .camel "" "sm:größe_2-neg-m-1:größe_2-p" ∧
      (∀ segment ∈ "größe_2--/:größe_2-p".toList.splitOn ':',
        ¬ ValueName.HasPrefixSign inner segment) ∧
      valueName .snake "-größe_2-" "größe_2--/:größe_2-p" =
        valueName .snake "" "größe_2--/:größe_2-p" := by
  intro inner
  have hne : inner ≠ [] := by decide
  have hchars : ∀ c ∈ inner, isAlphanumeric c = true ∨ c = '_' :=
    forall_mem_of_all (by decide +kernel)
  have hplain : ∀ segment ∈ "größe_2--/:größe_2-p".toList.splitOn ':',
      ¬ ValueName.HasPrefixSign inner segment := by
    decide +kernel
  have hspelled : String.ofList
      (ValueName.signsSpelled inner "sm:größe_2--m-1:größe_2-p".toList) =
        "sm:größe_2-neg-m-1:größe_2-p" := by
    decide +kernel
  obtain ⟨hname, -⟩ := valueName_signsSpelled .camel hne hchars "sm:größe_2--m-1:größe_2-p"
  obtain ⟨-, hsame⟩ := valueName_signsSpelled .snake hne hchars "größe_2--/:größe_2-p"
  rw [hspelled] at hname
  exact ⟨hne, hchars, hname, hplain, hsame hplain⟩

end ElmClasses.Elm
