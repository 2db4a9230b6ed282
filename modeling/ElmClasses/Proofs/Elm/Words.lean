import ElmClasses.Elm.Name
import ElmClasses.Proofs.Text.Basic

/-!
# How a text is cut into words

The words of a text are found from its end: what is read of the rest of a text is a word
that the characters in front may still continue, and the words behind it. Characters of a
word continue it (`wordsFrom_append`), and a hyphen ends it (`wordsFrom_hyphen`). So the
words of a text that starts with a whole word and a hyphen are that word and the words of
what is behind the hyphen (`words_append_hyphen`), and nothing in front of a hyphen has a
say in how the text behind it is read.

A sign is a hyphen in front of everything. It is looked for at the start only, so a text
that starts with another character has the words that it would have without signs.

Nothing enters a word but characters of the class that belong in words, the lower case
letters that spell a sign, a dot or a slash, and the prefix as it is. What all of these
have in common, all characters of all words have (`isWordOf_wordGroups`).
-/

namespace ElmClasses.Elm.ValueName

open Text

/-- No character that divides words, segments or runs is one of a word. -/
theorem ne_of_isWordChar {c d : Char} (h : isWordChar c = true)
    (hd : d ∈ ['/', '.', '-', ':']) : c ≠ d := by
  have hdividers : ['/', '.', '-', ':'].all (fun d => !isWordChar d) = true := by decide
  rintro rfl
  have hdivider := List.all_eq_true.1 hdividers c hd
  rw [h] at hdivider
  cases hdivider

theorem notMem_of_isWordChar {word : List Char} (h : ∀ c ∈ word, isWordChar c = true)
    {d : Char} (hd : d ∈ ['/', '.', '-', ':']) : d ∉ word := fun hmem =>
  ne_of_isWordChar (h d hmem) hd rfl

section

variable {word : List Char}

/-- Characters of a word continue the word that the rest of the text starts with. -/
theorem wordsFrom_append (h : ∀ c ∈ word, isWordChar c = true) (rest : List Char) :
    wordsFrom (word ++ rest) = (word ++ (wordsFrom rest).1, (wordsFrom rest).2) := by
  induction word with
  | nil => rfl
  | cons c cs ih =>
      obtain ⟨hc, hcs⟩ := List.forall_mem_cons.1 h
      rw [List.cons_append, wordsFrom, ih hcs]
      dsimp only
      rw [if_neg (ne_of_isWordChar hc (by decide)), if_neg (ne_of_isWordChar hc (by decide)),
        if_pos hc]
      rfl

/-- A hyphen continues no word. -/
theorem wordsFrom_hyphen (rest : List Char) : wordsFrom ('-' :: rest) = ([], words rest) := by
  rw [wordsFrom, words]
  dsimp only
  rw [if_neg (by decide), if_neg (by decide), if_neg (by decide)]

/-- A word with nothing behind it that continues it. -/
theorem words_append (hne : word ≠ []) (h : ∀ c ∈ word, isWordChar c = true)
    {rest : List Char} (hrest : (wordsFrom rest).1 = []) :
    words (word ++ rest) = word :: (wordsFrom rest).2 := by
  rw [words, wordsFrom_append h, hrest, List.append_nil]
  exact if_neg hne

/-- **A word in front of a hyphen is the first one**, and the others are those of the text
behind the hyphen. -/
theorem words_append_hyphen (hne : word ≠ []) (h : ∀ c ∈ word, isWordChar c = true)
    (rest : List Char) : words (word ++ '-' :: rest) = word :: words rest := by
  rw [words_append hne h (by rw [wordsFrom_hyphen]), wordsFrom_hyphen]

/-- A word alone is the only one. -/
theorem words_eq_singleton (hne : word ≠ []) (h : ∀ c ∈ word, isWordChar c = true) :
    words word = [word] := by
  have hwords : words (word ++ []) = [word] := words_append hne h rfl
  rwa [List.append_nil] at hwords

end

/-- A text starts with a sign: a hyphen before an alphanumeric character. -/
def HasSign (text : List Char) : Prop :=
  ∃ c rest, isAlphanumeric c = true ∧ text = '-' :: c :: rest

theorem signedWords_sign {c : Char} (hc : isAlphanumeric c = true) (rest : List Char) :
    signedWords ('-' :: c :: rest) = ['n', 'e', 'g'] :: words (c :: rest) :=
  if_pos hc

/-- A text without a sign has no word for one. -/
theorem signedWords_eq_words {text : List Char} (h : ¬ HasSign text) :
    signedWords text = words text := by
  unfold signedWords
  split
  · next c cs =>
      have hc : ¬ isAlphanumeric c = true := fun hc => h ⟨c, cs, hc, rfl⟩
      rw [if_neg hc]
  · rfl

/-- A text that starts with a word has no sign, whatever follows the word. -/
theorem signedWords_append {word : List Char} (hne : word ≠ [])
    (h : ∀ c ∈ word, isWordChar c = true) (rest : List Char) :
    signedWords (word ++ rest) = words (word ++ rest) := by
  apply signedWords_eq_words
  rintro ⟨d, behind, -, heq⟩
  obtain ⟨c, cs, rfl⟩ := List.exists_cons_of_ne_nil hne
  obtain ⟨hhyphen, -⟩ := List.cons.inj heq
  exact ne_of_isWordChar (h c List.mem_cons_self) (by decide) hhyphen

/-- Without a prefix a segment is read for its sign and its words. -/
theorem segmentWords_nil (segment : List Char) :
    segmentWords [] segment = signedWords segment :=
  if_pos rfl

/-! ## Characters of words -/

/-- A word, which is never empty, of characters with a property. -/
structure IsWordOf (P : Char → Prop) (word : List Char) : Prop where
  ne_nil : word ≠ []
  chars : ∀ c ∈ word, P c

section Chars

variable {P : Char → Prop}

theorem isWordOf_prependWord {word : List Char} {later : List (List Char)}
    (hword : ∀ c ∈ word, P c) (hlater : ∀ w ∈ later, IsWordOf P w) :
    ∀ w ∈ prependWord word later, IsWordOf P w := by
  unfold prependWord
  split
  · exact hlater
  · next hne => exact List.forall_mem_cons.2 ⟨⟨hne, hword⟩, hlater⟩

variable (hlower : ∀ c : Char, c.isLower = true → P c)
include hlower

/-- What is read of a text, the word that it continues as well as the words after it. -/
theorem isWordOf_wordsFrom {text : List Char} (h : ∀ c ∈ text, isWordChar c = true → P c) :
    (∀ c ∈ (wordsFrom text).1, P c) ∧ ∀ w ∈ (wordsFrom text).2, IsWordOf P w := by
  induction text with
  | nil => simp [wordsFrom]
  | cons c cs ih =>
      obtain ⟨hword, hlater⟩ := ih fun d hd => h d (List.mem_cons_of_mem c hd)
      have hover : ∀ d ∈ ['o', 'v', 'e', 'r'], P d := fun d hd =>
        hlower d (List.all_eq_true.1 (by decide) d hd)
      have hdot : ∀ d ∈ ['d', 'o', 't'], P d := fun d hd =>
        hlower d (List.all_eq_true.1 (by decide) d hd)
      have hbehind := isWordOf_prependWord hword hlater
      rw [wordsFrom]
      dsimp only
      split
      · exact ⟨List.forall_mem_append.2 ⟨hover, hword⟩, hlater⟩
      · split
        · exact ⟨by simp, List.forall_mem_cons.2 ⟨⟨by simp, hdot⟩, hbehind⟩⟩
        · split
          · next hc =>
              exact ⟨List.forall_mem_cons.2 ⟨h c List.mem_cons_self hc, hword⟩, hlater⟩
          · exact ⟨by simp, hbehind⟩

theorem isWordOf_words {text : List Char} (h : ∀ c ∈ text, isWordChar c = true → P c) :
    ∀ w ∈ words text, IsWordOf P w := by
  obtain ⟨hword, hlater⟩ := isWordOf_wordsFrom hlower h
  exact isWordOf_prependWord hword hlater

theorem isWordOf_signedWords {text : List Char} (h : ∀ c ∈ text, isWordChar c = true → P c) :
    ∀ w ∈ signedWords text, IsWordOf P w := by
  have hneg : ∀ d ∈ ['n', 'e', 'g'], P d := fun d hd =>
    hlower d (List.all_eq_true.1 (by decide) d hd)
  unfold signedWords
  split
  · next c cs =>
      split
      · have hbody : ∀ d ∈ c :: cs, isWordChar d = true → P d := fun d hd =>
          h d (List.mem_cons_of_mem '-' hd)
        exact List.forall_mem_cons.2 ⟨⟨by simp, hneg⟩, isWordOf_words hlower hbody⟩
      · exact isWordOf_words hlower h
  · exact isWordOf_words hlower h

/-- The words of a segment, of which the prefix is one if the segment uses it. -/
theorem isWordOf_segmentWords {utilityPrefix segment : List Char}
    (h : ∀ c ∈ segment, isWordChar c = true → P c)
    (huse : utilityPrefix ++ ['-'] <+: segment → ∀ c ∈ utilityPrefix, P c) :
    ∀ w ∈ segmentWords utilityPrefix segment, IsWordOf P w := by
  unfold segmentWords
  split
  · exact isWordOf_signedWords hlower h
  · next hne =>
      split
      · next rest hrest =>
          have hsplit : utilityPrefix ++ '-' :: rest = segment :=
            List.isPrefixOf?_eq_some_iff_append_eq.1 hrest
          have huses : utilityPrefix ++ ['-'] <+: segment := ⟨rest, by simpa using hsplit⟩
          have hbody : ∀ c ∈ rest, isWordChar c = true → P c := fun c hc =>
            h c (hsplit ▸ List.mem_append_right _ (List.mem_cons_of_mem _ hc))
          exact List.forall_mem_cons.2 ⟨⟨hne, huse huses⟩, isWordOf_signedWords hlower hbody⟩
      · exact isWordOf_signedWords hlower h

/-- **The characters of all words** have what the characters of the class that belong in
words, the ASCII lower case letters and a prefix that some segment uses have in common. -/
theorem isWordOf_wordGroups {utilityPrefix cls : List Char}
    (h : ∀ c ∈ cls, isWordChar c = true → P c)
    (huse : ∀ segment ∈ cls.splitOn ':', trimHyphens utilityPrefix ++ ['-'] <+: segment →
      ∀ c ∈ trimHyphens utilityPrefix, P c) :
    ∀ group ∈ wordGroups utilityPrefix cls, ∀ word ∈ group, IsWordOf P word := by
  intro group hgroup
  obtain ⟨segment, hsegment, rfl⟩ := List.mem_map.1 (List.mem_of_mem_filter hgroup)
  exact isWordOf_segmentWords hlower (fun c hc => h c (mem_of_mem_splitOn hsegment hc))
    (huse segment hsegment)

end Chars

/-- Segments without words are left out. -/
theorem ne_nil_of_mem_wordGroups {utilityPrefix cls : List Char} {group : List (List Char)}
    (h : group ∈ wordGroups utilityPrefix cls) : group ≠ [] := by
  simpa using (List.mem_filter.1 h).2

end ElmClasses.Elm.ValueName
