import ElmClasses.Proofs.Elm.NameStyles
import ElmClasses.Proofs.Elm.ValueName

/-!
# Value names of utility classes

A utility class such as `sm:-m-1.5` or `w-1/2` has segments, segments have words, and
words have runs of lower case letters and digits. Its snake name spells all of that with
letters, digits and underscores: two underscores divide segments and one divides words,
the words `neg` and `dot` stand for a sign and a dot, and the text `over` stands for a
slash inside a word. The repair may add to it in front and behind.

All of it can be read back, as long as no word of the class is one of the two that stand
for something else, no run holds the text `over`, and the class does not start with the
word that goes before a digit. `restored` reads a name back, and `restored_ofClassText`
says that it finds the class, so two utility classes never have one snake name.

Every stage has its inverse, in the opposite order. Repairs are told by an underscore at
the end and by `n_` at the start, neither of which a name has without them. Cutting at
underscores leaves an empty piece where one segment ends. What is left are the words of
each segment; and inside a word one `over` cannot overlap another, nor can it begin in
one run and end in what follows it.

## Main results

* `wordGroups_text`: the words of a utility class.
* `UtilityClass.restored_ofClassText`: the class of a snake name.
-/

namespace ElmClasses.Elm

open Text ValueName

/-- The word for the sign of a segment. -/
def signWord : List Char := ['n', 'e', 'g']

/-- The word for a dot between words. -/
def dotWord : List Char := ['d', 'o', 't']

/-- The text for a slash inside a word. -/
def slashText : List Char := ['o', 'v', 'e', 'r']

/-- Characters of a run. -/
def isRunChar (c : Char) : Bool :=
  c.isLower || c.isDigit

/-- Letters and digits that hold no slash, not even spelled out. -/
structure WordRun where
  text : List Char
  ne_nil : text ≠ []
  chars : ∀ c ∈ text, isRunChar c = true
  no_slash : ¬ slashText <:+: text

/-- Runs with slashes between them, none of the words that stand for something else. -/
structure UtilityWord where
  runs : List WordRun
  ne_nil : runs ≠ []
  ne_sign : ['/'].intercalate (runs.map WordRun.text) ≠ signWord
  ne_dot : ['/'].intercalate (runs.map WordRun.text) ≠ dotWord

/-- What stands between two words of a segment. -/
inductive Divider where
  | hyphen
  | dot
deriving DecidableEq, Repr

/-- Words with dividers between them, and maybe a sign in front. -/
structure UtilitySegment where
  isNegative : Bool
  first : UtilityWord
  later : List (Divider × UtilityWord)

def UtilityWord.text (word : UtilityWord) : List Char :=
  ['/'].intercalate (word.runs.map WordRun.text)

def Divider.char : Divider → Char
  | hyphen => '-'
  | dot => '.'

/-- Words of a segment with the divider in front of each. -/
def laterText (later : List (Divider × UtilityWord)) : List Char :=
  later.flatMap fun e => e.1.char :: e.2.text

def UtilitySegment.text (segment : UtilitySegment) : List Char :=
  (if segment.isNegative then ['-'] else []) ++ (segment.first.text ++ laterText segment.later)

/-- Segments with colons between them. A class does not start with the word that goes
before a digit. -/
structure UtilityClass where
  first : UtilitySegment
  later : List UtilitySegment
  start : first.isNegative = false → first.first.text ≠ ['n']

def UtilityClass.segments (cls : UtilityClass) : List UtilitySegment :=
  cls.first :: cls.later

def UtilityClass.text (cls : UtilityClass) : List Char :=
  [':'].intercalate (cls.segments.map UtilitySegment.text)

/-- Whether a class is a utility class. -/
def IsUtilityShaped (cls : String) : Prop :=
  ∃ shape : UtilityClass, cls.toList = shape.text

theorem isNameChar_of_isRunChar {c : Char} (h : isRunChar c = true) : isNameChar c = true := by
  rw [isRunChar, Bool.or_eq_true] at h
  simp only [isNameChar, Char.isAlphanum, isAlpha_eq, Bool.or_eq_true]
  tauto

/-- A run takes none of the characters that divide words or names, and reads as it is. -/
theorem isRunChar_spec {c : Char} (h : isRunChar c = true) :
    c.toNat < 0x80 ∧ c ∉ ['/', '.', '-', ':', '_'] ∧ c.isUpper = false := by
  have hascii := toNat_lt_of_isNameChar (isNameChar_of_isRunChar h)
  exact ⟨hascii, forall_ascii
    (P := fun c => isRunChar c = true → c ∉ ['/', '.', '-', ':', '_'] ∧ c.isUpper = false)
    (by decide +kernel) hascii h⟩

theorem ne_of_isRunChar {c d : Char} (h : isRunChar c = true)
    (hd : d ∈ ['/', '.', '-', ':', '_']) : c ≠ d := by
  rintro rfl
  exact (isRunChar_spec h).2.1 hd

theorem isAlphanumeric_of_isRunChar {c : Char} (h : isRunChar c = true) :
    isAlphanumeric c = true := by
  rw [isAlphanumeric_of_ascii (isRunChar_spec h).1, Char.isAlphanum, isAlpha_eq]
  rw [isRunChar, Bool.or_eq_true] at h
  simp only [Bool.or_eq_true]
  tauto

theorem isRunChar_slashText : ∀ c ∈ slashText, isRunChar c = true :=
  List.all_eq_true.1 (by decide)

namespace UtilityWord

/-- The word in a name. -/
def encoded (word : UtilityWord) : List Char :=
  slashText.intercalate (word.runs.map WordRun.text)

theorem encoded_chars (word : UtilityWord) : ∀ c ∈ word.encoded, isRunChar c = true := by
  refine forall_mem_intercalate isRunChar_slashText fun text htext => ?_
  obtain ⟨run, -, rfl⟩ := List.mem_map.1 htext
  exact run.chars

/-- Only words without slash are shorter than the text for one. -/
theorem encoded_cases (word : UtilityWord) :
    word.encoded = word.text ∨ slashText.length < word.encoded.length := by
  obtain ⟨runs, hne, -, -⟩ := word
  obtain ⟨first, rest, rfl⟩ := List.exists_cons_of_ne_nil hne
  cases rest with
  | nil => exact .inl rfl
  | cons second rest =>
      right
      have hfirst := List.length_pos_iff.2 first.ne_nil
      simp only [encoded, List.map_cons, List.intercalate_cons_cons, List.length_append]
      omega

theorem encoded_ne {word : UtilityWord} {mark : List Char} (h : word.text ≠ mark)
    (hlength : mark.length ≤ slashText.length) : word.encoded ≠ mark := by
  rcases word.encoded_cases with heq | hlong
  · rwa [heq]
  · rintro rfl
    omega

theorem text_eq_cons (word : UtilityWord) :
    ∃ c cs, word.text = c :: cs ∧ isRunChar c = true := by
  obtain ⟨runs, hne, -, -⟩ := word
  obtain ⟨first, rest, rfl⟩ := List.exists_cons_of_ne_nil hne
  obtain ⟨c, cs, hfirst⟩ := List.exists_cons_of_ne_nil first.ne_nil
  have hc := first.chars c (hfirst ▸ List.mem_cons_self)
  cases rest with
  | nil => exact ⟨c, cs, by simp [text, hfirst], hc⟩
  | cons second rest => exact ⟨c, _, by simp [text, List.intercalate_cons_cons, hfirst]; rfl, hc⟩

theorem encoded_ne_nil (word : UtilityWord) : word.encoded ≠ [] := by
  refine encoded_ne ?_ (by decide)
  obtain ⟨c, cs, htext, -⟩ := word.text_eq_cons
  simp [htext]

theorem notMem_text (word : UtilityWord) : ':' ∉ word.text := by
  have h : ∀ c ∈ word.text, c ≠ ':' := by
    refine forall_mem_intercalate (by simp) fun text htext c hc => ?_
    obtain ⟨run, -, rfl⟩ := List.mem_map.1 htext
    exact ne_of_isRunChar (run.chars c hc) (by decide)
  exact fun hmem => h ':' hmem rfl

end UtilityWord

/-! ## Words of a class -/

/-- The words of a segment behind its first one. -/
def laterWords (later : List (Divider × UtilityWord)) : List (List Char) :=
  later.flatMap fun e =>
    match e.1 with
    | .hyphen => [e.2.encoded]
    | .dot => [dotWord, e.2.encoded]

/-- The words of a segment. -/
def UtilitySegment.words (segment : UtilitySegment) : List (List Char) :=
  (if segment.isNegative then [signWord] else []) ++
    segment.first.encoded :: laterWords segment.later

theorem wordsFrom_run {run : List Char} (h : ∀ c ∈ run, isRunChar c = true)
    (rest : List Char) :
    wordsFrom (run ++ rest) = (run ++ (wordsFrom rest).1, (wordsFrom rest).2) := by
  apply wordsFrom_append
  intro c hc
  rw [isWordChar, isAlphanumeric_of_isRunChar (h c hc), Bool.true_or]

theorem wordsFrom_slash (rest : List Char) :
    wordsFrom ('/' :: rest) = (slashText ++ (wordsFrom rest).1, (wordsFrom rest).2) := rfl

theorem wordsFrom_dot (rest : List Char) :
    wordsFrom ('.' :: rest) = ([], dotWord :: words rest) := rfl

theorem wordsFrom_runs {runs : List WordRun} (hne : runs ≠ []) (rest : List Char) :
    wordsFrom (['/'].intercalate (runs.map WordRun.text) ++ rest) =
      (slashText.intercalate (runs.map WordRun.text) ++ (wordsFrom rest).1,
        (wordsFrom rest).2) := by
  induction runs with
  | nil => exact absurd rfl hne
  | cons first runs ih =>
      cases runs with
      | nil => simpa using wordsFrom_run first.chars rest
      | cons second runs =>
          have ih := ih (by simp)
          simp only [List.map_cons, List.intercalate_cons_cons, List.append_assoc] at ih ⊢
          rw [wordsFrom_run first.chars, List.cons_append, List.nil_append, wordsFrom_slash, ih]

/-- A word of a class is read as one word, whatever follows it. -/
theorem wordsFrom_word (word : UtilityWord) (rest : List Char) :
    wordsFrom (word.text ++ rest) =
      (word.encoded ++ (wordsFrom rest).1, (wordsFrom rest).2) :=
  wordsFrom_runs word.ne_nil rest

/-- If what follows a word does not continue it, the words after it are those of what
follows. -/
theorem words_word (word : UtilityWord) {rest : List Char} (h : (wordsFrom rest).1 = []) :
    words (word.text ++ rest) = word.encoded :: (wordsFrom rest).2 := by
  rw [words, wordsFrom_word, h, List.append_nil]
  exact if_neg word.encoded_ne_nil

theorem wordsFrom_laterText (later : List (Divider × UtilityWord)) :
    wordsFrom (laterText later) = ([], laterWords later) := by
  induction later with
  | nil => rfl
  | cons e later ih =>
      obtain ⟨divider, word⟩ := e
      have hword : words (word.text ++ laterText later) = word.encoded :: laterWords later := by
        rw [words_word word (by rw [ih]), ih]
      rw [laterText, List.flatMap_cons, ← laterText, laterWords, List.flatMap_cons, ← laterWords,
        List.cons_append]
      cases divider with
      | hyphen => rw [Divider.char, wordsFrom_hyphen, hword]; rfl
      | dot => rw [Divider.char, wordsFrom_dot, hword]; rfl

theorem segmentWords_text (segment : UtilitySegment) :
    segmentWords [] segment.text = segment.words := by
  obtain ⟨isNegative, first, later⟩ := segment
  have hwords : words (first.text ++ laterText later) = first.encoded :: laterWords later := by
    rw [words_word first (by rw [wordsFrom_laterText]), wordsFrom_laterText]
  obtain ⟨c, cs, htext, hc⟩ := first.text_eq_cons
  rw [segmentWords_nil]
  cases isNegative with
  | true =>
      simp only [UtilitySegment.text, UtilitySegment.words, if_true, ← hwords]
      rw [htext]
      exact signedWords_sign (isAlphanumeric_of_isRunChar hc) (cs ++ laterText later)
  | false =>
      have hsign : ¬ HasSign (first.text ++ laterText later) := by
        rintro ⟨_, _, -, heq⟩
        rw [htext] at heq
        exact ne_of_isRunChar hc (by decide) (List.cons.inj heq).1
      have hplain := signedWords_eq_words hsign
      simpa [UtilitySegment.text, UtilitySegment.words, hwords] using hplain

theorem notMem_laterText (later : List (Divider × UtilityWord)) : ':' ∉ laterText later := by
  intro h
  obtain ⟨⟨divider, word⟩, -, hmem⟩ := List.mem_flatMap.1 h
  rcases List.mem_cons.1 hmem with hdivider | hword
  · cases divider <;> cases hdivider
  · exact word.notMem_text hword

theorem UtilitySegment.notMem_text (segment : UtilitySegment) : ':' ∉ segment.text := by
  rw [text, List.mem_append, List.mem_append]
  rintro (hsign | hfirst | hlater)
  · split at hsign <;> simp at hsign
  · exact segment.first.notMem_text hfirst
  · exact notMem_laterText segment.later hlater

theorem UtilitySegment.words_ne_nil (segment : UtilitySegment) : segment.words ≠ [] := by
  simp [words]

/-- **The words of a utility class** are those of its segments. -/
theorem wordGroups_text (cls : UtilityClass) :
    wordGroups [] cls.text = cls.segments.map UtilitySegment.words := by
  have hsplit : cls.text.splitOn ':' = cls.segments.map UtilitySegment.text := by
    refine List.splitOn_intercalate ':' (fun text htext => ?_) (by simp [UtilityClass.segments])
    obtain ⟨segment, -, rfl⟩ := List.mem_map.1 htext
    exact segment.notMem_text
  have htrim : trimHyphens [] = [] := rfl
  rw [wordGroups, hsplit, htrim, List.map_map]
  have hwords : segmentWords [] ∘ UtilitySegment.text = UtilitySegment.words :=
    funext segmentWords_text
  rw [hwords, List.filter_eq_self]
  intro group hgroup
  obtain ⟨segment, -, rfl⟩ := List.mem_map.1 hgroup
  simp [segment.words_ne_nil]

theorem laterWords_chars (later : List (Divider × UtilityWord)) :
    ∀ word ∈ laterWords later, word ≠ [] ∧ ∀ c ∈ word, isRunChar c = true := by
  intro word hword
  obtain ⟨⟨divider, utilityWord⟩, -, hmem⟩ := List.mem_flatMap.1 hword
  have hself := And.intro utilityWord.encoded_ne_nil utilityWord.encoded_chars
  have hdot : dotWord ≠ [] ∧ ∀ c ∈ dotWord, isRunChar c = true :=
    ⟨by decide, List.all_eq_true.1 (by decide)⟩
  cases divider with
  | hyphen =>
      obtain rfl := List.mem_singleton.1 hmem
      exact hself
  | dot =>
      rcases List.mem_pair.1 hmem with rfl | rfl
      · exact hdot
      · exact hself

theorem UtilitySegment.words_chars (segment : UtilitySegment) :
    ∀ word ∈ segment.words, word ≠ [] ∧ ∀ c ∈ word, isRunChar c = true := by
  intro word hword
  rw [words, List.mem_append, List.mem_cons] at hword
  rcases hword with hsign | rfl | hlater
  · split at hsign
    · obtain rfl := List.mem_singleton.1 hsign
      exact ⟨by decide, List.all_eq_true.1 (by decide)⟩
    · cases hsign
  · exact ⟨segment.first.encoded_ne_nil, segment.first.encoded_chars⟩
  · exact laterWords_chars segment.later word hlater

namespace UtilityClass

/-- The words of all segments, with an empty piece where one segment ends and another one
starts. -/
def pieces (cls : UtilityClass) : List (List Char) :=
  [[]].intercalate (cls.segments.map UtilitySegment.words)

/-- The name before it is repaired. -/
def joinedName (cls : UtilityClass) : List Char :=
  ['_'].intercalate cls.pieces

/-- Words of utility classes are never empty and have no underscores. -/
theorem isPlain (cls : UtilityClass) : IsPlain (cls.segments.map UtilitySegment.words) := by
  refine ⟨by simp [segments], fun group hgroup => ?_, fun group hgroup word hword => ?_⟩
  · obtain ⟨segment, -, rfl⟩ := List.mem_map.1 hgroup
    exact segment.words_ne_nil
  · obtain ⟨segment, -, rfl⟩ := List.mem_map.1 hgroup
    obtain ⟨hne, hchars⟩ := segment.words_chars word hword
    exact ⟨hne, fun c hc => ne_of_isRunChar (hchars c hc) (by decide)⟩

theorem joined_words (cls : UtilityClass) :
    joined .snake (cls.segments.map UtilitySegment.words) = cls.joinedName :=
  joined_snake cls.isPlain.group_ne_nil

theorem joined_wordGroups (cls : UtilityClass) :
    joined .snake (wordGroups [] cls.text) = cls.joinedName := by
  rw [wordGroups_text, joined_words]

/-- Cutting at empty pieces gives the words of each segment. -/
theorem splitOn_pieces (cls : UtilityClass) :
    cls.pieces.splitOn [] = cls.segments.map UtilitySegment.words :=
  cls.isPlain.splitOn_pieces

theorem pieces_chars (cls : UtilityClass) :
    ∀ piece ∈ cls.pieces, ∀ c ∈ piece, isRunChar c = true := by
  refine forall_mem_intercalate (by simp) fun group hgroup word hword => ?_
  obtain ⟨segment, -, rfl⟩ := List.mem_map.1 hgroup
  exact (segment.words_chars word hword).2

/-- Cutting a name at its underscores gives the pieces. -/
theorem splitOn_joinedName (cls : UtilityClass) : cls.joinedName.splitOn '_' = cls.pieces := by
  rw [← joined_words, cls.isPlain.splitOn_joined, pieces]

theorem joinedName_eq_cons (cls : UtilityClass) :
    ∃ c cs, cls.joinedName = c :: cs ∧ isRunChar c = true := by
  have hchars : ∀ c ∈ cls.joinedName, c = '_' ∨ isRunChar c = true :=
    forall_mem_intercalate (by simp) fun piece hpiece c hc =>
      .inr (cls.pieces_chars piece hpiece c hc)
  have hne := cls.isPlain.joined_ne_nil
  have hhead := cls.isPlain.head?_joined
  rw [joined_words] at hne hhead
  obtain ⟨c, cs, hname⟩ := List.exists_cons_of_ne_nil hne
  refine ⟨c, cs, hname, (hchars c (hname ▸ List.mem_cons_self)).resolve_left ?_⟩
  rintro rfl
  exact hhead (by rw [hname, List.head?_cons])

theorem getLast?_joinedName (cls : UtilityClass) : cls.joinedName.getLast? ≠ some '_' := by
  rw [← joined_words]
  exact cls.isPlain.getLast?_joined

/-- The start of a name is not what a repair puts there. -/
theorem not_isPrefix_joinedName (cls : UtilityClass) : ¬ ['n', '_'] <+: cls.joinedName := by
  rintro ⟨rest, hname⟩
  have hpieces := cls.splitOn_joinedName
  have hcut : (['n'] ++ '_' :: rest).splitOn '_' = ['n'].splitOn '_' ++ rest.splitOn '_' :=
    List.splitOn_append_cons_self ['n'] rest
  have hn : ['n'].splitOn '_' = [['n']] := by decide
  rw [← hname, List.cons_append, List.singleton_append, ← List.singleton_append, hcut, hn]
    at hpieces
  -- The first word of the class is the piece in front of the first underscore.
  have hgroups := cls.splitOn_pieces
  obtain ⟨group, groups, hrest⟩ :=
    List.exists_cons_of_ne_nil (List.splitOn_ne_nil [] (rest.splitOn '_'))
  rw [← hpieces, List.singleton_append, List.splitOn_cons_eq_if_modifyHead, hrest,
    if_neg (by decide), List.modifyHead_cons] at hgroups
  obtain ⟨hfirst, -⟩ := List.cons.inj hgroups
  cases hsign : cls.first.isNegative with
  | true =>
      simp only [UtilitySegment.words, hsign, if_true, List.singleton_append] at hfirst
      exact absurd (List.cons.inj hfirst).1 (by decide)
  | false =>
      simp only [UtilitySegment.words, hsign, Bool.false_eq_true, if_false,
        List.nil_append] at hfirst
      exact UtilityWord.encoded_ne (cls.start hsign) (by decide) (List.cons.inj hfirst).1.symm

end UtilityClass

/-! ## Reading a name back -/

/-- A name without the repair of its start. -/
def unrepairedStart : List Char → List Char
  | 'n' :: '_' :: rest => rest
  | name => name

/-- A name without repairs. -/
def unrepaired (name : List Char) : List Char :=
  unrepairedStart (if name.getLast? = some '_' then name.dropLast else name)

/-- A word with slashes in the place of what stands for them. -/
def restoredWord : List Char → List Char
  | 'o' :: 'v' :: 'e' :: 'r' :: rest => '/' :: restoredWord rest
  | c :: rest => c :: restoredWord rest
  | [] => []

/-- Words with the dividers in front of them. -/
def restoredLater : List (List Char) → List Char
  | [] => []
  | [word] => '-' :: restoredWord word
  | first :: second :: rest =>
    if first = dotWord then '.' :: (restoredWord second ++ restoredLater rest)
    else '-' :: (restoredWord first ++ restoredLater (second :: rest))

/-- The words of a segment as its text. A sign looks like a divider. -/
def restoredSegment : List (List Char) → List Char
  | [] => []
  | first :: later =>
    if first = signWord then restoredLater later else restoredWord first ++ restoredLater later

/-- The class that a snake name spells. -/
def restored (name : List Char) : List Char :=
  [':'].intercalate ((((unrepaired name).splitOn '_').splitOn []).map restoredSegment)

theorem unrepaired_repaired {c : Char} {cs : List Char} (hc : isRunChar c = true)
    (hlast : (c :: cs).getLast? ≠ some '_') (hstart : ¬ ['n', '_'] <+: c :: cs) :
    unrepaired (repaired .snake (c :: cs)) = c :: cs := by
  obtain ⟨hascii, -, hupper⟩ := isRunChar_spec hc
  have hstarted : repairedStart .snake (c :: cs) =
      if c.isDigit then 'n' :: '_' :: c :: cs else c :: cs := by
    simp only [repairedStart, isNumeric_of_ascii hascii, isUppercase_of_ascii hascii, hupper,
      Bool.false_eq_true, if_false]
    rw [if_neg (ne_of_isRunChar hc (by decide))]
  have hend : (repairedStart .snake (c :: cs)).getLast? ≠ some '_' := by
    rw [hstarted]
    split
    · rwa [List.getLast?_cons_cons, List.getLast?_cons_cons]
    · exact hlast
  have hunstarted : unrepairedStart (repairedStart .snake (c :: cs)) = c :: cs := by
    rw [hstarted]
    split
    · rfl
    · unfold unrepairedStart
      split
      · next rest heq => exact absurd ⟨rest, by rw [heq]; rfl⟩ hstart
      · rfl
  rw [repaired, unrepaired]
  split
  · rw [List.getLast?_concat, if_pos rfl, List.dropLast_concat, hunstarted]
  · exact hunstarted

theorem restoredWord_cons {c : Char} {rest : List Char} (h : ¬ slashText <+: c :: rest) :
    restoredWord (c :: rest) = c :: restoredWord rest := by
  rw [restoredWord]
  rintro tail rfl rfl
  exact h ⟨tail, rfl⟩

/-- What follows a run cannot complete the text for a slash: nothing that begins with that
text does, since its first letter does not come again in it. -/
theorem isPrefix_of_isPrefix_append {text rest : List Char} (hne : text ≠ [])
    (hrest : ∀ c ∈ rest.head?, c = 'o') (h : slashText <+: text ++ rest) : slashText <+: text := by
  rcases List.prefix_or_prefix_of_prefix h (List.prefix_append text rest) with hself | ⟨tail, htail⟩
  · exact hself
  · rw [← htail, List.prefix_append_right_inj] at h
    cases tail with
    | nil => exact ⟨[], by rw [← htail]; simp⟩
    | cons d tail =>
        obtain ⟨c, cs, rfl⟩ := List.exists_cons_of_ne_nil hne
        obtain ⟨rest, rfl⟩ := h
        obtain rfl : d = 'o' := hrest d rfl
        obtain ⟨-, hver⟩ := List.cons.inj htail
        have hmem : 'o' ∈ ['v', 'e', 'r'] := by
          rw [← hver]
          simp
        exact absurd hmem (by decide)

theorem restoredWord_run {text rest : List Char} (hslash : ¬ slashText <:+: text)
    (hrest : ∀ c ∈ rest.head?, c = 'o') :
    restoredWord (text ++ rest) = text ++ restoredWord rest := by
  induction text with
  | nil => rfl
  | cons c cs ih =>
      have hhere : ¬ slashText <+: c :: (cs ++ rest) := fun h =>
        hslash (isPrefix_of_isPrefix_append (List.cons_ne_nil c cs) hrest h).isInfix
      have hlater : ¬ slashText <:+: cs := fun h => hslash (h.trans (List.suffix_cons c cs).isInfix)
      rw [List.cons_append, restoredWord_cons hhere, ih hlater, List.cons_append]

theorem restoredWord_runs (runs : List WordRun) :
    restoredWord (slashText.intercalate (runs.map WordRun.text)) =
      ['/'].intercalate (runs.map WordRun.text) := by
  induction runs with
  | nil => rfl
  | cons first runs ih =>
      cases runs with
      | nil =>
          have hrun : restoredWord (first.text ++ []) = first.text ++ restoredWord [] :=
            restoredWord_run first.no_slash (by simp)
          simpa [List.intercalate_singleton, restoredWord] using hrun
      | cons second runs =>
          simp only [List.map_cons, List.intercalate_cons_cons, List.append_assoc] at ih ⊢
          rw [restoredWord_run first.no_slash (by simp [slashText]), slashText]
          simp only [List.cons_append, List.nil_append, restoredWord]
          rw [← ih]
          rfl

theorem restoredWord_encoded (word : UtilityWord) : restoredWord word.encoded = word.text :=
  restoredWord_runs word.runs

theorem restoredLater_cons {word : List Char} (h : word ≠ dotWord) (rest : List (List Char)) :
    restoredLater (word :: rest) = '-' :: (restoredWord word ++ restoredLater rest) := by
  cases rest with
  | nil => simp [restoredLater]
  | cons second rest => rw [restoredLater, if_neg h]

theorem restoredLater_dot (word : List Char) (rest : List (List Char)) :
    restoredLater (dotWord :: word :: rest) = '.' :: (restoredWord word ++ restoredLater rest) :=
  if_pos rfl

theorem UtilityWord.encoded_ne_dot (word : UtilityWord) : word.encoded ≠ dotWord :=
  encoded_ne word.ne_dot (by decide)

theorem restoredLater_laterWords (later : List (Divider × UtilityWord)) :
    restoredLater (laterWords later) = laterText later := by
  induction later with
  | nil => rfl
  | cons e later ih =>
      obtain ⟨divider, word⟩ := e
      rw [laterWords, List.flatMap_cons, ← laterWords, laterText, List.flatMap_cons, ← laterText]
      cases divider with
      | hyphen =>
          simp only [List.singleton_append]
          rw [restoredLater_cons word.encoded_ne_dot, restoredWord_encoded, ih]
          rfl
      | dot =>
          simp only [List.cons_append, List.nil_append]
          rw [restoredLater_dot, restoredWord_encoded, ih]
          rfl

theorem restoredSegment_words (segment : UtilitySegment) :
    restoredSegment segment.words = segment.text := by
  obtain ⟨isNegative, first, later⟩ := segment
  have hsign : first.encoded ≠ signWord := UtilityWord.encoded_ne first.ne_sign (by decide)
  cases isNegative with
  | true =>
      simp only [UtilitySegment.words, UtilitySegment.text, if_true, List.singleton_append,
        restoredSegment]
      rw [restoredLater_cons first.encoded_ne_dot, restoredWord_encoded,
        restoredLater_laterWords]
  | false =>
      simp only [UtilitySegment.words, UtilitySegment.text, Bool.false_eq_true, if_false,
        List.nil_append, restoredSegment]
      rw [if_neg hsign, restoredWord_encoded, restoredLater_laterWords]

/-- **The snake name of a utility class spells the class.** -/
theorem UtilityClass.restored_ofClassText (cls : UtilityClass) :
    restored (ofClassText .snake [] cls.text) = cls.text := by
  obtain ⟨c, cs, hname, hc⟩ := cls.joinedName_eq_cons
  have hunrepaired : unrepaired (repaired .snake cls.joinedName) = cls.joinedName := by
    have hlast := cls.getLast?_joinedName
    have hstart := cls.not_isPrefix_joinedName
    rw [hname] at hlast hstart ⊢
    exact unrepaired_repaired hc hlast hstart
  rw [ofClassText, cls.joined_wordGroups, restored, hunrepaired, cls.splitOn_joinedName,
    cls.splitOn_pieces, List.map_map]
  have hsegments : restoredSegment ∘ UtilitySegment.words = UtilitySegment.text :=
    funext restoredSegment_words
  rw [hsegments, UtilityClass.text]

example : restored "sm__neg_m_1_dot_5".toList = "sm:-m-1.5".toList := by decide

/-- Two utility classes with one snake name are one class. -/
theorem eq_of_valueName_eq {cls other : String} (hcls : IsUtilityShaped cls)
    (hother : IsUtilityShaped other) (h : valueName .snake "" cls = valueName .snake "" other) :
    cls = other := by
  obtain ⟨shape, hshape⟩ := hcls
  obtain ⟨otherShape, hotherShape⟩ := hother
  have hname : ofClassText .snake [] shape.text = ofClassText .snake [] otherShape.text := by
    rw [← hshape, ← hotherShape]
    exact String.ofList_injective h
  have htext : shape.text = otherShape.text := by
    rw [← shape.restored_ofClassText, hname, otherShape.restored_ofClassText]
  rw [← String.toList_inj, hshape, hotherShape, htext]

end ElmClasses.Elm
