import ElmClasses.Proofs.Path.Steps

/-!
# Paths below a directory

A relative path is taken from a directory by putting the directory and a slash in front of
its text (`joinText_eq_append`). What is done to such a text afterwards is done at its end:
another extension, or a further path. So it can as well be done before the directory is
put in front, as long as the text has a name of its own that the change is about. If it
has none, the change is about the file name of the directory instead.

## Main results

* `setExtensionText_opening`, `withExtensionText_opening`: an extension is changed below a
  directory as it is without the directory.
* `setExtensionText_opening_eq_iff`: what is changed if there is no name below the directory.
* `isAbsoluteText_withExtensionText`: no extension makes a path absolute, or relative.
-/

namespace ElmClasses.Path

/-- A directory with the slash that goes before what is taken from it. -/
def opening (base : List Char) : List Char :=
  match base.getLast? with
  | none | some '/' => base
  | some _ => base ++ ['/']

theorem joinText_eq_append {text : List Char} (h : isAbsoluteText text = false)
    (base : List Char) : joinText base text = opening base ++ text := by
  rw [joinText, if_neg (by simp [h]), opening]
  split <;> simp_all

/-- A text that puts pieces in front of those of any other text. -/
structure IsOpening (front : List (List Char)) (text : List Char) : Prop where
  splitOn_append : ∀ rest, (text ++ rest).splitOn '/' = front ++ rest.splitOn '/'
  intercalate_append : ∀ pieces, pieces ≠ [] →
    ['/'].intercalate (front ++ pieces) = text ++ ['/'].intercalate pieces

theorem isOpening_nil : IsOpening [] [] :=
  ⟨fun _ => rfl, fun _ _ => rfl⟩

theorem isOpening_slash (text : List Char) : IsOpening (text.splitOn '/') (text ++ ['/']) := by
  refine ⟨fun rest => ?_, fun pieces hne => ?_⟩
  · rw [List.append_assoc, List.singleton_append, List.splitOn_append_cons_self]
  · rw [Text.intercalate_append ['/'] (List.splitOn_ne_nil '/' text) hne,
      List.intercalate_splitOn]

/-- The pieces of a directory, but for an empty one at the end, are those in front. -/
theorem exists_isOpening (base : List Char) :
    ∃ front, IsOpening front (opening base) ∧
      namedPieces base = front.reverse.dropWhile isVoid := by
  rcases List.eq_nil_or_concat base with rfl | ⟨init, last, rfl⟩
  · exact ⟨[], isOpening_nil, rfl⟩
  · rw [List.concat_eq_append]
    by_cases hlast : last = '/'
    · subst hlast
      have hopening : opening (init ++ ['/']) = init ++ ['/'] := by simp [opening]
      rw [hopening]
      refine ⟨init.splitOn '/', isOpening_slash init, ?_⟩
      rw [namedPieces, List.splitOn_append_cons_self, List.splitOn_nil]
      simp [isVoid]
    · have hopening : opening (init ++ [last]) = init ++ [last] ++ ['/'] := by simp [opening]
      rw [hopening]
      exact ⟨_, isOpening_slash (init ++ [last]), rfl⟩

/-- The names behind an opening stay in front of the pieces that it adds. -/
theorem IsOpening.namedPieces_append {front : List (List Char)} {lead : List Char}
    (hfront : IsOpening front lead) {text name : List Char} {before : List (List Char)}
    (h : namedPieces text = name :: before) :
    namedPieces (lead ++ text) = name :: (before ++ front.reverse) := by
  obtain ⟨hname, voids, hvoids, hpieces⟩ := splitOn_of_namedPieces h
  have hall : (lead ++ text).splitOn '/' = (front ++ before.reverse) ++ name :: voids := by
    rw [hfront.splitOn_append, hpieces, List.append_assoc]
  rw [namedPieces_of_splitOn hall hname hvoids, List.reverse_append, List.reverse_reverse]

/-- Without a name of its own it has those of the directory. -/
theorem namedPieces_opening_of_nil (base : List Char) {text : List Char}
    (h : namedPieces text = []) : namedPieces (opening base ++ text) = namedPieces base := by
  obtain ⟨front, hfront, hbase⟩ := exists_isOpening base
  rw [namedPieces] at h
  rw [hbase, namedPieces, hfront.splitOn_append, List.reverse_append, List.dropWhile_append, h]
  rfl

/-- The file name is the same below a directory. -/
theorem extensionText?_opening (base : List Char) {text : List Char} (h : namedPieces text ≠ []) :
    extensionText? (opening base ++ text) = extensionText? text := by
  obtain ⟨name, before, hnamed⟩ := List.exists_cons_of_ne_nil h
  obtain ⟨front, hfront, -⟩ := exists_isOpening base
  rw [extensionText?, extensionText?, fileNameText?, fileNameText?,
    hfront.namedPieces_append hnamed, hnamed]

/-- **The extension of a file name is set below a directory as it is without it.** -/
theorem setExtensionText_opening (extension base : List Char) {text : List Char}
    (h : namedPieces text ≠ []) :
    setExtensionText extension (opening base ++ text) =
      opening base ++ setExtensionText extension text := by
  obtain ⟨name, before, hnamed⟩ := List.exists_cons_of_ne_nil h
  obtain ⟨front, hfront, -⟩ := exists_isOpening base
  rw [setExtensionText, setExtensionText, hfront.namedPieces_append hnamed, hnamed]
  dsimp only
  split
  · rfl
  · rw [List.reverse_cons, List.reverse_cons, List.reverse_append, List.reverse_reverse,
      List.append_assoc]
    exact hfront.intercalate_append _ (by simp)

/-- An extension is shorter than the path. -/
theorem length_lt_of_extensionText? {text old : List Char} (h : extensionText? text = some old) :
    old.length < text.length := by
  obtain ⟨name, hfile, hold⟩ := Option.bind_eq_some_iff.1 h
  obtain ⟨before, hnamed, -⟩ := namedPieces_of_fileNameText? hfile
  obtain ⟨-, voids, -, hsplit⟩ := splitOn_of_namedPieces hnamed
  have hname : name.length ≤ text.length := by
    have htext : text = ['/'].intercalate (before.reverse ++ name :: voids) := by
      rw [← hsplit, List.intercalate_splitOn]
    rw [htext, intercalate_append_cons]
    simp only [List.length_append]
    omega
  rcases splitExtension_cases name with hnone | ⟨stem, extension, hstem, hdot, rfl⟩
  · rw [hnone] at hold
    cases hold
  · rw [splitExtension_append hstem hdot] at hold
    obtain rfl := Option.some.inj hold
    simp only [List.length_append, List.length_cons] at hname
    omega

/-- What is shortened by its extension still has a name. -/
theorem namedPieces_shortenedText_ne_nil {text : List Char} (h : namedPieces text ≠ []) :
    namedPieces (shortenedText text) ≠ [] := by
  obtain ⟨name, before, hnamed⟩ := List.exists_cons_of_ne_nil h
  cases hparent : isParent name with
  | true =>
      have hnone : extensionText? text = none := by
        simp [extensionText?, fileNameText?, hnamed, hparent]
      simpa [shortenedText, hnone] using h
  | false =>
      obtain ⟨rest, hrest, -⟩ := namedPieces_shortenedText hnamed hparent
      simp [hrest]

/-- **The extension of a file name is replaced below a directory as it is without it.** -/
theorem withExtensionText_opening (extension base : List Char) {text : List Char}
    (h : namedPieces text ≠ []) :
    withExtensionText extension (opening base ++ text) =
      opening base ++ withExtensionText extension text := by
  have hshort : shortenedText (opening base ++ text) = opening base ++ shortenedText text := by
    rw [shortenedText, shortenedText, extensionText?_opening base h]
    cases hold : extensionText? text with
    | none => rfl
    | some old =>
        have hlength := length_lt_of_extensionText? hold
        dsimp only
        rw [List.take_append, List.length_append, List.take_of_length_le (by omega)]
        congr 2
        omega
  rw [withExtensionText_eq_set, withExtensionText_eq_set, hshort,
    setExtensionText_opening extension base (namedPieces_shortenedText_ne_nil h)]

/-- **A new extension changes no name** of the path without its extension. -/
theorem bareNames_setExtensionText {extension : List Char} (hne : extension ≠ [])
    (hslash : '/' ∉ extension) (hdot : '.' ∉ extension) (text : List Char) :
    bareNames (setExtensionText extension text) = bareNames text := by
  cases hfile : fileNameText? text with
  | none => rw [setExtensionText_of_fileNameText?_eq_none extension hfile]
  | some name =>
      obtain ⟨before, hnamed, hproper⟩ := namedPieces_of_fileNameText? hfile
      have hstem := stem_ne_nil (splitOn_of_namedPieces hnamed).1
      have hset := splitOn_setExtensionText hslash hnamed hproper
      rw [nameWithExtension, if_neg hne] at hset
      rw [bareNames_eq, bareNames_eq, hnamed,
        namedPieces_of_splitOn hset (isVoid_append_dot hstem extension) (by simp), stemNames,
        stemNames, splitExtension_append hstem hdot, List.reverse_reverse]

/-- **Without a name below the directory** it is the directory that gets the extension, if
it has a file name, and the path is another one then. -/
theorem setExtensionText_opening_eq_iff {extension : List Char} (hne : extension ≠ [])
    (hslash : '/' ∉ extension) (base : List Char) {text : List Char} (h : namedPieces text = []) :
    setExtensionText extension (opening base ++ text) = opening base ++ text ↔
      fileNameText? base = none := by
  have hnamed := namedPieces_opening_of_nil base h
  have hfile : fileNameText? (opening base ++ text) = fileNameText? base := by
    rw [fileNameText?, fileNameText?, hnamed]
  constructor
  · intro heq
    by_contra hsome
    obtain ⟨name, hname⟩ := Option.ne_none_iff_exists'.1 hsome
    obtain ⟨before, hbefore, hproper⟩ := namedPieces_of_fileNameText? (hfile.trans hname)
    -- All pieces of the text are void, but the last one of the new path is a name.
    obtain ⟨front, hfront, -⟩ := exists_isOpening base
    have hvoids : ∀ piece ∈ text.splitOn '/', isVoid piece = true :=
      isVoid_of_namedPieces_eq_nil h
    have hlast := congrArg List.getLast? (splitOn_setExtensionText hslash hbefore hproper)
    rw [heq, hfront.splitOn_append, List.getLast?_concat,
      List.getLast?_append_of_ne_nil _ (List.splitOn_ne_nil '/' text), nameWithExtension,
      if_neg hne] at hlast
    have hvoid := hvoids _ (List.mem_of_getLast? hlast)
    rw [isVoid_append_dot (stem_ne_nil (splitOn_of_namedPieces hbefore).1)] at hvoid
    cases hvoid
  · intro hnone
    exact setExtensionText_of_fileNameText?_eq_none extension (hfile.trans hnone)

/-! ## Absolute paths -/

theorem isAbsoluteText_cons (c : Char) (cs : List Char) :
    isAbsoluteText (c :: cs) = (c == '/') := by
  by_cases hc : c = '/'
  · subst hc
    rfl
  · simp [isAbsoluteText, hc]

/-- Changing an extension moves no path to the root or away from it. -/
theorem isAbsoluteText_setExtensionText {extension : List Char} (hslash : '/' ∉ extension)
    (text : List Char) :
    isAbsoluteText (setExtensionText extension text) = isAbsoluteText text := by
  cases hfile : fileNameText? text with
  | none => rw [setExtensionText_of_fileNameText?_eq_none extension hfile]
  | some name =>
      obtain ⟨before, hnamed, hproper⟩ := namedPieces_of_fileNameText? hfile
      obtain ⟨hname, voids, -, hsplit⟩ := splitOn_of_namedPieces hnamed
      have hset := splitOn_setExtensionText hslash hnamed hproper
      have hnew := nameWithExtension_ne_nil (stem_ne_nil hname) extension
      rw [Bool.eq_iff_iff]
      cases hfront : before.reverse with
      | nil =>
          -- A path that starts with its file name is relative.
          rw [hfront, List.nil_append] at hsplit hset
          have hne : name ≠ [] := by
            rintro rfl
            cases hname
          rw [isAbsoluteText_of_splitOn hset, isAbsoluteText_of_splitOn hsplit]
          simp [hnew, hne]
      | cons first rest =>
          rw [hfront, List.cons_append] at hsplit hset
          rw [isAbsoluteText_of_splitOn hset, isAbsoluteText_of_splitOn hsplit]
          simp

theorem isAbsoluteText_shortenedText (text : List Char) :
    isAbsoluteText (shortenedText text) = isAbsoluteText text := by
  rw [shortenedText]
  cases hold : extensionText? text with
  | none => rfl
  | some old =>
      have hlength := length_lt_of_extensionText? hold
      obtain ⟨n, hn⟩ : ∃ n, text.length - old.length = n + 1 :=
        ⟨text.length - old.length - 1, by omega⟩
      dsimp only
      rw [hn]
      cases text with
      | nil => rfl
      | cons c cs => rw [List.take_succ_cons, isAbsoluteText_cons, isAbsoluteText_cons]

theorem isAbsoluteText_withExtensionText {extension : List Char} (hslash : '/' ∉ extension)
    (text : List Char) :
    isAbsoluteText (withExtensionText extension text) = isAbsoluteText text := by
  rw [withExtensionText_eq_set, isAbsoluteText_setExtensionText hslash,
    isAbsoluteText_shortenedText]

theorem opening_append {base : List Char} (hne : base ≠ []) (front : List Char) :
    opening (front ++ base) = front ++ opening base := by
  rw [opening, opening, List.getLast?_append_of_ne_nil _ hne]
  split
  · rfl
  · rfl
  · rw [List.append_assoc]

/-- Taking a path from another one does not depend on what is in front of that. -/
theorem joinText_append {base : List Char} (hne : base ≠ []) (front : List Char)
    {text : List Char} (h : isAbsoluteText text = false) :
    joinText (front ++ base) text = front ++ joinText base text := by
  rw [joinText_eq_append h, joinText_eq_append h, opening_append hne, List.append_assoc]

theorem isAbsoluteText_joinText {base text : List Char} (hne : base ≠ [])
    (h : isAbsoluteText text = false) :
    isAbsoluteText (joinText base text) = isAbsoluteText base := by
  obtain ⟨c, cs, rfl⟩ := List.exists_cons_of_ne_nil hne
  obtain ⟨rest, hrest⟩ : ∃ rest, joinText (c :: cs) text = c :: rest := by
    rw [joinText_eq_append h, opening]
    split <;> exact ⟨_, rfl⟩
  rw [hrest, isAbsoluteText_cons, isAbsoluteText_cons]

/-- A path names nothing if neither of its two parts does. -/
theorem namedPieces_joinText_eq_nil_iff (base : List Char) {text : List Char}
    (h : isAbsoluteText text = false) :
    namedPieces (joinText base text) = [] ↔ namedPieces base = [] ∧ namedPieces text = [] := by
  rw [joinText_eq_append h]
  by_cases hnil : namedPieces text = []
  · rw [namedPieces_opening_of_nil base hnil]
    simp [hnil]
  · obtain ⟨name, before, hnamed⟩ := List.exists_cons_of_ne_nil hnil
    obtain ⟨front, hfront, -⟩ := exists_isOpening base
    simp [hfront.namedPieces_append hnamed, hnil]

end ElmClasses.Path
