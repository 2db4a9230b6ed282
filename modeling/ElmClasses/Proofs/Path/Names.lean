import Mathlib.Data.List.TakeWhile
import ElmClasses.Path
import ElmClasses.Proofs.Text.Basic

/-!
# Names along paths

What a path names once its extension is taken off. The extension goes in two steps, of
which the first cuts characters off the end of the text: slashes and dots behind the
file name are cut instead of the extension, and the second step then finds the rest of
it. In the end the file name has lost exactly its extension, as `bareNames_eq` says.

A relative path taken from a directory goes through the names of the directory and then
through its own ones. A path without any name of its own does not lead to a file below
the directory, and then the directory itself loses its extension.

## Main results

* `bareNames_eq`: the names of a path without its extension, piece by piece.
* `bareNames_joinText`: the names of a path taken from a directory.
-/

namespace ElmClasses.Path

open Text (notMem_of_mem_splitOn)

/-- The names of a path without its extension. -/
def bareNames (text : List Char) : List (List Char) :=
  namesText (withExtensionText [] text)

/-- Whether a piece names a file or a directory. -/
def isName (piece : List Char) : Bool :=
  !isVoid piece && !isParent piece

theorem namesText_eq_filter (text : List Char) :
    namesText text = (text.splitOn '/').filter isName := rfl

/-- Joined pieces, seen from one of them. -/
theorem intercalate_append_cons (front : List (List Char)) (piece : List Char)
    (back : List (List Char)) :
    ['/'].intercalate (front ++ piece :: back) =
      front.flatMap (· ++ ['/']) ++ (piece ++ back.flatMap ('/' :: ·)) := by
  induction front with
  | nil =>
      rw [List.nil_append, List.flatMap_nil, List.nil_append]
      induction back generalizing piece with
      | nil => simp [List.intercalate_singleton]
      | cons next back ih =>
          rw [List.intercalate_cons_cons, ih next]
          simp
  | cons first front ih =>
      rw [List.cons_append, List.intercalate_cons_of_ne_nil (by simp), ih]
      simp

/-- What is left behind a longest run starts with something that ends the run. -/
theorem eq_of_dropWhile_eq_cons {α : Type} {p : α → Bool} {xs rest : List α} {x : α}
    (h : xs.dropWhile p = x :: rest) : p x = false ∧ xs = xs.takeWhile p ++ x :: rest := by
  have hhead := List.head?_dropWhile_not p xs
  rw [h] at hhead
  exact ⟨hhead, by rw [← h, List.takeWhile_append_dropWhile]⟩

/-- The pieces behind the file name are void. -/
theorem splitOn_of_namedPieces {text name : List Char} {before : List (List Char)}
    (h : namedPieces text = name :: before) :
    isVoid name = false ∧ ∃ voids, (∀ piece ∈ voids, isVoid piece = true) ∧
      text.splitOn '/' = before.reverse ++ name :: voids := by
  obtain ⟨hname, hpieces⟩ := eq_of_dropWhile_eq_cons h
  refine ⟨hname, ((text.splitOn '/').reverse.takeWhile isVoid).reverse,
    fun piece hpiece => List.mem_takeWhile_imp (List.mem_reverse.1 hpiece), ?_⟩
  calc
    text.splitOn '/' = ((text.splitOn '/').reverse.takeWhile isVoid ++ name :: before).reverse :=
      List.reverse_eq_iff.1 hpieces
    _ = _ := by simp only [List.reverse_append, List.reverse_cons, List.append_assoc,
      List.cons_append, List.nil_append]

theorem slash_notMem_of_namedPieces {text name : List Char} {before : List (List Char)}
    (h : namedPieces text = name :: before) : '/' ∉ name := by
  obtain ⟨-, voids, -, hsplit⟩ := splitOn_of_namedPieces h
  have hmem : name ∈ text.splitOn '/' := by
    rw [hsplit]
    simp
  exact notMem_of_mem_splitOn hmem

theorem namedPieces_of_splitOn {text name : List Char} {front voids : List (List Char)}
    (h : text.splitOn '/' = front ++ name :: voids) (hname : isVoid name = false)
    (hvoids : ∀ piece ∈ voids, isVoid piece = true) :
    namedPieces text = name :: front.reverse := by
  have hback : ∀ piece ∈ voids.reverse, isVoid piece = true := fun piece hpiece =>
    hvoids piece (List.mem_reverse.1 hpiece)
  rw [namedPieces, h, List.reverse_append, List.reverse_cons, List.append_assoc,
    List.dropWhile_append_of_pos hback]
  simp [hname]

/-- A path without names consists of void pieces. -/
theorem isVoid_of_namedPieces_eq_nil {text : List Char} (h : namedPieces text = []) :
    ∀ piece ∈ text.splitOn '/', isVoid piece = true := by
  simpa [namedPieces] using List.dropWhile_eq_nil_iff.1 h

/-! ## Extensions -/

theorem splitExtension_append {stem extension : List Char} (hstem : stem ≠ [])
    (hdot : '.' ∉ extension) :
    splitExtension (stem ++ '.' :: extension) = (stem, some extension) := by
  have hpos : ∀ c ∈ extension.reverse, (c != '.') = true := by
    intro c hc
    have hne : c ≠ '.' := fun heq => hdot (heq ▸ List.mem_reverse.1 hc)
    simpa using hne
  have hdrop : (stem ++ '.' :: extension).reverse.dropWhile (· != '.') = '.' :: stem.reverse := by
    rw [List.reverse_append, List.reverse_cons, List.append_assoc,
      List.dropWhile_append_of_pos hpos]
    rfl
  have htake : (stem ++ '.' :: extension).reverse.takeWhile (· != '.') = extension.reverse := by
    rw [List.reverse_append, List.reverse_cons, List.append_assoc,
      List.takeWhile_append_of_pos hpos]
    simp
  have hne : stem.reverse ≠ [] := fun hnil => hstem (List.reverse_eq_nil_iff.1 hnil)
  simp only [splitExtension, hdrop, htake, List.reverse_reverse]

/-- A file name is its stem alone, or has its extension behind a dot. -/
theorem splitExtension_cases (name : List Char) :
    splitExtension name = (name, none) ∨
      ∃ stem extension, stem ≠ [] ∧ '.' ∉ extension ∧ name = stem ++ '.' :: extension := by
  unfold splitExtension
  dsimp only
  split
  · exact .inl rfl
  · exact .inl rfl
  · next c stem hne hdrop =>
      right
      obtain ⟨hc, hname⟩ := eq_of_dropWhile_eq_cons hdrop
      obtain rfl : c = '.' := by simpa using hc
      refine ⟨stem.reverse, (name.reverse.takeWhile (· != '.')).reverse, ?_, ?_, ?_⟩
      · intro hnil
        exact hne (List.reverse_eq_nil_iff.1 hnil)
      · intro hdot
        simpa using List.mem_takeWhile_imp (List.mem_reverse.1 hdot)
      · calc
          name = (name.reverse.takeWhile (· != '.') ++ '.' :: stem).reverse :=
            List.reverse_eq_iff.1 hname
          _ = _ := by simp only [List.reverse_append, List.reverse_cons, List.append_assoc,
            List.cons_append, List.nil_append]

theorem isVoid_take {piece : List Char} (h : isVoid piece = true) (n : ℕ) :
    isVoid (piece.take n) = true := by
  have hcases : piece = [] ∨ piece = ['.'] := by simpa [isVoid] using h
  rcases hcases with rfl | rfl
  · rw [List.take_nil]
    rfl
  · cases n <;> simp [isVoid]

theorem slash_notMem_of_isVoid {piece : List Char} (h : isVoid piece = true) :
    '/' ∉ piece := by
  have hcases : piece = [] ∨ piece = ['.'] := by simpa [isVoid] using h
  rcases hcases with rfl | rfl <;> decide

theorem isVoid_append_dot {stem : List Char} (h : stem ≠ []) (rest : List Char) :
    isVoid (stem ++ '.' :: rest) = false := by
  cases stem with
  | nil => exact absurd rfl h
  | cons c cs => simp [isVoid]

/-- What is left of void pieces after a cut is void again. -/
theorem take_flatMap_void {voids : List (List Char)} (h : ∀ piece ∈ voids, isVoid piece = true)
    (n : ℕ) : ∃ left : List (List Char), (∀ piece ∈ left, isVoid piece = true) ∧
      (voids.flatMap ('/' :: ·)).take n = left.flatMap ('/' :: ·) := by
  induction voids generalizing n with
  | nil => exact ⟨[], by simp, by simp⟩
  | cons piece voids ih =>
      obtain ⟨hpiece, hvoids⟩ := List.forall_mem_cons.1 h
      rw [List.flatMap_cons, List.cons_append]
      cases n with
      | zero => exact ⟨[], by simp, rfl⟩
      | succ n =>
          rw [List.take_succ_cons, List.take_append]
          by_cases hlong : n ≤ piece.length
          · refine ⟨[piece.take n], by simpa using isVoid_take hpiece n, ?_⟩
            simp [Nat.sub_eq_zero_of_le hlong]
          · obtain ⟨left, hleft, htake⟩ := ih hvoids (n - piece.length)
            refine ⟨piece :: left, List.forall_mem_cons.2 ⟨hpiece, hleft⟩, ?_⟩
            rw [htake, List.take_of_length_le (by omega), List.flatMap_cons, List.cons_append]

/-- Cutting as many characters off a path as its extension has leaves the stem, the dot,
and maybe some of the extension. -/
theorem take_extension (front : List (List Char)) (stem extension : List Char)
    {voids : List (List Char)} (hvoids : ∀ piece ∈ voids, isVoid piece = true) :
    ∃ (n : ℕ) (left : List (List Char)), (∀ piece ∈ left, isVoid piece = true) ∧
      let text := ['/'].intercalate (front ++ (stem ++ '.' :: extension) :: voids)
      text.take (text.length - extension.length) =
        ['/'].intercalate (front ++ (stem ++ '.' :: extension.take n) :: left) := by
  let behind := voids.flatMap ('/' :: ·)
  obtain ⟨left, hleft, htake⟩ :=
    take_flatMap_void hvoids (behind.length - extension.length)
  refine ⟨behind.length, left, hleft, ?_⟩
  have hcut : (extension ++ behind).take behind.length =
      extension.take behind.length ++ left.flatMap ('/' :: ·) := by
    rw [List.take_append, htake]
  simp only [intercalate_append_cons]
  have hlength : (front.flatMap (· ++ ['/']) ++ (stem ++ '.' :: extension ++ behind)).length -
      extension.length =
        (front.flatMap (· ++ ['/']) ++ (stem ++ ['.'])).length + behind.length := by
    simp only [List.length_append, List.length_cons, List.length_nil]
    omega
  have htext : front.flatMap (· ++ ['/']) ++ (stem ++ '.' :: extension ++ behind) =
      front.flatMap (· ++ ['/']) ++ (stem ++ ['.']) ++ (extension ++ behind) := by simp
  rw [hlength, htext, List.take_length_add_append, hcut]
  simp

theorem isName_of_isVoid {piece : List Char} (h : isVoid piece = true) :
    isName piece = false := by
  simp [isName, h]

/-- The names of pieces up to a file name, in reverse order, without the extension. -/
def stemNames : List (List Char) → List (List Char)
  | [] => []
  | name :: before => (before.reverse ++ [(splitExtension name).1]).filter isName

/-- The stem of a piece that leads to the parent is no name either. -/
theorem isName_stem_of_isParent {name : List Char} (h : isParent name = true) :
    isName (splitExtension name).1 = false := by
  have hname : name = ['.', '.'] := by simpa [isParent] using h
  rw [hname]
  rfl

/-- A piece with a stem that is a name is a name itself. -/
theorem isName_of_isName_stem {piece : List Char}
    (h : isName (splitExtension piece).1 = true) : isName piece = true := by
  rw [isName, Bool.and_eq_true, Bool.not_eq_true', Bool.not_eq_true']
  constructor
  · rw [Bool.eq_false_iff]
    intro hvoid
    have hcases : piece = [] ∨ piece = ['.'] := by simpa [isVoid] using hvoid
    rcases hcases with rfl | rfl <;> cases h
  · rw [Bool.eq_false_iff]
    intro hparent
    rw [isName_stem_of_isParent hparent] at h
    cases h

theorem slash_notMem_stem {name : List Char} (h : '/' ∉ name) :
    '/' ∉ (splitExtension name).1 := by
  rcases splitExtension_cases name with hnone | ⟨stem, extension, hstem, hdot, rfl⟩
  · rwa [hnone]
  · rw [splitExtension_append hstem hdot]
    exact fun hmem => h (List.mem_append_left _ hmem)

theorem fileNameText?_of_namedPieces {text name : List Char} {before : List (List Char)}
    (h : namedPieces text = name :: before) (hproper : isParent name = false) :
    fileNameText? text = some name := by
  rw [fileNameText?, h]
  exact if_neg (by simp [hproper])

theorem namedPieces_of_fileNameText? {text name : List Char}
    (h : fileNameText? text = some name) :
    ∃ before, namedPieces text = name :: before ∧ isParent name = false := by
  rw [fileNameText?] at h
  split at h
  · cases h
  · next other before hnamed =>
      split at h
      · cases h
      · next hproper =>
          obtain rfl := Option.some.inj h
          exact ⟨before, hnamed, by simpa using hproper⟩

theorem stem_ne_nil {name : List Char} (h : isVoid name = false) :
    (splitExtension name).1 ≠ [] := by
  rcases splitExtension_cases name with hnone | ⟨stem, extension, hstem, hdot, rfl⟩
  · rw [hnone]
    rintro rfl
    cases h
  · rwa [splitExtension_append hstem hdot]

theorem setExtensionText_of_fileNameText?_eq_none {text : List Char} (extension : List Char)
    (h : fileNameText? text = none) : setExtensionText extension text = text := by
  rw [setExtensionText]
  cases hnamed : namedPieces text with
  | nil => rfl
  | cons name before =>
      cases hparent : isParent name with
      | true => exact if_pos hparent
      | false =>
          rw [fileNameText?_of_namedPieces hnamed hparent] at h
          cases h

theorem nameWithExtension_ne_nil {stem : List Char} (h : stem ≠ []) (extension : List Char) :
    nameWithExtension stem extension ≠ [] := by
  unfold nameWithExtension
  split
  · exact h
  · simp

/-- The new file name is the last piece, and the pieces before it stay. -/
theorem splitOn_setExtensionText {extension text name : List Char} {before : List (List Char)}
    (hslash : '/' ∉ extension) (hnamed : namedPieces text = name :: before)
    (hproper : isParent name = false) :
    (setExtensionText extension text).splitOn '/' =
      before.reverse ++ [nameWithExtension (splitExtension name).1 extension] := by
  obtain ⟨-, voids, -, hsplit⟩ := splitOn_of_namedPieces hnamed
  have hstem := slash_notMem_stem (slash_notMem_of_namedPieces hnamed)
  have hpieces : ∀ piece ∈ before.reverse ++ [nameWithExtension (splitExtension name).1 extension],
      '/' ∉ piece := by
    intro piece hpiece
    rcases List.mem_append.1 hpiece with hfront | hlast
    · exact notMem_of_mem_splitOn (hsplit ▸ List.mem_append_left _ hfront)
    · obtain rfl := List.mem_singleton.1 hlast
      unfold nameWithExtension
      split
      · exact hstem
      · simp [hstem, hslash]
  rw [setExtensionText, hnamed]
  dsimp only
  rw [if_neg (by simp [hproper]), List.reverse_cons,
    List.splitOn_intercalate '/' hpieces (by simp)]

/-- Taking the extension off in place leaves the stem as the last name. -/
theorem namesText_setExtensionText {text name : List Char} {before : List (List Char)}
    (h : namedPieces text = name :: before) :
    namesText (setExtensionText [] text) = stemNames (name :: before) := by
  rw [namesText_eq_filter, stemNames]
  cases hparent : isParent name with
  | true =>
      obtain ⟨-, voids, hvoids, hsplit⟩ := splitOn_of_namedPieces h
      have hvoidNames : voids.filter isName = [] :=
        List.filter_eq_nil_iff.2 fun piece hpiece => by
          simp [isName_of_isVoid (hvoids piece hpiece)]
      have hself : isName name = false := by simp [isName, hparent]
      rw [setExtensionText_of_fileNameText?_eq_none [] (by simp [fileNameText?, h, hparent]),
        hsplit, List.filter_append, List.filter_append,
        List.filter_cons_of_neg (by simp [hself]), hvoidNames,
        List.filter_cons_of_neg (by simp [isName_stem_of_isParent hparent]), List.filter_nil]
  | false => rw [splitOn_setExtensionText (by simp) h hparent, nameWithExtension, if_pos rfl]

/-- The cut leaves the file name in its place, with the stem that it had. -/
theorem namedPieces_take_extension {front voids : List (List Char)}
    {stem extension : List Char} (hstem : stem ≠ [])
    (hslash : ∀ piece ∈ front ++ (stem ++ '.' :: extension) :: voids, '/' ∉ piece)
    (hvoids : ∀ piece ∈ voids, isVoid piece = true) :
    let text := ['/'].intercalate (front ++ (stem ++ '.' :: extension) :: voids)
    ∃ n, namedPieces (text.take (text.length - extension.length)) =
      (stem ++ '.' :: extension.take n) :: front.reverse := by
  obtain ⟨n, left, hleft, hcut⟩ := take_extension front stem extension hvoids
  dsimp only at hcut ⊢
  have hpieces : ∀ piece ∈ front ++ (stem ++ '.' :: extension.take n) :: left,
      '/' ∉ piece := by
    intro piece hpiece
    rcases List.mem_append.1 hpiece with hfront | hback
    · exact hslash piece (List.mem_append_left _ hfront)
    · rcases List.mem_cons.1 hback with rfl | hmem
      · have hshort : (stem ++ '.' :: extension.take n).Sublist (stem ++ '.' :: extension) :=
          ((List.take_sublist n extension).cons_cons '.').append_left stem
        exact fun hc => hslash (stem ++ '.' :: extension) (by simp) (hshort.subset hc)
      · exact slash_notMem_of_isVoid (hleft piece hmem)
  rw [hcut]
  exact ⟨n, namedPieces_of_splitOn
    (List.splitOn_intercalate '/' hpieces (by simp)) (isVoid_append_dot hstem _) hleft⟩

/-- A path that is shortened by as many characters as its extension has. -/
def shortenedText (text : List Char) : List Char :=
  match extensionText? text with
  | none => text
  | some old => text.take (text.length - old.length)

theorem withExtensionText_eq_set (extension text : List Char) :
    withExtensionText extension text = setExtensionText extension (shortenedText text) := rfl

/-- The path that is shortened by its extension has a file name in the same place, and
that has the same stem. -/
theorem namedPieces_shortenedText {text name : List Char} {before : List (List Char)}
    (hnamed : namedPieces text = name :: before) (hproper : isParent name = false) :
    ∃ rest, namedPieces (shortenedText text) = rest :: before ∧
      (splitExtension rest).1 = (splitExtension name).1 := by
  have hfile := fileNameText?_of_namedPieces hnamed hproper
  rcases splitExtension_cases name with hnone | ⟨stem, old, hstem, hdot, rfl⟩
  · refine ⟨name, ?_, rfl⟩
    simpa [shortenedText, extensionText?, hfile, hnone] using hnamed
  · obtain ⟨-, voids, hvoids, hsplit⟩ := splitOn_of_namedPieces hnamed
    obtain ⟨n, hcut⟩ := namedPieces_take_extension hstem
      (fun piece hpiece => notMem_of_mem_splitOn (hsplit ▸ hpiece)) hvoids
    have hdotTake : '.' ∉ old.take n := fun hc => hdot (List.take_subset n _ hc)
    rw [← hsplit, List.intercalate_splitOn, List.reverse_reverse] at hcut
    refine ⟨stem ++ '.' :: old.take n, ?_, ?_⟩
    · simpa [shortenedText, extensionText?, hfile, splitExtension_append hstem hdot] using hcut
    · rw [splitExtension_append hstem hdotTake, splitExtension_append hstem hdot]

/-- **The names of a path without its extension** are its names up to the file name, of
which the stem is left. -/
theorem bareNames_eq (text : List Char) : bareNames text = stemNames (namedPieces text) := by
  rw [bareNames]
  cases h : namedPieces text with
  | nil =>
      have hnone : extensionText? text = none := by simp [extensionText?, fileNameText?, h]
      have hvoids : ∀ piece ∈ text.splitOn '/', isVoid piece = true :=
        isVoid_of_namedPieces_eq_nil h
      rw [withExtensionText, hnone]
      dsimp only
      rw [setExtensionText, h, namesText_eq_filter]
      exact List.filter_eq_nil_iff.2 fun piece hpiece => by
        simp [isName_of_isVoid (hvoids piece hpiece)]
  | cons name before =>
      cases hparent : isParent name with
      | true =>
          have hnone : extensionText? text = none := by
            simp [extensionText?, fileNameText?, h, hparent]
          rw [withExtensionText, hnone]
          exact namesText_setExtensionText h
      | false =>
          obtain ⟨rest, hrest, hsame⟩ := namedPieces_shortenedText h hparent
          rw [withExtensionText_eq_set, namesText_setExtensionText hrest, stemNames, stemNames,
            hsame]

/-! ## Paths taken from a directory -/

/-- A relative path taken from a directory has its own pieces behind those of the
directory, up to an empty piece. -/
theorem splitOn_joinText (base : List Char) {text : List Char}
    (h : isAbsoluteText text = false) :
    ∃ front voids, (∀ piece ∈ voids, isVoid piece = true) ∧
      base.splitOn '/' = front ++ voids ∧
      (joinText base text).splitOn '/' = front ++ text.splitOn '/' := by
  rcases List.eq_nil_or_concat base with rfl | ⟨init, last, rfl⟩
  · exact ⟨[], [[]], by simp [isVoid], by simp, by simp [joinText, h]⟩
  · rw [List.concat_eq_append]
    by_cases hlast : last = '/'
    · subst hlast
      refine ⟨init.splitOn '/', [[]], by simp [isVoid], ?_, ?_⟩
      · rw [List.splitOn_append_cons_self, List.splitOn_nil]
      · have hjoin : joinText (init ++ ['/']) text = init ++ '/' :: text := by
          simp [joinText, h]
        rw [hjoin, List.splitOn_append_cons_self]
    · refine ⟨(init ++ [last]).splitOn '/', [], by simp, by simp, ?_⟩
      have hjoin : joinText (init ++ [last]) text = init ++ [last] ++ '/' :: text := by
        simp [joinText, h]
      rw [hjoin, List.splitOn_append_cons_self]

/-- **A relative path with a name of its own keeps it in any directory**: what it names
from there are the names of the directory and then its own. -/
theorem bareNames_joinText (base : List Char) {text : List Char}
    (h : isAbsoluteText text = false) (hne : namedPieces text ≠ []) :
    bareNames (joinText base text) = namesText base ++ bareNames text := by
  obtain ⟨front, voids, hvoids, hbase, hjoin⟩ := splitOn_joinText base h
  obtain ⟨name, before, hnamed⟩ := List.exists_cons_of_ne_nil hne
  obtain ⟨hname, left, hleft, hsplit⟩ := splitOn_of_namedPieces hnamed
  have hvoidNames : voids.filter isName = [] :=
    List.filter_eq_nil_iff.2 fun piece hpiece => by
      simp [isName_of_isVoid (hvoids piece hpiece)]
  rw [hsplit, ← List.append_assoc] at hjoin
  rw [bareNames_eq, bareNames_eq, namedPieces_of_splitOn hjoin hname hleft, hnamed,
    namesText_eq_filter, hbase]
  simp [stemNames, hvoidNames]

/-- A relative path without names leads to the directory that it is taken from. -/
theorem bareNames_joinText_of_void (base : List Char) {text : List Char}
    (h : isAbsoluteText text = false) (hnil : namedPieces text = []) :
    bareNames (joinText base text) = bareNames base := by
  obtain ⟨front, voids, hvoids, hbase, hjoin⟩ := splitOn_joinText base h
  have hskip : ∀ pieces : List (List Char), (∀ piece ∈ pieces, isVoid piece = true) →
      (front ++ pieces).reverse.dropWhile isVoid = front.reverse.dropWhile isVoid := by
    intro pieces hpieces
    rw [List.reverse_append, List.dropWhile_append_of_pos]
    exact fun piece hpiece => hpieces piece (List.mem_reverse.1 hpiece)
  have htext : ∀ piece ∈ text.splitOn '/', isVoid piece = true :=
    isVoid_of_namedPieces_eq_nil hnil
  rw [bareNames_eq, bareNames_eq, namedPieces, namedPieces, hjoin, hbase, hskip voids hvoids,
    hskip _ htext]

end ElmClasses.Path
