import ElmClasses.Proofs.Path.Names

/-!
# Steps along paths

Paths are compared by the steps that they take, but they are put together and changed as
texts. This module follows the steps through both operations. A relative path taken from
a directory adds its steps behind those of the directory. Another extension changes the
last step, if that is a name, and no other one. Void pieces are no steps, so what is
changed need not be the last piece of the text.

Only the start of a path is special: an empty piece there is the root, and a dot is a
step of its own. It is the same for all texts that go on behind it (`leadingSteps`).

## Main results

* `stepsText_joinText`: the steps of a path taken from a directory.
* `stepsText_setExtensionText`: the steps of a path with another extension.
-/

namespace ElmClasses.Path

/-- The steps of pieces that do not start a path. -/
def innerSteps (pieces : List (List Char)) : List Step :=
  pieces.filterMap Step.ofPiece?

/-- The steps of pieces that start a path and that others follow. -/
def leadingSteps : List (List Char) → List Step
  | [] => []
  | first :: rest =>
    (if first = [] then [.root] else if first = ['.'] then [.here] else innerSteps [first]) ++
      innerSteps rest

theorem innerSteps_append (pieces others : List (List Char)) :
    innerSteps (pieces ++ others) = innerSteps pieces ++ innerSteps others :=
  List.filterMap_append

theorem innerSteps_of_void {pieces : List (List Char)}
    (h : ∀ piece ∈ pieces, isVoid piece = true) : innerSteps pieces = [] := by
  refine List.filterMap_eq_nil_iff.2 fun piece hpiece => ?_
  rw [Step.ofPiece?, if_pos (h piece hpiece)]

/-- The step of a piece that is not void. -/
def pieceStep (piece : List Char) : Step :=
  if isParent piece then .parent else .name piece

theorem ofPiece?_of_not_void {piece : List Char} (h : isVoid piece = false) :
    Step.ofPiece? piece = some (pieceStep piece) := by
  rw [Step.ofPiece?, h, if_neg Bool.false_ne_true, pieceStep]
  split <;> rfl

/-- A path is absolute if its first piece is empty and not its only one. -/
theorem isAbsoluteText_of_splitOn {text first : List Char} {rest : List (List Char)}
    (h : text.splitOn '/' = first :: rest) :
    isAbsoluteText text = true ↔ first = [] ∧ rest ≠ [] := by
  cases text with
  | nil =>
      rw [List.splitOn_nil] at h
      obtain ⟨rfl, rfl⟩ := List.cons.inj h
      simp [isAbsoluteText]
  | cons c cs =>
      rw [List.splitOn_cons_eq_if_modifyHead] at h
      by_cases hc : c = '/'
      · subst hc
        obtain ⟨rfl, rfl⟩ := List.cons.inj h
        simp [isAbsoluteText, List.splitOn_ne_nil]
      · rw [if_neg (by simpa using hc)] at h
        obtain ⟨next, others, hpieces⟩ := List.exists_cons_of_ne_nil (List.splitOn_ne_nil '/' cs)
        rw [hpieces, List.modifyHead_cons] at h
        obtain ⟨rfl, -⟩ := List.cons.inj h
        simp [isAbsoluteText, hc]

/-- The steps of a path, divided anywhere but behind a void start. -/
theorem stepsText_of_splitOn {text piece : List Char} {front back : List (List Char)}
    (h : text.splitOn '/' = front ++ piece :: back) (hpiece : isVoid piece = false) :
    stepsText text = leadingSteps front ++ innerSteps (piece :: back) := by
  have hvoid : piece ≠ [] ∧ piece ≠ ['.'] := by simpa [isVoid] using hpiece
  cases front with
  | nil =>
      have habsolute : isAbsoluteText text = false := by
        rw [Bool.eq_false_iff]
        exact fun habs => hvoid.1 ((isAbsoluteText_of_splitOn h).1 habs).1
      rw [List.nil_append] at h
      simp [stepsText, h, firstStep?, habsolute, hvoid.2, leadingSteps, innerSteps,
        ofPiece?_of_not_void hpiece]
  | cons first front =>
      have habsolute := isAbsoluteText_of_splitOn h
      rw [List.cons_append] at h
      have hstart : (firstStep? text first).toList =
          if first = [] then [.root] else if first = ['.'] then [.here]
          else innerSteps [first] := by
        unfold firstStep?
        by_cases hfirst : first = []
        · rw [if_pos (habsolute.2 ⟨hfirst, by simp⟩), if_pos hfirst]
          rfl
        · rw [if_neg fun habs => hfirst (habsolute.1 habs).1, if_neg hfirst]
          split
          · rfl
          · cases hstep : Step.ofPiece? first <;> simp [innerSteps, hstep]
      rw [stepsText, h]
      dsimp only
      rw [hstart, leadingSteps, List.append_assoc, ← innerSteps_append]
      rfl

/-- The last step is that of the file name. -/
theorem stepsText_of_namedPieces {text name : List Char} {before : List (List Char)}
    (h : namedPieces text = name :: before) :
    stepsText text = leadingSteps before.reverse ++ [pieceStep name] := by
  obtain ⟨hname, voids, hvoids, hsplit⟩ := splitOn_of_namedPieces h
  rw [stepsText_of_splitOn hsplit hname, innerSteps,
    List.filterMap_cons_some (ofPiece?_of_not_void hname)]
  exact congrArg (leadingSteps _ ++ _ :: ·) (innerSteps_of_void hvoids)

/-- Another extension of the file name changes the last step. -/
theorem stepsText_setExtensionText_of_namedPieces {extension text name : List Char}
    {before : List (List Char)} (hslash : '/' ∉ extension)
    (hnamed : namedPieces text = name :: before) (hproper : isParent name = false)
    (hnew : isVoid (nameWithExtension (splitExtension name).1 extension) = false) :
    stepsText (setExtensionText extension text) =
      leadingSteps before.reverse ++
        [pieceStep (nameWithExtension (splitExtension name).1 extension)] := by
  rw [stepsText_of_splitOn (splitOn_setExtensionText hslash hnamed hproper) hnew, innerSteps,
    List.filterMap_cons_some (ofPiece?_of_not_void hnew)]
  rfl

theorem stepsText_append_slash {base : List Char} (hbase : base ≠ []) (text : List Char) :
    stepsText (base ++ '/' :: text) = stepsText base ++ innerSteps (text.splitOn '/') := by
  obtain ⟨first, rest, hpieces⟩ := List.exists_cons_of_ne_nil (List.splitOn_ne_nil '/' base)
  have habsolute : isAbsoluteText (base ++ '/' :: text) = isAbsoluteText base := by
    cases base with
    | nil => exact absurd rfl hbase
    | cons c cs =>
        by_cases hc : c = '/'
        · subst hc
          rfl
        · simp [isAbsoluteText, hc]
  rw [stepsText, stepsText, List.splitOn_append_cons_self, hpieces]
  simp [firstStep?, habsolute, innerSteps]

/-- **A relative path adds its steps** behind those of the directory that it is taken
from. -/
theorem stepsText_joinText {base text : List Char} (hbase : base ≠ [])
    (htext : isAbsoluteText text = false) :
    stepsText (joinText base text) = stepsText base ++ innerSteps (text.splitOn '/') := by
  rcases List.eq_nil_or_concat base with rfl | ⟨init, last, rfl⟩
  · exact absurd rfl hbase
  · rw [List.concat_eq_append]
    by_cases hlast : last = '/'
    · subst hlast
      have hjoin : joinText (init ++ ['/']) text = init ++ '/' :: text := by
        simp [joinText, htext]
      rw [hjoin]
      cases init with
      | nil =>
          have hpieces : ('/' :: text).splitOn '/' = [] :: text.splitOn '/' :=
            List.splitOn_append_cons_self [] text
          rw [List.nil_append, stepsText, hpieces]
          rfl
      | cons c cs =>
          have hend : innerSteps (List.splitOn '/' []) = [] := rfl
          rw [stepsText_append_slash (List.cons_ne_nil c cs),
            stepsText_append_slash (List.cons_ne_nil c cs) [], hend, List.append_nil]
    · have hjoin : joinText (init ++ [last]) text = init ++ [last] ++ '/' :: text := by
        simp [joinText, htext]
      rw [hjoin, stepsText_append_slash (by simp)]

/-! ## Other extensions -/

/-- A step whose name, if it is one, gets another extension. -/
def Step.withExtension (extension : List Char) : Step → Step
  | .name text => .name (nameWithExtension (splitExtension text).1 extension)
  | step => step

/-- Steps of which the last one gets another extension. -/
def extendLast (extension : List Char) (steps : List Step) : List Step :=
  steps.dropLast ++ (steps.getLast?.map (Step.withExtension extension)).toList

@[simp] theorem extendLast_concat (extension : List Char) (steps : List Step) (step : Step) :
    extendLast extension (steps ++ [step]) = steps ++ [step.withExtension extension] := by
  simp [extendLast]

/-- **Another extension changes the last step** and no other one. -/
theorem stepsText_setExtensionText {extension : List Char} (hne : extension ≠ [])
    (hslash : '/' ∉ extension) (text : List Char) :
    stepsText (setExtensionText extension text) = extendLast extension (stepsText text) := by
  cases hnamed : namedPieces text with
  | nil =>
      have hvoids : ∀ piece ∈ text.splitOn '/', isVoid piece = true :=
        isVoid_of_namedPieces_eq_nil hnamed
      obtain ⟨first, rest, hpieces⟩ :=
        List.exists_cons_of_ne_nil (List.splitOn_ne_nil '/' text)
      rw [hpieces] at hvoids
      obtain ⟨hfirst, hrest⟩ := List.forall_mem_cons.1 hvoids
      have hrestSteps : rest.filterMap Step.ofPiece? = [] := innerSteps_of_void hrest
      rw [setExtensionText, hnamed, stepsText, hpieces]
      dsimp only
      rw [hrestSteps, List.append_nil, firstStep?, Step.ofPiece?, if_pos hfirst]
      split
      · rfl
      · split <;> rfl
  | cons name before =>
      have hsteps := stepsText_of_namedPieces hnamed
      rw [hsteps, extendLast_concat]
      cases hparent : isParent name with
      | true =>
          rw [setExtensionText_of_fileNameText?_eq_none extension
            (by simp [fileNameText?, hnamed, hparent]), hsteps, pieceStep, if_pos hparent]
          rfl
      | false =>
          have hstem := stem_ne_nil (splitOn_of_namedPieces hnamed).1
          have hnew : nameWithExtension (splitExtension name).1 extension =
              (splitExtension name).1 ++ '.' :: extension := if_neg hne
          have hproper : ¬ isParent ((splitExtension name).1 ++ '.' :: extension) = true := by
            rw [isParent, beq_iff_eq]
            intro heq
            have hlength := congrArg List.length heq
            have hstemLength := List.length_pos_iff.2 hstem
            have hextensionLength := List.length_pos_iff.2 hne
            simp only [List.length_append, List.length_cons, List.length_nil] at hlength
            omega
          have hvoid : isVoid (nameWithExtension (splitExtension name).1 extension) = false := by
            rw [hnew]
            exact isVoid_append_dot hstem extension
          rw [stepsText_setExtensionText_of_namedPieces hslash hnamed hparent hvoid, hnew,
            pieceStep, if_neg hproper, pieceStep, hparent, if_neg Bool.false_ne_true,
            Step.withExtension, hnew]

/-- A path that names something is not empty with another extension. -/
theorem setExtensionText_ne_nil (extension : List Char) {text : List Char}
    (h : namedPieces text ≠ []) : setExtensionText extension text ≠ [] := by
  obtain ⟨name, before, hnamed⟩ := List.exists_cons_of_ne_nil h
  rw [setExtensionText, hnamed]
  dsimp only
  split
  · rintro rfl
    exact h rfl
  · have hstem := stem_ne_nil (splitOn_of_namedPieces hnamed).1
    rw [List.reverse_cons, intercalate_append_cons]
    simp [nameWithExtension_ne_nil hstem extension]

theorem withExtensionText_ne_nil {text name : List Char} (h : fileNameText? text = some name)
    (extension : List Char) : withExtensionText extension text ≠ [] := by
  obtain ⟨before, hnamed, hproper⟩ := namedPieces_of_fileNameText? h
  obtain ⟨rest, hrest, -⟩ := namedPieces_shortenedText hnamed hproper
  rw [withExtensionText_eq_set]
  exact setExtensionText_ne_nil extension (by simp [hrest])

/-- **Without its extension** a path ends with the stem of its file name. -/
theorem stepsText_withExtensionText_nil {text name : List Char} {before : List (List Char)}
    (hnamed : namedPieces text = name :: before)
    (hstem : isName (splitExtension name).1 = true) :
    stepsText (withExtensionText [] text) =
      leadingSteps before.reverse ++ [.name (splitExtension name).1] := by
  have hproper : ∀ {piece : List Char}, (splitExtension piece).1 = (splitExtension name).1 →
      isParent piece = false := by
    intro piece hpiece
    rw [Bool.eq_false_iff]
    intro hparent
    have hnot := isName_stem_of_isParent hparent
    rw [hpiece, hstem] at hnot
    cases hnot
  obtain ⟨hvoid, hup⟩ : isVoid (splitExtension name).1 = false ∧
      isParent (splitExtension name).1 = false := by simpa [isName] using hstem
  obtain ⟨rest, hrest, hsame⟩ := namedPieces_shortenedText hnamed (hproper rfl)
  have hname : nameWithExtension (splitExtension rest).1 [] = (splitExtension name).1 := by
    rw [nameWithExtension, if_pos rfl, hsame]
  rw [withExtensionText_eq_set, stepsText_setExtensionText_of_namedPieces (by simp) hrest
    (hproper hsame) (hname ▸ hvoid), hname, pieceStep, hup, if_neg Bool.false_ne_true]

end ElmClasses.Path
