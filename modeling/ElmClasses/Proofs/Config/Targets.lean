import ElmClasses.Config
import ElmClasses.Proofs.Config.OptionValues
import ElmClasses.Proofs.Elm.ModuleName
import ElmClasses.Proofs.Path.Directories
import ElmClasses.Proofs.Path.Steps
import ElmClasses.Proofs.Text.CaseMapping

/-!
# Files and names of formats

A format that gives no file gets one from its tag: the main file loses its extension, the
name of the tag is taken from there as if from a directory, and the path that this leads
to gets the extension of a module. So the name of a tag is read as a path. It may go
through directories or start at the root, and what follows its last dot is an extension,
which gives way to the new one. Two tags lead to one file if their paths differ in nothing
else, and a tag without any step of its own leads back to the main file.

A tag whose name is the name of a file does neither. It keeps its stem, so that the files
of two such tags are one only if the stems are, and no such file is the main one. A name
without dot is its own stem.

## Main results

* `target_isEquivalent_iff`: which tags lead to one file, and which to the main one.
* `moduleNameOfPath_target`: the file of a format names its module.
-/

namespace ElmClasses.Config

open ElmClasses.Path

/-- The extension of a module file. -/
def moduleExtension : List Char := ['e', 'l', 'm']

/-- The name of a tag without what counts as its extension. -/
def tagStem (tag : String) : List Char :=
  (splitExtension (tagName tag).toList).1

/-- Whether the name of a tag is the name of a file, and still is without extension. -/
def NamesFile (tag : String) : Prop :=
  '/' ∉ (tagName tag).toList ∧ isName (tagStem tag) = true

instance (tag : String) : Decidable (NamesFile tag) :=
  inferInstanceAs (Decidable (_ ∧ _))

/-- The steps to the file of a format that gives none. -/
def derivedSteps (config : Config) (tag : String) : List Step :=
  let text := (tagName tag).toList
  extendLast moduleExtension
    (if isAbsoluteText text then stepsText text
    else stepsText (withExtensionText [] config.outputFile.text.toList) ++
      innerSteps (text.splitOn '/'))

variable {config : Config} {format : Format}

theorem target_path (hformat : format.outputFile = none) (tag : String) :
    (config.target tag format).path.text.toList =
      setExtensionText moduleExtension
        (joinText (withExtensionText [] config.outputFile.text.toList) (tagName tag).toList) := by
  simp [target, hformat, withExtension, join, setExtension, moduleExtension]

/-- The path of a format that gives no file takes the derived steps. -/
theorem stepsText_target {name : List Char}
    (hfile : fileNameText? config.outputFile.text.toList = some name)
    (hformat : format.outputFile = none) (tag : String) :
    stepsText (config.target tag format).path.text.toList = config.derivedSteps tag := by
  rw [target_path hformat, stepsText_setExtensionText (by decide) (by decide), derivedSteps]
  refine congrArg (extendLast moduleExtension) ?_
  cases habsolute : isAbsoluteText (tagName tag).toList with
  | true => rw [joinText, if_pos habsolute, if_pos rfl]
  | false =>
      rw [stepsText_joinText (withExtensionText_ne_nil hfile []) habsolute,
        if_neg Bool.false_ne_true]

theorem derivedSteps_of_namesFile (config : Config) {tag : String} (htag : NamesFile tag) :
    config.derivedSteps tag =
      stepsText (withExtensionText [] config.outputFile.text.toList) ++
        [.name (tagStem tag ++ '.' :: moduleExtension)] := by
  obtain ⟨hslash, hstem⟩ := htag
  have habsolute : ¬ isAbsoluteText (tagName tag).toList = true := by
    intro h
    unfold isAbsoluteText at h
    split at h
    · next rest htext => exact hslash (htext ▸ List.mem_cons_self)
    · cases h
  have hpieces : (tagName tag).toList.splitOn '/' = [(tagName tag).toList] := by
    have hsingle : (['/'].intercalate [(tagName tag).toList]).splitOn '/' =
        [(tagName tag).toList] :=
      List.splitOn_intercalate '/' (by simpa using hslash) (by simp)
    rwa [List.intercalate_singleton] at hsingle
  obtain ⟨hvoid, hparent⟩ : isVoid (tagName tag).toList = false ∧
      isParent (tagName tag).toList = false := by
    simpa [isName] using isName_of_isName_stem hstem
  have hstep : innerSteps [(tagName tag).toList] = [.name (tagName tag).toList] := by
    simp [innerSteps, ofPiece?_of_not_void hvoid, pieceStep, hparent]
  rw [derivedSteps, if_neg habsolute, hpieces, hstep, extendLast_concat]
  rfl

/-- The file of a tag that names one lies below a directory that the main file is not in. -/
theorem derivedSteps_ne_outputFile {name : List Char}
    (hfile : fileNameText? config.outputFile.text.toList = some name) {tag : String}
    (htag : NamesFile tag) :
    config.derivedSteps tag ≠ stepsText config.outputFile.text.toList := by
  obtain ⟨before, hnamed, hproper⟩ := namedPieces_of_fileNameText? hfile
  have hmain : stepsText config.outputFile.text.toList =
      leadingSteps before.reverse ++ [.name name] := by
    rw [stepsText_of_namedPieces hnamed, pieceStep, hproper, if_neg Bool.false_ne_true]
  rw [derivedSteps_of_namesFile config htag, hmain]
  intro heq
  obtain ⟨hbase, hlast⟩ := List.append_inj' heq (by simp)
  -- The main file would have the stem of the tag, and then the main path without extension
  -- ends with a step to that stem, so that the two sides differ in their lengths.
  have hstem : (splitExtension name).1 = tagStem tag := by
    have hname : tagStem tag ++ '.' :: moduleExtension = name := by simpa using hlast
    have hne : tagStem tag ≠ [] := by
      intro hnil
      have hisName := htag.2
      rw [hnil] at hisName
      cases hisName
    rw [← hname, splitExtension_append hne (by decide)]
  rw [stepsText_withExtensionText_nil hnamed (hstem ▸ htag.2)] at hbase
  simpa using congrArg List.length hbase

/-- **The files of two tags are one file exactly if their steps are the same**, and one of
them is the main file exactly if it has the steps of that. Tags that name files lead to
one file only if they have one stem, and never to the main file. -/
theorem target_isEquivalent_iff {name : List Char} {other : Format}
    (hfile : fileNameText? config.outputFile.text.toList = some name)
    (hformat : format.outputFile = none) (hother : other.outputFile = none)
    (tag otherTag : String) :
    let file := (config.target tag format).path
    let otherFile := (config.target otherTag other).path
    (file.isEquivalent otherFile = true ↔
      config.derivedSteps tag = config.derivedSteps otherTag) ∧
    (file.isEquivalent config.outputFile = true ↔
      config.derivedSteps tag = stepsText config.outputFile.text.toList) ∧
    (NamesFile tag →
      (NamesFile otherTag →
        (file.isEquivalent otherFile = true ↔ tagStem tag = tagStem otherTag)) ∧
      file.isEquivalent config.outputFile = false) := by
  have hsteps := stepsText_target hfile hformat tag
  have hsame : (config.target tag format).path.isEquivalent
        (config.target otherTag other).path = true ↔
      config.derivedSteps tag = config.derivedSteps otherTag := by
    rw [isEquivalent, hsteps, stepsText_target hfile hother otherTag, beq_iff_eq]
  have hmain : (config.target tag format).path.isEquivalent config.outputFile = true ↔
      config.derivedSteps tag = stepsText config.outputFile.text.toList := by
    rw [isEquivalent, hsteps, beq_iff_eq]
  refine ⟨hsame, hmain, fun htag => ⟨fun hotherTag => ?_, ?_⟩⟩
  · rw [hsame, derivedSteps_of_namesFile config htag, derivedSteps_of_namesFile config hotherTag]
    simp
  · rw [Bool.eq_false_iff]
    exact fun h => derivedSteps_ne_outputFile hfile htag (hmain.1 h)

/-- With tags that name files: they lead to one file only if they differ behind a dot. -/
theorem target_isEquivalent_svg :
    let file (tag : String) := (default.target tag Format.string).path
    (file "svg").isEquivalent (file "html") = false ∧
    (file "svg").isEquivalent default.outputFile = false ∧
    (file "svg.inline").isEquivalent (file "svg.sprite") = true := by
  have hfile : fileNameText? default.outputFile.text.toList =
      some ['T', 'W', '.', 'e', 'l', 'm'] := by decide
  have hstring : Format.string.outputFile = none := rfl
  obtain ⟨-, -, hsvg⟩ := target_isEquivalent_iff hfile hstring hstring "svg" "html"
  obtain ⟨-, -, hinline⟩ :=
    target_isEquivalent_iff hfile hstring hstring "svg.inline" "svg.sprite"
  obtain ⟨hhtml, hmain⟩ := hsvg (by decide)
  refine ⟨?_, hmain, ((hinline (by decide)).1 (by decide)).2 (by decide)⟩
  rw [Bool.eq_false_iff, Ne, hhtml (by decide)]
  decide

/-- Two tags that options give, and with them two formats, with one file between them; the
names of their modules differ. A tag without text has the main file. -/
theorem target_path_svg_inline :
    let constant : Json := .object [("type", .string "String")]
    let options : Json := .object [("formats", .object
      [("svg.inline", constant), ("svg.sprite", constant), ("", constant)])]
    let config := (ofOptions (some options)).value
    config.formats.entries.map (fun e => (e.1, config.target e.1 e.2)) =
      [("", ⟨⟨"src/TW.elm"⟩, "TW."⟩),
       ("svg.inline", ⟨⟨"src/TW/Svg.elm"⟩, "TW.Svg.inline"⟩),
       ("svg.sprite", ⟨⟨"src/TW/Svg.elm"⟩, "TW.Svg.sprite"⟩)] ∧
    config.outputFile = ⟨"src/TW.elm"⟩ := by
  decide

/-!
## Names of derived modules

The file of a format and the name of its module are derived from the main module in two
ways. The file is a path: the main file loses its extension, the name of the tag is taken
from there, and the extension of a module is put to that. The name is a text: that of the
main module, a dot, and the name of the tag. The compiler compares them, and finds the
module only if the file names the module that its header does.

They agree as long as the name of the main module was read off the main file, and there
are names behind the source directory to read it off. A tag of one piece without dots adds
one name to the path. It has a capital in front or a character beyond ASCII, so it is never
taken for a source directory.
-/

open Text
open Elm (sourceDirectory moduleNameOfNames)
open ElmClasses.Path (bareNames isVoid isName isAbsoluteText)

/-- The name that options give to the main module. -/
def givenModuleName? (options : Option Json) : Option String :=
  match options with
  | some (.object fields) => (stringOption? moduleNameNames fields).value
  | _ => none

/-- A main module without a given name is named by its file. -/
theorem moduleName_ofOptions {options : Option Json} (h : givenModuleName? options = none) :
    (ofOptions options).value.moduleName =
      Elm.moduleNameOfPath (ofOptions options).value.outputFile := by
  cases options with
  | none => rfl
  | some value =>
      cases value with
      | object fields =>
          have hvalue := value_ofFields fields
          simp only [givenModuleName?] at h
          rw [h] at hvalue
          rw [ofOptions, hvalue]
          rfl
      | null => rfl
      | bool value => rfl
      | number mantissa places => rfl
      | string value => rfl
      | array items => rfl

/-- What stands for a character in upper case is no slash, no dot and no small letter. -/
theorem ne_of_isUpperForm {c d : Char} (h : IsUpperForm c) (hd : d ∈ ['/', '.', 's']) :
    c ≠ d := by
  have hnone : ['/', '.', 's'].all (fun d => !decide (IsUpperForm d)) = true := by decide
  rintro rfl
  have hc := List.all_eq_true.1 hnone c hd
  simp [h] at hc

section Capitalized

variable {text : List Char}

theorem capitalized_ne_nil (h : text ≠ []) : capitalized text ≠ [] := by
  obtain ⟨c, cs, rfl⟩ := List.exists_cons_of_ne_nil h
  have hupper : uppercase c ≠ [] := by
    rcases uppercase_cases c with hsame | ⟨hne, -⟩
    · simp [hsame]
    · exact hne
  exact List.append_ne_nil_of_left_ne_nil hupper cs

theorem notMem_capitalized {d : Char} (hd : d ∈ ['/', '.']) (h : d ∉ text) :
    d ∉ capitalized text := by
  cases text with
  | nil => exact h
  | cons c cs =>
      obtain ⟨hc, hcs⟩ : d ≠ c ∧ d ∉ cs := by simpa using h
      intro hmem
      rcases List.mem_append.1 hmem with hupper | htail
      · rcases uppercase_cases c with hsame | ⟨-, hforms⟩
        · rw [hsame, List.mem_singleton] at hupper
          exact hc hupper
        · exact ne_of_isUpperForm (hforms d hupper) (List.mem_append_left ['s'] hd) rfl
      · exact hcs htail

/-- No capital is the first letter of the customary source directory. -/
theorem capitalized_ne_source : capitalized text ≠ sourceDirectory := by
  cases text with
  | nil => decide
  | cons c cs =>
      intro heq
      rcases uppercase_cases c with hsame | ⟨hne, hforms⟩
      · rw [capitalized, hsame, List.singleton_append] at heq
        obtain ⟨rfl, -⟩ := List.cons.inj heq
        exact absurd hsame (by decide)
      · obtain ⟨d, ds, hupper⟩ := List.exists_cons_of_ne_nil hne
        rw [capitalized, hupper, List.cons_append] at heq
        obtain ⟨rfl, -⟩ := List.cons.inj heq
        exact ne_of_isUpperForm (hforms 's' (hupper ▸ List.mem_cons_self)) (by decide) rfl

end Capitalized

/-- A text without slashes and dots is the name of a file without extension. -/
theorem bareNames_plain {text : List Char} (hne : text ≠ []) (hslash : '/' ∉ text)
    (hdot : '.' ∉ text) :
    isAbsoluteText text = false ∧ Path.namedPieces text = [text] ∧ bareNames text = [text] := by
  obtain ⟨c, cs, rfl⟩ := List.exists_cons_of_ne_nil hne
  have hc : c ≠ '.' := fun heq => hdot (heq ▸ List.mem_cons_self)
  have hvoid : isVoid (c :: cs) = false := by simp [isVoid, hc]
  have hparent : Path.isParent (c :: cs) = false := by simp [Path.isParent, hc]
  have hnamed : Path.namedPieces (c :: cs) = [c :: cs] :=
    @Path.namedPieces_of_splitOn _ _ [] [] (List.splitOn_eq_singleton hslash) hvoid (by simp)
  refine ⟨?_, hnamed, ?_⟩
  · have hfirst : c ≠ '/' := fun heq => hslash (heq ▸ List.mem_cons_self)
    rw [Path.isAbsoluteText_cons]
    simpa using hfirst
  · have hstem : Path.splitExtension (c :: cs) = (c :: cs, none) := by
      rcases Path.splitExtension_cases (c :: cs) with hnone | ⟨stem, extension, -, -, heq⟩
      · exact hnone
      · exact absurd (by rw [heq]; simp) hdot
    rw [Path.bareNames_eq, hnamed, Path.stemNames, hstem]
    simp [isName, hvoid, hparent]

/-- A tag of one piece without dots adds its name to those of the main file. -/
theorem bareNames_target {config : Config} {tag : String} {format : Format} (hne : tag ≠ "")
    (hslash : '/' ∉ tag.toList) (hdot : '.' ∉ tag.toList) (hfile : format.outputFile = none) :
    bareNames (config.target tag format).path.text.toList =
      bareNames config.outputFile.text.toList ++ [(tagName tag).toList] := by
  have htag : (tagName tag).toList = capitalized tag.toList := by
    rw [tagName, String.toList_ofList]
  have hnil : tag.toList ≠ [] := by simpa using hne
  obtain ⟨hrelative, hnamed, hbare⟩ := bareNames_plain (capitalized_ne_nil hnil)
    (notMem_capitalized (by decide) hslash) (notMem_capitalized (by decide) hdot)
  rw [target_path hfile, htag,
    Path.bareNames_setExtensionText (by decide) (by decide) (by decide),
    Path.bareNames_joinText _ hrelative (by simp [hnamed]), hbare]
  rfl

/-- **The file of a format names its module**: where the options give the main module no
name, and the main file is named behind a source directory, the name that a derived module
has in its header is the one that is read off its path. -/
theorem moduleNameOfPath_target {options : Option Json} (hname : givenModuleName? options = none)
    (hsource : sourceDirectory ∈ bareNames (ofOptions options).value.outputFile.text.toList)
    (hbehind : (bareNames (ofOptions options).value.outputFile.text.toList).getLast? ≠
      some sourceDirectory) {tag : String} (hne : tag ≠ "") (hslash : '/' ∉ tag.toList)
    (hdot : '.' ∉ tag.toList) {format : Format} (hfile : format.outputFile = none)
    (hmodule : format.moduleName = none) :
    let target := (ofOptions options).value.target tag format
    Elm.moduleNameOfPath target.path = target.moduleName := by
  intro target
  let config := (ofOptions options).value
  have htag : (tagName tag).toList ≠ sourceDirectory := by
    rw [tagName, String.toList_ofList]
    exact capitalized_ne_source
  have hmain : config.moduleName.toList =
      moduleNameOfNames (bareNames config.outputFile.text.toList) := by
    rw [moduleName_ofOptions hname, Elm.moduleNameOfPath, String.toList_ofList]
    rfl
  have hheader : target.moduleName.toList =
      config.moduleName.toList ++ '.' :: (tagName tag).toList := by
    simp [target, config, Config.target, hfile, hmodule]
  have hpath : (Elm.moduleNameOfPath target.path).toList =
      moduleNameOfNames (bareNames target.path.text.toList) := by
    rw [Elm.moduleNameOfPath, String.toList_ofList]
    rfl
  rw [← String.toList_inj, hpath, hheader, hmain, bareNames_target hne hslash hdot hfile,
    Elm.moduleNameOfNames_concat hsource hbehind htag]

/-- A main file behind two source directories, with a dot in its name and more behind it,
and a tag with a letter that has a capital of two. -/
theorem moduleNameOfPath_target_eszett :
    let options : Option Json :=
      some (.object [("output-file", .string "../src/lib/src//My.App.elm/.")])
    let target := (ofOptions options).value.target "ßvg" Format.string
    target.path = ⟨"../src/lib/src//My.App/SSvg.elm"⟩ ∧
      Elm.moduleNameOfPath target.path = target.moduleName ∧ target.moduleName = "My.App.SSvg" := by
  intro options target
  have hmatch : Elm.moduleNameOfPath target.path = target.moduleName :=
    @moduleNameOfPath_target options (by decide) (by decide) (by decide) "ßvg" (by decide)
      (by decide) (by decide) Format.string rfl rfl
  exact ⟨by decide +kernel, hmatch, by decide +kernel⟩

end ElmClasses.Config
