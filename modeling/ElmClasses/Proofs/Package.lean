import ElmClasses.Proofs.Config.Targets
import ElmClasses.Proofs.Dictionary
import ElmClasses.Proofs.Elm.ModuleName
import ElmClasses.Proofs.Path.Directories
import ElmClasses.Publication
import ElmClasses.Run

/-!
# Files and names in a package

A package is described by its metadata and lies in some directory. The name of its main
module is settled before paths are taken from that directory, and so are all names that
the metadata give, and those that follow the main module. Only the name of a format that
gives a file and no name is read off the file where it lies, and so depends on the
directory unless the file is absolute or lies below a source directory of the package.

## Main results

* `moduleNamesAt_constant_iff`: which packages have the same module names wherever they
  are checked out.
* `target_resolved_iff`: which formats have the same path both ways.
-/

namespace ElmClasses.Package

/-- The names of the modules of a package in the directory `root`, the main one first. -/
def moduleNamesAt (metadata : Json) (root : Path) : Option (List String) :=
  (ofMetadata? metadata root).value.map fun package =>
    (Run.start package.config).modules.map (·.moduleName)

/-- Whether a format has the same module name in every directory: it gives the name, or
no file to read it off, or a file that names one module from everywhere. -/
def HasFixedName (format : Format) : Prop :=
  format.moduleName = none → ∀ file ∈ format.outputFile,
    file.isAbsolute = true ∨ Elm.sourceDirectory ∈ Path.bareNames file.text.toList

instance (format : Format) : Decidable (HasFixedName format) :=
  inferInstanceAs (Decidable (_ → _))

/-- The module name of a format of a package in the directory `root`. -/
def formatNameAt (root : Path) (config : Config) (tag : String) (format : Format) : String :=
  ((resolveConfig root config).target tag (resolveFormat root format)).moduleName

theorem formatNameAt_constant_iff (config : Config) (tag : String) (format : Format) :
    (∀ root₁ root₂, formatNameAt root₁ config tag format =
      formatNameAt root₂ config tag format) ↔ HasFixedName format := by
  simp only [formatNameAt, Config.target, resolveFormat, resolveConfig, HasFixedName]
  cases format.moduleName with
  | some name => simp
  | none =>
      cases format.outputFile with
      | none => simp
      | some file =>
          simpa using Elm.moduleNameOfPath_join_constant_iff file

theorem ofMetadata?_eq {metadata options : Json} {input : String}
    (hoptions : metadata.field? metadataKey = some options)
    (hinput : (options.field? inputName).bind Json.string? = some input) (root : Path) :
    (ofMetadata? metadata root).value = some ⟨root.join ⟨input⟩,
      resolveConfig root (Config.ofOptions (some options)).value⟩ := by
  simp [ofMetadata?, hoptions, hinput]

theorem moduleNamesAt_eq {metadata options : Json} {input : String}
    (hoptions : metadata.field? metadataKey = some options)
    (hinput : (options.field? inputName).bind Json.string? = some input) (root : Path) :
    let config := (Config.ofOptions (some options)).value
    moduleNamesAt metadata root = some (config.moduleName ::
      config.formats.entries.map fun e => formatNameAt root config e.1 e.2) := by
  rw [moduleNamesAt, ofMetadata?_eq hoptions hinput]
  simp [Run.modules, Run.start, Run.draftOf, resolveConfig, Dictionary.mapValues,
    formatNameAt, Elm.ModuleDraft.new, Function.comp_def]

/-- **The module names of a package are the same in every directory exactly if each of
its formats has a fixed name.** A package whose metadata name a style sheet has module
names in every directory, and the name of the main module never depends on it. -/
theorem moduleNamesAt_constant_iff {metadata options : Json} {input : String}
    (hoptions : metadata.field? metadataKey = some options)
    (hinput : (options.field? inputName).bind Json.string? = some input) :
    let config := (Config.ofOptions (some options)).value
    (∀ root, ∃ names, moduleNamesAt metadata root = some (config.moduleName :: names)) ∧
    ((∀ root₁ root₂, moduleNamesAt metadata root₁ = moduleNamesAt metadata root₂) ↔
      ∀ e ∈ config.formats.entries, HasFixedName e.2) := by
  intro config
  have hnames := moduleNamesAt_eq hoptions hinput
  refine ⟨fun root => ⟨_, hnames root⟩, ?_, ?_⟩
  · intro hconstant e he
    refine (formatNameAt_constant_iff config e.1 e.2).1 fun root₁ root₂ => ?_
    have hsame := hconstant root₁ root₂
    rw [hnames, hnames] at hsame
    obtain ⟨-, htails⟩ := List.cons.inj (Option.some.inj hsame)
    exact List.map_inj_left.1 htails e he
  · intro hfixed root₁ root₂
    rw [hnames, hnames]
    have htails := List.map_congr_left fun e he =>
      (formatNameAt_constant_iff config e.1 e.2).2 (hfixed e he) root₁ root₂
    rw [htails]

/-- Files below a source directory of the package, given names and no files at all are
safe; a file in a directory of another name is not. -/
theorem moduleNamesAt_constant_gen :
    let package (file : String) : Json := .object [("tw-elm", .object [
      ("input", .string "a.css"),
      ("formats", .object [
        ("svg", .object [("elm-file", .string "gen/A.elm"), ("elm-module-name", .string "B")]),
        ("html", .null),
        ("string", .object [("elm-file", .string file)])])])]
    (∀ root₁ root₂, moduleNamesAt (package "gen/src/Classes.elm") root₁ =
      moduleNamesAt (package "gen/src/Classes.elm") root₂) ∧
    ¬ ∀ root₁ root₂, moduleNamesAt (package "gen/Classes.elm") root₁ =
      moduleNamesAt (package "gen/Classes.elm") root₂ := by
  intro package
  constructor
  · have hoptions : (package "gen/src/Classes.elm").field? metadataKey = some _ := rfl
    exact (moduleNamesAt_constant_iff hoptions rfl).2.2 (by decide)
  · intro hconstant
    have hfixed := (moduleNamesAt_constant_iff rfl rfl).2.1 hconstant
    revert hfixed
    decide

/-- The name of a format below `gen` takes up the directories between a source directory
and the package. -/
theorem moduleNamesAt_below_source :
    let metadata : Json := .object [("tw-elm", .object [
      ("input", .string "a.css"),
      ("formats", .object [("string", .object [("elm-file", .string "gen/Classes.elm")])])])]
    moduleNamesAt metadata ⟨"/home/app"⟩ = some ["TW", "Classes"] ∧
      moduleNamesAt metadata ⟨"/home/src/app"⟩ = some ["TW", "app.gen.Classes"] := by
  decide

/-!
## Files

The files that the metadata of a package give are taken from the directory of the package,
and the file of a format that gives none follows the main one. There are two ways to such
a file: the main file can be taken from the directory first, or the file of the format can
be derived first and then be taken from the directory. Both ways lead to one path, except
where the derived path has no name in it.

That takes a tag without any name, such as the empty one, and a main file whose stem is a
dot, such as `..x`. Its extension is all of its name, so nothing but dots and slashes is
left of both. Then the extension of a module finds no file name below the directory. It is
put to the name of the directory itself, which gives a file beside the directory
(`EscapesRoot`).
-/

open ElmClasses.Path
open Config (moduleExtension)

/-- The path that a tag leads to from the path of a main module. -/
def derivedText (file tag : List Char) : List Char :=
  setExtensionText moduleExtension (joinText (withExtensionText [] file) tag)

/-- Whether a relative path has no name in it. -/
def LeadsNowhere (text : List Char) : Prop :=
  isAbsoluteText text = false ∧ namedPieces text = []

instance (text : List Char) : Decidable (LeadsNowhere text) :=
  inferInstanceAs (Decidable (_ ∧ _))

/-- Whether the file of a format lies beside the directory of a package that has a name: the
format gives no file, and both the main file without its extension and the tag lead nowhere. -/
def EscapesRoot (root : Path) (config : Config) (tag : String) (format : Format) : Prop :=
  format.outputFile = none ∧ fileNameText? root.text.toList ≠ none ∧
    LeadsNowhere (withExtensionText [] config.outputFile.text.toList) ∧
    LeadsNowhere (Config.tagName tag).toList

instance (root : Path) (config : Config) (tag : String) (format : Format) :
    Decidable (EscapesRoot root config tag format) :=
  inferInstanceAs (Decidable (_ ∧ _))

section Derived

variable {file tag : List Char}

theorem isAbsoluteText_derivedText (hne : withExtensionText [] file ≠ []) :
    isAbsoluteText (derivedText file tag) = (isAbsoluteText tag || isAbsoluteText file) := by
  rw [derivedText, isAbsoluteText_setExtensionText (by decide)]
  cases htag : isAbsoluteText tag with
  | true => rw [joinText, if_pos htag, htag, Bool.true_or]
  | false =>
      rw [isAbsoluteText_joinText hne htag, isAbsoluteText_withExtensionText (by simp),
        Bool.false_or]

/-- An absolute file, and an absolute tag, leave no part to the directory. -/
theorem derivedText_joinText_of_absolute (root : List Char)
    (hne : withExtensionText [] file ≠ [])
    (h : isAbsoluteText file = true ∨ isAbsoluteText tag = true) :
    derivedText (joinText root file) tag = joinText root (derivedText file tag) := by
  have habsolute : isAbsoluteText (derivedText file tag) = true := by
    rw [isAbsoluteText_derivedText hne, Bool.or_eq_true]
    exact h.symm
  have hresolved : joinText root (derivedText file tag) = derivedText file tag := by
    rw [joinText, if_pos habsolute]
  rw [hresolved]
  rcases h with hfile | htag
  · rw [joinText, if_pos hfile]
  · rw [derivedText, derivedText, joinText, if_pos htag, joinText, if_pos htag]

/-- **A path is derived below a directory as it is without it**, unless it leads nowhere and
the directory has a name. -/
theorem derivedText_joinText_eq_iff (root : List Char) {name : List Char}
    (hname : fileNameText? file = some name) :
    derivedText (joinText root file) tag = joinText root (derivedText file tag) ↔
      ¬ (fileNameText? root ≠ none ∧ LeadsNowhere (withExtensionText [] file) ∧
        LeadsNowhere tag) := by
  have hne := withExtensionText_ne_nil hname []
  have hbare : isAbsoluteText (withExtensionText [] file) = isAbsoluteText file :=
    isAbsoluteText_withExtensionText (by simp) file
  by_cases habsolute : isAbsoluteText file = true ∨ isAbsoluteText tag = true
  · refine iff_of_true (derivedText_joinText_of_absolute root hne habsolute) ?_
    rintro ⟨-, ⟨hfile, -⟩, ⟨htag, -⟩⟩
    rw [hbare] at hfile
    simp [hfile, htag] at habsolute
  · obtain ⟨hfile, htag⟩ : isAbsoluteText file = false ∧ isAbsoluteText tag = false := by
      simpa using habsolute
    have hnamed : namedPieces file ≠ [] := by
      obtain ⟨before, hbefore, -⟩ := namedPieces_of_fileNameText? hname
      simp [hbefore]
    -- Both ways put the opening of the directory in front of what is derived without it.
    have hleft : derivedText (joinText root file) tag =
        setExtensionText moduleExtension
          (opening root ++ joinText (withExtensionText [] file) tag) := by
      rw [derivedText, joinText_eq_append hfile, withExtensionText_opening [] root hnamed,
        joinText_append hne (opening root) htag]
    have hright : joinText root (derivedText file tag) =
        opening root ++ derivedText file tag := by
      refine joinText_eq_append ?_ root
      rw [isAbsoluteText_derivedText hne, hfile, htag, Bool.or_false]
    have hnowhere : LeadsNowhere (withExtensionText [] file) ∧ LeadsNowhere tag ↔
        namedPieces (joinText (withExtensionText [] file) tag) = [] := by
      rw [namedPieces_joinText_eq_nil_iff _ htag, LeadsNowhere, LeadsNowhere, hbare]
      simp [hfile, htag]
    rw [hleft, hright, derivedText, hnowhere]
    by_cases hnil : namedPieces (joinText (withExtensionText [] file) tag) = []
    · have hstays : setExtensionText moduleExtension
          (joinText (withExtensionText [] file) tag) =
            joinText (withExtensionText [] file) tag := by
        rw [setExtensionText, hnil]
      rw [hstays, setExtensionText_opening_eq_iff (by decide) (by decide) root hnil]
      simp [hnil]
    · rw [setExtensionText_opening moduleExtension root hnil]
      simp [hnil]

end Derived

theorem path_eq_iff (path other : Path) : path = other ↔ path.text.toList = other.text.toList := by
  rw [String.toList_inj]
  exact ⟨congrArg Path.text, fun h => by cases path; cases other; cases h; rfl⟩

/-- The path of a format under a configuration that is taken from a directory. -/
theorem target_resolveConfig_iff (root : Path) {config : Config} {name : List Char}
    (hname : fileNameText? config.outputFile.text.toList = some name) (tag : String)
    (format : Format) :
    ((resolveConfig root config).target tag (resolveFormat root format)).path =
        root.join (config.target tag format).path ↔
      ¬ EscapesRoot root config tag format := by
  cases hformat : format.outputFile with
  | some file => simp [Config.target, resolveFormat, hformat, EscapesRoot]
  | none =>
      have hresolved : (resolveFormat root format).outputFile = none := by
        rw [resolveFormat, hformat, Option.map_none]
      have hfile : (resolveConfig root config).outputFile.text.toList =
          joinText root.text.toList config.outputFile.text.toList := by
        simp [resolveConfig, join]
      have hjoin : (root.join (config.target tag format).path).text.toList =
          joinText root.text.toList (config.target tag format).path.text.toList := by
        simp [join]
      rw [path_eq_iff, Config.target_path hresolved, hfile, hjoin, Config.target_path hformat]
      exact (derivedText_joinText_eq_iff root.text.toList hname).trans
        (by simp [EscapesRoot, hformat])

/-- **The path of a format, taken from the directory of its package, is the path of the
format in that directory**, unless it escapes from there. Metadata that name a style sheet
describe a package in every directory, with the formats that their options give. -/
theorem target_resolved_iff {metadata options : Json} {input : String}
    (hoptions : metadata.field? metadataKey = some options)
    (hinput : (options.field? inputName).bind Json.string? = some input) {name : List Char}
    (hname : fileNameText? (Config.ofOptions (some options)).value.outputFile.text.toList =
      some name) (root : Path) :
    let config := (Config.ofOptions (some options)).value
    ∃ package, (ofMetadata? metadata root).value = some package ∧
      ∀ tag : String,
        package.config.formats.find? tag =
          (config.formats.find? tag).map (resolveFormat root) ∧
        ∀ format ∈ config.formats.find? tag,
          ((package.config.target tag (resolveFormat root format)).path =
              root.join (config.target tag format).path ↔
            ¬ EscapesRoot root config tag format) := by
  intro config
  refine ⟨_, ofMetadata?_eq hoptions hinput root, fun tag => ⟨?_, fun format _ => ?_⟩⟩
  · exact Dictionary.find?_mapValues _ config.formats tag
  · exact target_resolveConfig_iff root hname tag format

/-- A format with a file, one without, and an empty tag below a main file with a name. -/
theorem target_resolved_project :
    let options : Json := .object [
      ("input", .string "styles/main.css"), ("elm-file", .string "frontend/src/Tailwind.elm"),
      ("formats", .object [
        ("svg", .object [("elm-file", .string "frontend/src/Svg.elm")]),
        ("string", .object []), ("", .object [])])]
    let config := (Config.ofOptions (some options)).value
    let root : Path := ⟨"/project"⟩
    ∃ package, (ofMetadata? (.object [("tw-elm", options)]) root).value = some package ∧
      ∀ e ∈ config.formats.entries,
        (package.config.target e.1 (resolveFormat root e.2)).path =
          root.join (config.target e.1 e.2).path := by
  intro options config root
  have hname : fileNameText? config.outputFile.text.toList = some "Tailwind.elm".toList := by
    decide
  have hinside : ∀ e ∈ config.formats.entries, ¬ EscapesRoot root config e.1 e.2 := by decide
  have hoptions : (Json.object [("tw-elm", options)]).field? metadataKey = some options := rfl
  obtain ⟨package, hpackage, hformats⟩ := target_resolved_iff hoptions rfl hname root
  refine ⟨package, hpackage, fun e he => ?_⟩
  have hfind := (config.formats.find?_eq_some_iff e.1 e.2).2 he
  exact ((hformats e.1).2 e.2 hfind).2 (hinside e he)

/-- An empty tag, and a main file that is all extension: the file of the format lies beside
the package and not in it. -/
theorem target_escapes_root :
    let metadata : Json := .object [("tw-elm", .object [
      ("input", .string "a.css"), ("elm-file", .string "..x/"),
      ("formats", .object [("", .object [("type", .string "String")])])])]
    let root : Path := ⟨"/home/app"⟩
    let config := (Config.ofOptions (metadata.field? metadataKey)).value
    fileNameText? config.outputFile.text.toList = some "..x".toList ∧
      config.formats.entries.map (fun e => root.join (config.target e.1 e.2).path) =
        [⟨"/home/app/./"⟩] ∧
      (ofMetadata? metadata root).value.map (fun package =>
        package.config.formats.entries.map fun e => (package.config.target e.1 e.2).path) =
          some [⟨"/home/app.elm"⟩] := by
  decide

end ElmClasses.Package
