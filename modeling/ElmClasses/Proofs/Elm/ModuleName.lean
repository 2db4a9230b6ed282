import ElmClasses.Elm.Name
import ElmClasses.Proofs.Path.Names

/-!
# Module names of files in directories

A module name is read off the names behind the last source directory of a path. So a
path that goes through a source directory itself names one module, whatever directory
it is taken from, and so does an absolute path. Any other path takes what it finds on
the way: from a directory that lies below a source directory, the name of the module
starts with names that are not part of the path.

## Main results

* `moduleNameOfPath_join_constant_iff`: which paths name one module from everywhere.
* `bareNames_sourceFile`: the names along the path of a module.
* `moduleNameOfPath_join_sourceFile`: a path that was laid out for a module names that module.
-/

namespace ElmClasses.Elm

open ElmClasses.Path (bareNames namesText namedPieces)

/-- Names in front of a source directory do not count. -/
theorem moduleNameOfNames_append {names : List (List Char)} (h : sourceDirectory ∈ names)
    (front : List (List Char)) :
    moduleNameOfNames (front ++ names) = moduleNameOfNames names := by
  have hne : names ≠ [] := List.ne_nil_of_mem h
  have hbehind : (front ++ names).reverse.takeWhile (· != sourceDirectory) =
      names.reverse.takeWhile (· != sourceDirectory) := by
    rw [List.reverse_append, List.takeWhile_append, if_neg]
    intro hlength
    have hall := List.takeWhile_eq_self_iff.1
      ((List.takeWhile_sublist (· != sourceDirectory)).eq_of_length hlength)
    simpa using hall sourceDirectory (List.mem_reverse.2 h)
  have hlast : (front ++ names).getLast? = names.getLast? := by
    rw [List.getLast?_append, List.getLast?_eq_some_getLast hne, Option.some_or]
  have hall : (front ++ names).contains sourceDirectory = names.contains sourceDirectory := by
    simp [h]
  rw [moduleNameOfNames, hbehind, hlast, hall, moduleNameOfNames]

/-- Names behind the last source directory make up the module name. -/
theorem moduleNameOfNames_source {name : List Char} {names : List (List Char)}
    (hname : name ≠ sourceDirectory) (h : sourceDirectory ∉ names) :
    moduleNameOfNames (sourceDirectory :: name :: names) =
      ['.'].intercalate (name :: names) := by
  have hpos : ∀ n ∈ (name :: names).reverse, (n != sourceDirectory) = true := by
    intro n hn
    rcases List.mem_cons.1 (List.mem_reverse.1 hn) with rfl | hmem
    · simpa using hname
    · have hne : n ≠ sourceDirectory := fun heq => h (heq ▸ hmem)
      simpa using hne
  have hbehind : (sourceDirectory :: name :: names).reverse.takeWhile (· != sourceDirectory) =
      (name :: names).reverse := by
    rw [List.reverse_cons, List.takeWhile_append_of_pos hpos]
    simp
  have hcontains : (sourceDirectory :: name :: names).contains sourceDirectory = true := by simp
  rw [moduleNameOfNames, hbehind, List.reverse_reverse, hcontains]
  rfl

/-- The names behind the last source directory. -/
def behindSource (names : List (List Char)) : List (List Char) :=
  (names.reverse.takeWhile (· != sourceDirectory)).reverse

theorem behindSource_concat (names : List (List Char)) {name : List Char}
    (h : name ≠ sourceDirectory) :
    behindSource (names ++ [name]) = behindSource names ++ [name] := by
  rw [behindSource, List.reverse_append, List.reverse_singleton, List.singleton_append,
    List.takeWhile_cons_of_pos (by simpa using h), List.reverse_cons, behindSource]

theorem behindSource_ne_nil {names : List (List Char)} (h : names ≠ [])
    (hlast : names.getLast? ≠ some sourceDirectory) : behindSource names ≠ [] := by
  rcases List.eq_nil_or_concat names with rfl | ⟨front, last, rfl⟩
  · exact absurd rfl h
  · rw [List.concat_eq_append] at hlast ⊢
    rw [behindSource_concat front (by simpa using hlast)]
    simp

theorem moduleNameOfNames_of_behindSource {names : List (List Char)} (h : sourceDirectory ∈ names)
    (hne : behindSource names ≠ []) :
    moduleNameOfNames names = ['.'].intercalate (behindSource names) := by
  have hcontains : names.contains sourceDirectory = true := by simpa using h
  have hbehind : (behindSource names != []) = true := by simpa using hne
  rw [moduleNameOfNames, hcontains, Bool.true_and]
  exact if_pos hbehind

/-- **One more name** behind those of a module goes behind its name. -/
theorem moduleNameOfNames_concat {names : List (List Char)} {name : List Char}
    (h : sourceDirectory ∈ names) (hlast : names.getLast? ≠ some sourceDirectory)
    (hname : name ≠ sourceDirectory) :
    moduleNameOfNames (names ++ [name]) = moduleNameOfNames names ++ '.' :: name := by
  have hne := behindSource_ne_nil (List.ne_nil_of_mem h) hlast
  have hmore := behindSource_concat names hname
  rw [moduleNameOfNames_of_behindSource h hne,
    moduleNameOfNames_of_behindSource (List.mem_append_left _ h) (by simp [hmore]), hmore,
    Text.intercalate_append ['.'] hne (by simp), List.intercalate_singleton, List.append_assoc,
    List.singleton_append]

/-- A path that goes through a source directory names one module from everywhere. -/
theorem moduleNameOfPathText_joinText {text : List Char}
    (h : Path.isAbsoluteText text = false) (hsource : sourceDirectory ∈ bareNames text)
    (base : List Char) :
    moduleNameOfPathText (Path.joinText base text) = moduleNameOfPathText text := by
  have hne : namedPieces text ≠ [] := by
    intro hnil
    rw [Path.bareNames_eq, hnil] at hsource
    cases hsource
  show moduleNameOfNames (bareNames (Path.joinText base text)) =
    moduleNameOfNames (bareNames text)
  rw [Path.bareNames_joinText base h hne, moduleNameOfNames_append hsource]

/-- Any other relative path takes names from a directory below a source directory. -/
theorem head?_moduleNameOfPathText_joinText {text : List Char}
    (h : Path.isAbsoluteText text = false) (hsource : sourceDirectory ∉ bareNames text)
    (base : List Char) (c : Char) (hbase : namesText base = [sourceDirectory, [c]])
    (hbare : bareNames base = [sourceDirectory, [c]]) :
    (moduleNameOfPathText (Path.joinText base text)).head? = some c := by
  have hc : [c] ≠ sourceDirectory := fun heq => by cases heq
  have hnames : ∃ names, sourceDirectory ∉ names ∧
      bareNames (Path.joinText base text) = sourceDirectory :: [c] :: names := by
    by_cases hnil : namedPieces text = []
    · exact ⟨[], List.not_mem_nil, by rw [Path.bareNames_joinText_of_void base h hnil, hbare]⟩
    · exact ⟨bareNames text, hsource, by rw [Path.bareNames_joinText base h hnil, hbase]; rfl⟩
  obtain ⟨names, hnotMem, hnames⟩ := hnames
  show (moduleNameOfNames (bareNames (Path.joinText base text))).head? = some c
  rw [hnames, moduleNameOfNames_source hc hnotMem]
  cases names with
  | nil => rfl
  | cons next rest => rfl

/-- **A path names one module from everywhere exactly if it is absolute or goes through a
source directory itself.** -/
theorem moduleNameOfPath_join_constant_iff (file : Path) :
    (∀ base₁ base₂ : Path,
      moduleNameOfPath (base₁.join file) = moduleNameOfPath (base₂.join file)) ↔
      file.isAbsolute = true ∨ sourceDirectory ∈ bareNames file.text.toList := by
  have hname : ∀ base : Path, moduleNameOfPath (base.join file) =
      String.ofList (moduleNameOfPathText
        (Path.joinText base.text.toList file.text.toList)) := by
    intro base
    rw [moduleNameOfPath, Path.join, String.toList_ofList]
  constructor
  · intro hconstant
    by_contra hbad
    obtain ⟨habsolute, hsource⟩ := not_or.1 hbad
    have hrelative : Path.isAbsoluteText file.text.toList = false :=
      Bool.eq_false_iff.2 habsolute
    have hsame := hconstant ⟨"/src/a"⟩ ⟨"/src/b"⟩
    rw [hname, hname, String.ofList_inj] at hsame
    have ha := head?_moduleNameOfPathText_joinText hrelative hsource "/src/a".toList 'a'
      (by decide) (by decide)
    have hb := head?_moduleNameOfPathText_joinText hrelative hsource "/src/b".toList 'b'
      (by decide) (by decide)
    rw [hsame, hb] at ha
    exact absurd ha (by decide)
  · intro hgood base₁ base₂
    rw [hname, hname]
    by_cases habsolute : Path.isAbsoluteText file.text.toList = true
    · rw [Path.joinText, Path.joinText, if_pos habsolute, if_pos habsolute]
    · have hrelative := Bool.eq_false_iff.2 habsolute
      have hsource := hgood.resolve_left habsolute
      rw [moduleNameOfPathText_joinText hrelative hsource,
        moduleNameOfPathText_joinText hrelative hsource]

/-!
## Files laid out for a module

The parts of a module name are the directories and the file below the source directory: the
module `Ui.Button` is in the file `src/Ui/Button.elm`. A module name is read off a path by the
same layout, so that reading undoes laying out (`moduleNameOfPath_join_sourceFile`), and the
parts can be told from the name again. The directory that the file is taken from does not
matter. It may go through source directories of its own: the last one in the path is that of
the file, because no part is called so.

Of the whole path only the last piece loses an extension. No part has a dot, so what it loses
is the extension of modules and nothing else.
-/

open ElmClasses.Path (bareNames isName isVoid isParent isAbsoluteText namedPieces)

/-- A name that a directory or a file below a source directory can have if it is to be a part
of module names. -/
structure IsModulePart (part : String) : Prop where
  ne_empty : part ≠ ""
  slash_notMem : '/' ∉ part.toList
  dot_notMem : '.' ∉ part.toList
  ne_source : part ≠ "src"

/-- The file of the module with the given parts, from the directory that holds the source
directory. -/
def sourceFile (parts : List String) : Path :=
  ⟨"/".intercalate ("src" :: parts) ++ ".elm"⟩

/-- The parts of a module name. -/
def moduleParts (name : String) : List String :=
  (name.toList.splitOn '.').map String.ofList

section Parts

variable {part : String}

theorem IsModulePart.toList_ne_nil (h : IsModulePart part) : part.toList ≠ [] :=
  fun hnil => h.ne_empty (String.toList_eq_nil_iff.1 hnil)

theorem IsModulePart.toList_ne_source (h : IsModulePart part) : part.toList ≠ sourceDirectory :=
  fun heq => h.ne_source (String.toList_inj.1 heq)

theorem IsModulePart.isName (h : IsModulePart part) : isName part.toList = true := by
  have hdots : ∀ dots : List Char, '.' ∈ dots → part.toList ≠ dots := by
    rintro dots hmem rfl
    exact h.dot_notMem hmem
  simp [Path.isName, isVoid, isParent, h.toList_ne_nil, hdots ['.'] (by simp),
    hdots ['.', '.'] (by simp)]

/-- The name of a module's file has the part in front of the extension of modules. -/
theorem IsModulePart.splitExtension_file (h : IsModulePart part) :
    Path.splitExtension (part.toList ++ ".elm".toList) = (part.toList, some "elm".toList) :=
  Path.splitExtension_append h.toList_ne_nil (by decide)

end Parts

/-- The pieces of a module's path: the source directory, one directory for each part but the
last, and the file of that. -/
theorem splitOn_sourceFile {front : List String} {last : String}
    (hfront : ∀ part ∈ front, IsModulePart part) (hlast : IsModulePart last) :
    (sourceFile (front ++ [last])).text.toList.splitOn '/' =
      (sourceDirectory :: front.map String.toList) ++ [last.toList ++ ".elm".toList] := by
  have htext : (sourceFile (front ++ [last])).text.toList =
      ['/'].intercalate
        ((sourceDirectory :: front.map String.toList) ++ [last.toList ++ ".elm".toList]) := by
    have hnames : ("src" :: (front ++ [last])).map String.toList =
        (sourceDirectory :: front.map String.toList) ++ [last.toList] := by
      rw [List.map_cons, List.map_append, List.map_singleton]
      rfl
    rw [sourceFile, String.toList_append, String.toList_intercalate, hnames,
      Text.intercalate_append _ (List.cons_ne_nil _ _) (List.cons_ne_nil _ _),
      Text.intercalate_append _ (List.cons_ne_nil _ _) (List.cons_ne_nil _ _),
      List.intercalate_singleton, List.intercalate_singleton, List.append_assoc _ last.toList]
    rfl
  have hslash : ∀ piece ∈ (sourceDirectory :: front.map String.toList) ++
      [last.toList ++ ".elm".toList], '/' ∉ piece := by
    intro piece hpiece
    rcases List.mem_append.1 hpiece with hdirectory | hfile
    · rcases List.mem_cons.1 hdirectory with rfl | hpart
      · decide
      · obtain ⟨part, hmem, rfl⟩ := List.mem_map.1 hpart
        exact (hfront part hmem).slash_notMem
    · obtain rfl := List.mem_singleton.1 hfile
      rw [List.mem_append, not_or]
      exact ⟨hlast.slash_notMem, by decide⟩
  rw [htext, List.splitOn_intercalate '/' hslash (by simp)]

theorem namedPieces_sourceFile {front : List String} {last : String}
    (hfront : ∀ part ∈ front, IsModulePart part) (hlast : IsModulePart last) :
    namedPieces (sourceFile (front ++ [last])).text.toList =
      (last.toList ++ ".elm".toList) :: (sourceDirectory :: front.map String.toList).reverse :=
  Path.namedPieces_of_splitOn (splitOn_sourceFile hfront hlast)
    (Path.isVoid_append_dot hlast.toList_ne_nil "elm".toList) (by simp)

/-- **The names along the path of a module** are the source directory and the parts. -/
theorem bareNames_sourceFile {parts : List String} (hne : parts ≠ [])
    (hparts : ∀ part ∈ parts, IsModulePart part) :
    bareNames (sourceFile parts).text.toList = sourceDirectory :: parts.map String.toList := by
  obtain ⟨front, last, rfl⟩ := (List.eq_nil_or_concat parts).resolve_left hne
  rw [List.concat_eq_append] at hparts ⊢
  have hfront : ∀ part ∈ front, IsModulePart part := fun part hpart =>
    hparts part (List.mem_append_left _ hpart)
  have hlast : IsModulePart last := hparts last (by simp)
  have hnames : ∀ name ∈ sourceDirectory :: (front ++ [last]).map String.toList,
      isName name = true := by
    refine List.forall_mem_cons.2 ⟨by decide, fun name hname => ?_⟩
    obtain ⟨part, hmem, rfl⟩ := List.mem_map.1 hname
    exact (hparts part hmem).isName
  rw [Path.bareNames_eq, namedPieces_sourceFile hfront hlast, Path.stemNames,
    hlast.splitExtension_file, List.reverse_reverse]
  simpa using List.filter_eq_self.2 hnames

/-- Parts of a module name are told from the name. -/
theorem moduleParts_intercalate {parts : List String} (hne : parts ≠ [])
    (hparts : ∀ part ∈ parts, IsModulePart part) :
    moduleParts (".".intercalate parts) = parts := by
  have hdot : ∀ piece ∈ parts.map String.toList, '.' ∉ piece := by
    intro piece hpiece
    obtain ⟨part, hmem, rfl⟩ := List.mem_map.1 hpiece
    exact (hparts part hmem).dot_notMem
  have hsplit : (".".intercalate parts).toList.splitOn '.' = parts.map String.toList := by
    rw [String.toList_intercalate]
    exact List.splitOn_intercalate '.' hdot (by simpa using hne)
  rw [moduleParts, hsplit, List.map_map]
  simp [Function.comp_def]

/-- **A path that was laid out for a module names that module**, from whatever directory it
is taken, and the name gives back the parts. -/
theorem moduleNameOfPath_join_sourceFile (base : Path) {parts : List String} (hne : parts ≠ [])
    (hparts : ∀ part ∈ parts, IsModulePart part) :
    moduleNameOfPath (base.join (sourceFile parts)) = ".".intercalate parts ∧
      moduleParts (moduleNameOfPath (base.join (sourceFile parts))) = parts := by
  have hbare := bareNames_sourceFile hne hparts
  have hrelative : isAbsoluteText (sourceFile parts).text.toList = false := by
    rw [sourceFile, String.toList_append, String.toList_intercalate]
    cases parts <;> rfl
  have hnamed : moduleNameOfPathText (sourceFile parts).text.toList =
      (".".intercalate parts).toList := by
    obtain ⟨part, later, rfl⟩ := List.exists_cons_of_ne_nil hne
    have hlater : sourceDirectory ∉ later.map String.toList := by
      intro hmem
      obtain ⟨other, hother, heq⟩ := List.mem_map.1 hmem
      exact (hparts other (List.mem_cons_of_mem part hother)).toList_ne_source heq
    rw [String.toList_intercalate]
    show moduleNameOfNames (bareNames _) = _
    rw [hbare]
    exact moduleNameOfNames_source (hparts part List.mem_cons_self).toList_ne_source hlater
  have hname : moduleNameOfPath (base.join (sourceFile parts)) = ".".intercalate parts := by
    rw [moduleNameOfPath, Path.join, String.toList_ofList,
      moduleNameOfPathText_joinText hrelative (by simp [hbare]), hnamed, String.ofList_toList]
  rw [hname]
  exact ⟨rfl, moduleParts_intercalate hne hparts⟩

/-- A base that goes up, through two source directories and a name with a dot, and ends with
slashes and dots; a part that only starts like a source directory. -/
theorem moduleNameOfPath_join_sourceFile_nested :
    let base : Path := ⟨"../src/my.app/src//./.."⟩
    let parts := ["Größe", "srcs", "Ui"]
    base.join (sourceFile parts) = ⟨"../src/my.app/src//./../src/Größe/srcs/Ui.elm"⟩ ∧
      moduleNameOfPath (base.join (sourceFile parts)) = "Größe.srcs.Ui" ∧
      moduleParts "Größe.srcs.Ui" = parts := by
  intro base parts
  have hparts : ∀ part ∈ parts, IsModulePart part := by
    have hpart : ∀ part ∈ parts, part ≠ "" ∧ '/' ∉ part.toList ∧ '.' ∉ part.toList ∧
        part ≠ "src" := by decide
    exact fun part hmem =>
      let ⟨hempty, hslash, hdot, hsource⟩ := hpart part hmem
      ⟨hempty, hslash, hdot, hsource⟩
  obtain ⟨hname, hback⟩ := moduleNameOfPath_join_sourceFile base (by decide) hparts
  have hjoined : ".".intercalate parts = "Größe.srcs.Ui" := by decide
  rw [hname] at hback
  exact ⟨by decide, hname.trans hjoined, hjoined ▸ hback⟩

end ElmClasses.Elm
