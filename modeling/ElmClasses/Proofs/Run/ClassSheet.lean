import ElmClasses.Proofs.ClassName.Serialized
import ElmClasses.Proofs.Elm.ModuleText
import ElmClasses.Proofs.Run.ClosedForm
import ElmClasses.Proofs.Stylesheet.SourceOrder

/-!
# Sheets of classes

A utility style sheet is in essence a list of class names: one rule for each class, at the top level
or in blocks for some medium, with states behind some of the classes. This module follows such a
sheet from its text to the literals in the modules of a run. The sheet is a plain one, so a lawful
library gives the selectors of its rules, each printed with its name serialized; from a printed
selector the class name is read back, by a reader of its own that cuts off the states; and the name
is written as a literal that spells it. After all these steps the classes are those of the sheet, in
its order.

## Main results

* `filterMap_classOf?_allSelectors`: the classes of the selectors of a sheet.
* `feedStylesheet_classSheet`: what a run declares after such a sheet.
-/

namespace ElmClasses

open Stylesheet (ClassIdent HandlesPlainSheets SheetTree State classText)

/-- A name that a class can have and that holds no blanks but ASCII ones. -/
structure SheetClass where
  name : String
  ne_empty : name ≠ ""
  nul_notMem : '\x00' ∉ name.toList
  ascii_of_isBlank : ∀ c ∈ name.toList, Text.isBlank c = true → c.toNat < 0x80

/-- The name of a class as style sheets have it. -/
def SheetClass.ident (cls : SheetClass) : ClassIdent where
  name := cls.name.toList
  ne_nil hnil := cls.ne_empty (String.toList_eq_nil_iff.1 hnil)
  nul_notMem := cls.nul_notMem

/-- A rule for one class in some states, or a block of rules for print. -/
inductive ClassRule where
  | named (cls : SheetClass) (states : List State)
  | print (rules : List ClassRule)

namespace ClassRule

mutual

/-- The names of the classes in a rule, in the order in which they stand there. -/
def names : ClassRule → List String
  | .named cls _ => [cls.name]
  | .print rules => allNames rules

/-- The names of the classes in several rules. -/
def allNames : List ClassRule → List String
  | [] => []
  | rule :: rules => names rule ++ allNames rules

end

mutual

/-- A rule as a tree of a plain sheet. -/
def tree : ClassRule → SheetTree
  | .named cls states => .style (.rule cls.ident states [])
  | .print rules => .group .media (trees rules)

/-- Rules as the forest of a plain sheet, which says how they are written. -/
def trees : List ClassRule → List SheetTree
  | [] => []
  | rule :: rules => tree rule :: trees rules

end

mutual

theorem filterMap_classOf?_selectors : (rule : ClassRule) →
    (rule.tree.selectors.map String.ofList).filterMap Run.classOf? = rule.names
  | .named cls states => by
    have hclass := ClassName.classOf?_classText cls.ne_empty cls.nul_notMem cls.ascii_of_isBlank
      states
    have hselectors : (named cls states).tree.selectors = [classText cls.name.toList states] := rfl
    rw [hselectors, List.map_singleton, List.filterMap_cons_some hclass, List.filterMap_nil, names]
  | .print rules => filterMap_classOf?_allSelectors rules

/-- The classes of the selectors of a sheet are the names of the sheet, all of them and in order. -/
theorem filterMap_classOf?_allSelectors : (rules : List ClassRule) →
    ((SheetTree.allSelectors (trees rules)).map String.ofList).filterMap Run.classOf? =
      allNames rules
  | [] => rfl
  | rule :: rules => by
    rw [trees, SheetTree.allSelectors, List.map_append, List.filterMap_append,
      filterMap_classOf?_selectors rule, filterMap_classOf?_allSelectors rules, allNames]

end

end ClassRule

namespace Run

/-- **No class of a sheet is lost, cut short, doubled or moved.** Let a library handle plain sheets.
Then a new run accepts the text of any sheet of classes, and each of its modules declares the
distinct names of the sheet in the order in which they came first, each under the value name of that
name and with the name itself as the class: the literal in its declaration stands on one line and
spells the name. -/
theorem feedStylesheet_classSheet [StylesheetLibrary]
    {represent : Bool → ClassIdent → List State → StylesheetLibrary.Selectors}
    (h : HandlesPlainSheets represent) (config : Config) (rules : List ClassRule) :
    ∃ outcome : Logged Run,
      (start config).feedStylesheet (String.ofList (SheetTree.texts (ClassRule.trees rules))) =
        .ok outcome ∧
      outcome.value.modules.map Elm.ModuleDraft.slot = slots config ∧
      ∀ draft ∈ outcome.value.modules,
        (draft.declarations.toList =
          (ClassRule.allNames rules).eraseDups.map fun name =>
            (name, ⟨config.identifierOf name,
              Elm.declarationText draft.format name (config.identifierOf name)⟩)) ∧
        ∀ e ∈ draft.declarations.toList, ∃ literal : List Char,
          e.2.text.toList = ['\n', '\n'] ++
            (Elm.declarationHead draft.format e.2.identifier.toList ++ (literal ++ ['\n'])) ∧
          '\n' ∉ literal ∧
          ∀ rest, Elm.readLiteral (literal ++ rest) = some (e.1.toList, rest) := by
  let trees := ClassRule.trees rules
  let selectors := (SheetTree.allSelectors trees).map String.ofList
  have hselectors : Stylesheet.collectSelectors (String.ofList (SheetTree.texts trees)) =
      .ok selectors :=
    Stylesheet.collectSelectors_of_visitRules (h.parses trees)
      (Stylesheet.visitRules_sheetTrees h #[] trees)
  have hreflects := feedAll_reflects config selectors
  have hclasses : classesOf selectors = (ClassRule.allNames rules).eraseDups := by
    rw [classesOf, ClassRule.filterMap_classOf?_allSelectors]
  rw [hclasses] at hreflects
  refine ⟨(start config).feedAll selectors, ?_, hreflects.slots_eq, fun draft hdraft => ?_⟩
  · rw [feedStylesheet, hselectors, Except.map_ok]
  · have hdeclarations := hreflects.declarations_eq draft hdraft
    refine ⟨hdeclarations, fun e he => ?_⟩
    rw [hdeclarations] at he
    obtain ⟨name, -, rfl⟩ := List.mem_map.1 he
    exact Elm.exists_literal draft.format name (config.identifierOf name)

/-- Names with a digit in front, a tab, a parenthesis, a colon and a letter above ASCII, one of them
twice, at several depths and in several states. -/
theorem feedStylesheet_classSheet_mixed :
    let style := ".\\32 xl\\:p:hover\x7b\x7d@media print\x7b.-\\(\\9 b\x7b\x7d@media print\x7b" ++
      ".é\\:x:focus:hover\x7b\x7d\x7d\x7d.\\32 xl\\:p\x7b\x7d"
    ∃ outcome : Logged Run, (start .default).feedStylesheet style = .ok outcome ∧
      ∀ draft ∈ outcome.value.modules, draft.declarations.toList =
        declarationsOf .default draft.format ["2xl:p", "-(\tb", "é:x"] := by
  intro style
  let wide : SheetClass :=
    ⟨"2xl:p", by decide, by decide, Text.forall_mem_of_all (by decide)⟩
  let tab : SheetClass :=
    ⟨"-(\tb", by decide, by decide, Text.forall_mem_of_all (by decide)⟩
  let accent : SheetClass :=
    ⟨"é:x", by decide, by decide, Text.forall_mem_of_all (by decide)⟩
  let rules : List ClassRule := [
    .named wide [.hover],
    .print [.named tab [], .print [.named accent [.focus, .hover]]],
    .named wide []]
  have htext : String.ofList (SheetTree.texts (ClassRule.trees rules)) = style := by
    decide +kernel
  have hdistinct : (ClassRule.allNames rules).eraseDups = ["2xl:p", "-(\tb", "é:x"] := by
    decide
  obtain ⟨outcome, hfeed, -, hmodules⟩ :=
    feedStylesheet_classSheet Css.handlesPlainSheets .default rules
  rw [htext] at hfeed
  refine ⟨outcome, hfeed, fun draft hdraft => ?_⟩
  rw [(hmodules draft hdraft).1, hdistinct]
  rfl

end Run

end ElmClasses
