import ElmClasses.Proofs.Css.PlainSheets
import ElmClasses.Proofs.Stylesheet.PlainSheets

/-!
# Selectors in source order

A visitor notes the selectors of a style rule before it goes on to the rules inside. So after a rule
it has noted what it had noted before, then the selector of the rule, and then those of the rules in
it. Over a forest of plain rules this gives the pre-order list of their selectors: every style rule
once, in the order of the text, and in front of the rules that it holds. Blocks leave no trace in
the list.

One tree is the step, and the list found so far is what the induction over the forest carries along.
All that comes from the library are the three laws of `HandlesPlainSheets`.

## Main results

* `visitRule_classTree`, `visitRule_sheetTree`: what a visitor notes in one tree.
* `collectSelectors_plain`: the selectors of the text of a forest, for every lawful library.
-/

namespace ElmClasses.Stylesheet

open StylesheetLibrary

/-- The array of the selectors found before and of those that come behind them. -/
def foundBehind (found : Array String) (selectors : List (List Char)) : Array String :=
  found ++ selectors.map String.ofList

theorem foundBehind_nil (found : Array String) : foundBehind found [] = found :=
  Array.toList_inj.1 (by simp [foundBehind])

theorem foundBehind_cons (found : Array String) (selector : List Char)
    (selectors : List (List Char)) :
    foundBehind found (selector :: selectors) =
      foundBehind (found.push (String.ofList selector)) selectors :=
  Array.toList_inj.1 (by simp [foundBehind])

theorem foundBehind_append (found : Array String) (first second : List (List Char)) :
    foundBehind found (first ++ second) = foundBehind (foundBehind found first) second :=
  Array.toList_inj.1 (by simp [foundBehind])

section Visiting

variable [StylesheetLibrary] {represent : Bool → ClassIdent → List State → Selectors}

theorem HandlesPlainSheets.visitRules_nil (h : HandlesPlainSheets represent)
    (found : Array String) : visitRules found [] = .ok found := by
  rw [visitRules, h.visits]
  rfl

theorem HandlesPlainSheets.visitRules_cons (h : HandlesPlainSheets represent)
    (found : Array String) (rule : StylesheetRule Selectors)
    (rules : List (StylesheetRule Selectors)) :
    visitRules found (rule :: rules) =
      visitRule found rule >>= fun found => visitRules found rules := by
  simp only [visitRules, h.visits, List.foldlM_cons]

/-- The selector of a class is noted in its turn. -/
theorem HandlesPlainSheets.noteSelectors_eq (h : HandlesPlainSheets represent)
    (found : Array String) (nested : Bool) (cls : ClassIdent) (states : List State)
    (inner : List (StylesheetRule Selectors)) :
    noteSelectors found (.style (represent nested cls states) inner) =
      .ok (found.push (String.ofList (ruleSelector nested cls.name states))) := by
  rw [noteSelectors, h.prints]

mutual

/-- In a style rule a visitor notes its selector, and then those of the rules in it. -/
theorem visitRule_classTree (h : HandlesPlainSheets represent) (nested : Bool)
    (found : Array String) : (tree : ClassTree) →
      visitRule found (tree.toRule represent nested) =
        .ok (foundBehind found (tree.selectors nested))
  | .rule cls states inner => by
    rw [ClassTree.toRule, visitRule_eq, h.noteSelectors_eq, ClassTree.selectors, foundBehind_cons]
    exact visitRules_classTrees h _ inner

theorem visitRules_classTrees (h : HandlesPlainSheets represent) (found : Array String) :
    (trees : List ClassTree) →
      visitRules found (ClassTree.nestedRules represent trees) =
        .ok (foundBehind found (ClassTree.nestedSelectors trees))
  | [] => by
    rw [ClassTree.nestedRules, h.visitRules_nil, ClassTree.nestedSelectors, foundBehind_nil]
  | tree :: trees => by
    rw [ClassTree.nestedRules, h.visitRules_cons, visitRule_classTree h true found tree,
      ClassTree.nestedSelectors, foundBehind_append]
    exact visitRules_classTrees h _ trees

end

mutual

/-- A block adds nothing to the selectors of the rules in it. -/
theorem visitRule_sheetTree (h : HandlesPlainSheets represent) (found : Array String) :
    (tree : SheetTree) →
      visitRule found (tree.toRule represent) = .ok (foundBehind found tree.selectors)
  | .style rule => visitRule_classTree h false found rule
  | .group kind trees => by
    rw [SheetTree.toRule, visitRule_eq]
    exact visitRules_sheetTrees h found trees

theorem visitRules_sheetTrees (h : HandlesPlainSheets represent) (found : Array String) :
    (trees : List SheetTree) →
      visitRules found (SheetTree.toRules represent trees) =
        .ok (foundBehind found (SheetTree.allSelectors trees))
  | [] => by rw [SheetTree.toRules, h.visitRules_nil, SheetTree.allSelectors, foundBehind_nil]
  | tree :: trees => by
    rw [SheetTree.toRules, h.visitRules_cons, visitRule_sheetTree h found tree,
      SheetTree.allSelectors, foundBehind_append]
    exact visitRules_sheetTrees h _ trees

end

/-- What a visitor has noted after all rules of a sheet are the selectors of the sheet. -/
theorem collectSelectors_of_visitRules {style : String} {rules : List (StylesheetRule Selectors)}
    {selectors : List (List Char)} (hparse : parse style = .ok rules)
    (hvisit : visitRules #[] rules = .ok (foundBehind #[] selectors)) :
    collectSelectors style = .ok (selectors.map String.ofList) := by
  rw [collectSelectors, hparse]
  show Array.toList <$> visitRules #[] rules = _
  rw [hvisit, Except.map_ok]
  simp [foundBehind]

/-- **Every style rule of a sheet is listed exactly once, in source order and in front of the rules
in it.** Let a library handle plain sheets. Then the selectors of the text of any forest can be
collected, and they are those of its style rules in pre-order; just the ones inside another style
rule refer to it. -/
theorem collectSelectors_plain (h : HandlesPlainSheets represent) (trees : List SheetTree) :
    collectSelectors (String.ofList (SheetTree.texts trees)) =
      .ok ((SheetTree.allSelectors trees).map String.ofList) :=
  collectSelectors_of_visitRules (h.parses trees) (visitRules_sheetTrees h #[] trees)

end Visiting

/-- Three rules in one another, and blocks of two kinds around a name that starts with a digit and
behind it. -/
theorem collectSelectors_plain_blocks :
    collectSelectors (".a\x7b.b\x7b.c:hover\x7b\x7d\x7d\x7d@supports (color: red)\x7b" ++
      "@layer x\x7b.\\31 \x7b\x7d\x7d.d\x7b\x7d\x7d") =
        .ok [".a", "& .b", "& .c:hover", ".\\31 ", ".d"] := by
  let ident (c : Char) (h : '\x00' ∉ [c]) : ClassIdent := ⟨[c], List.cons_ne_nil c [], h⟩
  let inner : ClassTree := .rule (ident 'c' (by decide)) [.hover] []
  let trees : List SheetTree := [
    .style (.rule (ident 'a' (by decide)) [] [.rule (ident 'b' (by decide)) [] [inner]]),
    .group .supports [
      .group .layer [.style (.rule (ident '1' (by decide)) [] [])],
      .style (.rule (ident 'd' (by decide)) [] [])]]
  have hselectors : (SheetTree.allSelectors trees).map String.ofList =
      [".a", "& .b", "& .c:hover", ".\\31 ", ".d"] := by
    decide
  rw [← hselectors]
  exact collectSelectors_plain Css.handlesPlainSheets trees

end ElmClasses.Stylesheet
