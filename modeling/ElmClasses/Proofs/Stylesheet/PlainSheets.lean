import ElmClasses.Css.Name
import ElmClasses.Stylesheet

/-!
# Plain style sheets

A plain style sheet is a forest of rules for single classes. A style rule asks for a class in some
states and may hold further style rules, to any depth; blocks for a medium, for a supported
declaration or of a layer may hold style rules and further blocks, but stand outside of style rules.
The trees below are shaped so that only such sheets can be written down, and the name of a class
carries the proof that a class can have it.

A forest has three views. Its text is what an author writes. Its rules are what a library should
make of the text, up to the way in which the library keeps selectors. Its selectors are those of its
style rules in pre-order, as they should be printed: each rule once, in the order of the text, and
in front of the rules that it holds.

That a library takes the first view to the second and prints the third is what `HandlesPlainSheets`
asks of it. Nothing else about style sheets is ever assumed.
-/

namespace ElmClasses.Stylesheet

open Css (Name serialized)
open StylesheetLibrary

/-- A state of an element that a selector may ask for. -/
inductive State where
  | hover
  | focus
deriving DecidableEq, Repr

/-- The name of the pseudo-class for a state. -/
def State.name : State → Name
  | .hover => "hover".toList
  | .focus => "focus".toList

/-- A name that a class can have: it is not empty, and NUL is not in it. -/
structure ClassIdent where
  name : Name
  ne_nil : name ≠ []
  nul_notMem : '\x00' ∉ name

/-- A style rule for a class in some states, and the style rules nested in it. -/
inductive ClassTree where
  | rule (cls : ClassIdent) (states : List State) (nested : List ClassTree)

/-- What a block of rules depends on: the medium, a declaration that is supported, or nothing, if
the block is a layer. -/
inductive Group where
  | media
  | supports
  | layer
deriving DecidableEq, Repr

/-- A style rule, or a block of rules outside of style rules. -/
inductive SheetTree where
  | style (rule : ClassTree)
  | group (kind : Group) (trees : List SheetTree)

/-- The text of states, each behind a colon. -/
def statesText (states : List State) : List Char :=
  states.flatMap fun state => ':' :: state.name

/-- The selector of a class in some states. -/
def classText (name : Name) (states : List State) : List Char :=
  '.' :: serialized name ++ statesText states

mutual

/-- The text of a style rule. -/
def ClassTree.text : ClassTree → List Char
  | .rule cls states nested => classText cls.name states ++ '\x7b' :: (texts nested ++ ['\x7d'])

/-- The text of style rules, one behind the other. -/
def ClassTree.texts : List ClassTree → List Char
  | [] => []
  | tree :: trees => tree.text ++ texts trees

end

/-- The text in front of a block. -/
def Group.text : Group → List Char
  | .media => "@media print".toList
  | .supports => "@supports (color: red)".toList
  | .layer => "@layer x".toList

mutual

/-- The text of a tree. -/
def SheetTree.text : SheetTree → List Char
  | .style rule => rule.text
  | .group kind trees => kind.text ++ '\x7b' :: (texts trees ++ ['\x7d'])

/-- The text of a forest, one tree behind the other. -/
def SheetTree.texts : List SheetTree → List Char
  | [] => []
  | tree :: trees => tree.text ++ texts trees

end

/-- The selector of a style rule for a class. In another style rule the reference to that one stands
in front. -/
def ruleSelector (nested : Bool) (name : Name) (states : List State) : List Char :=
  (if nested then ['&', ' '] else []) ++ classText name states

mutual

/-- The selectors of a style rule and of the rules in it, its own one first. -/
def ClassTree.selectors (nested : Bool) : ClassTree → List (List Char)
  | .rule cls states inner => ruleSelector nested cls.name states :: nestedSelectors inner

/-- The selectors of style rules inside another one, and of the rules in them. -/
def ClassTree.nestedSelectors : List ClassTree → List (List Char)
  | [] => []
  | tree :: trees => tree.selectors true ++ nestedSelectors trees

end

mutual

/-- The selectors of the style rules of a tree. -/
def SheetTree.selectors : SheetTree → List (List Char)
  | .style rule => rule.selectors false
  | .group _ trees => allSelectors trees

/-- The selectors of the style rules of a forest. -/
def SheetTree.allSelectors : List SheetTree → List (List Char)
  | [] => []
  | tree :: trees => tree.selectors ++ allSelectors trees

end

/-! ## Rules -/

section Rules

variable {Selectors : Type} (represent : Bool → ClassIdent → List State → Selectors)

mutual

/-- A style rule, if `represent` tells how selectors of classes are kept inside and outside of style
rules. -/
def ClassTree.toRule (nested : Bool) : ClassTree → StylesheetRule Selectors
  | .rule cls states inner => .style (represent nested cls states) (nestedRules inner)

/-- Style rules inside another one. -/
def ClassTree.nestedRules : List ClassTree → List (StylesheetRule Selectors)
  | [] => []
  | tree :: trees => tree.toRule true :: nestedRules trees

end

mutual

/-- The rule that a tree stands for. -/
def SheetTree.toRule : SheetTree → StylesheetRule Selectors
  | .style rule => rule.toRule represent false
  | .group _ trees => .other (toRules trees)

/-- The rules of a forest. -/
def SheetTree.toRules : List SheetTree → List (StylesheetRule Selectors)
  | [] => []
  | tree :: trees => tree.toRule :: toRules trees

end

end Rules

/-- What is asked of a library: it understands plain sheets, keeps the selector of a class as
`represent` says, and brings visitors to rules in source order. -/
structure HandlesPlainSheets [StylesheetLibrary]
    (represent : Bool → ClassIdent → List State → Selectors) : Prop where
  /-- The text of a forest is parsed as the rules of the forest, with the escapes in its names
  undone. -/
  parses : ∀ trees : List SheetTree,
    parse (String.ofList (SheetTree.texts trees)) = .ok (SheetTree.toRules represent trees)
  /-- The selector of a class is printed with its name serialized. -/
  prints : ∀ (nested : Bool) (cls : ClassIdent) (states : List State),
    print? (represent nested cls states) =
      some (String.ofList (ruleSelector nested cls.name states))
  /-- A visitor comes to rules in the order in which they stand. -/
  visits : ∀ rules : List (StylesheetRule Selectors), visited rules = rules

end ElmClasses.Stylesheet
