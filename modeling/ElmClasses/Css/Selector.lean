import ElmClasses.Css.Component
import ElmClasses.Css.Name

/-!
# Selectors

A simple selector states one condition on an element. A compound selector is a row of simple
selectors, all of one element; what stands behind a pseudo-element in it is said of that part of
the element. A complex selector is a row of compounds, each but the first related to the one before
it by a combinator; the first one of a relative selector follows a combinator too. A selector list
holds the alternatives between commas. Some pseudo-classes and pseudo-elements have selector lists
as arguments.

The argument of `:nth-child()` and its relatives selects the positions `step * k + offset` for all
`k` from zero on. Authors write it as `even`, `odd`, a number or a sum such as `2n+1`, which the
tokens of a style sheet divide in several ways: the sign of the offset may belong to the unit of a
dimension, to the number behind it, or stand alone.

Names of pseudo-classes and pseudo-elements that have a meaning are recognised in any letter case
and have one canonical spelling, which is mostly the name in lower case. Any other name stays as it
was written. Which pseudo-classes may follow a pseudo-element depends on the kind of both, so the
names are listed by kind.
-/

namespace ElmClasses.Css

/-- The positions `step * k + offset`. -/
structure Nth where
  step : Int
  offset : Int
deriving DecidableEq, Repr

namespace Nth

/-- The text of an integer. -/
def integerText (value : Int) : List Char :=
  (toString value).toList

/-- The text of an integer with its sign. -/
def signedText (value : Int) : List Char :=
  if value < 0 then integerText value else '+' :: integerText value

/-- The text of a step with its variable. -/
def stepText (step : Int) : List Char :=
  if step = 1 then ['n']
  else if step = -1 then ['-', 'n']
  else integerText step ++ ['n']

/-- The canonical text of positions. -/
def text (nth : Nth) : List Char :=
  if nth.step = 0 then integerText nth.offset
  else if nth.offset = 0 then stepText nth.step
  else if nth = ⟨2, 1⟩ then ['o', 'd', 'd']
  else stepText nth.step ++ signedText nth.offset

/-- The offset in a name `n-3`. -/
def dashedOffset? : Name → Option Int
  | n :: '-' :: digits =>
    if n = 'n' || n = 'N' then (Numeral.natural? digits).map fun value => -(value : Int) else none
  | _ => none

/-- Read an offset without a sign of its own. -/
def readUnsigned (step sign : Int) (components : List Component) :
    Option (Nth × List Component) :=
  match Component.trimStart components with
  | .token (.number numeral) :: rest =>
    if numeral.isSigned then none
    else numeral.integer?.map fun value => (⟨step, sign * value⟩, rest)
  | _ => none

/-- Read an offset, if there is one. -/
def readOffset (step : Int) (components : List Component) : Option (Nth × List Component) :=
  match Component.trimStart components with
  | .token (.delim '+') :: rest => readUnsigned step 1 rest
  | .token (.delim '-') :: rest => readUnsigned step (-1) rest
  | .token (.number numeral) :: rest =>
    match numeral.isSigned, numeral.integer? with
    | true, some value => some (⟨step, value⟩, rest)
    | _, _ => some (⟨step, 0⟩, components)
  | _ => some (⟨step, 0⟩, components)

/-- Read what follows the number of a step, of which `unit` is the name right behind it. -/
def readBehindStep (step : Int) (unit : Name) (rest : List Component) :
    Option (Nth × List Component) :=
  if unit.isOneOf ["n"] then readOffset step rest
  else if unit.isOneOf ["n-"] then readUnsigned step (-1) rest
  else (dashedOffset? unit).map fun offset => (⟨step, offset⟩, rest)

/-- Read positions at the start of components. -/
def read (components : List Component) : Option (Nth × List Component) :=
  match Component.trimStart components with
  | .token (.number numeral) :: rest => numeral.integer?.map fun value => (⟨0, value⟩, rest)
  | .token (.dimension numeral unit) :: rest => do readBehindStep (← numeral.integer?) unit rest
  | .token (.delim '+') :: .token (.ident name) :: rest => readBehindStep 1 name rest
  | .token (.ident name) :: rest =>
    if name.isOneOf ["even"] then some (⟨2, 0⟩, rest)
    else if name.isOneOf ["odd"] then some (⟨2, 1⟩, rest)
    else
      match name with
      | '-' :: unit => readBehindStep (-1) unit rest
      | unit => readBehindStep 1 unit rest
  | _ => none

end Nth

/-- Pseudo-classes for the place of an element in the document tree. -/
def structuralNames : List String := [
  "first-child", "last-child", "only-child", "first-of-type", "last-of-type", "only-of-type",
  "root", "empty", "scope", "host"]

/-- Pseudo-classes for what a user does to an element. -/
def userActionNames : List String := ["hover", "active", "focus", "focus-visible", "focus-within"]

/-- Pseudo-classes that only parts of scroll bars have. -/
def scrollbarStateNames : List String := [
  "horizontal", "vertical", "decrement", "increment", "start", "end", "double-button",
  "single-button", "no-button", "corner-present", "window-inactive"]

/-- Pseudo-classes that parts of scroll bars have in common with other elements. -/
def sharedStateNames : List String := ["enabled", "disabled", "hover", "active"]

/-- Further pseudo-classes, the structural ones left out. -/
def stateNames : List String := [
  "current", "past", "future", "playing", "paused", "seeking", "buffering", "stalled", "muted",
  "volume-locked", "fullscreen", "-webkit-full-screen", "-moz-full-screen", "-ms-fullscreen",
  "open", "closed", "modal", "picture-in-picture", "popover-open", "defined", "any-link",
  "-webkit-any-link", "-moz-any-link", "link", "local-link", "target", "target-within", "visited",
  "enabled", "disabled", "read-only", "-moz-read-only", "read-write", "-moz-read-write",
  "placeholder-shown", "default", "checked", "indeterminate", "blank", "valid", "invalid",
  "in-range", "out-of-range", "required", "optional", "user-valid", "user-invalid", "autofill",
  "-webkit-autofill", "-o-autofill", "active-view-transition"]

/-- Pseudo-classes whose canonical spelling is another name. -/
def respelledClasses : List (String × String) := [
  ("-moz-placeholder", "-moz-placeholder-shown"),
  ("-ms-input-placeholder", "-ms-placeholder-shown")]

/-- Pseudo-elements that may be written with one colon, and are printed so. -/
def legacyElementNames : List String := ["before", "after", "first-line", "first-letter"]

/-- Pseudo-elements for the parts of scroll bars. -/
def scrollbarElementNames : List String := [
  "-webkit-resizer", "-webkit-scrollbar", "-webkit-scrollbar-button", "-webkit-scrollbar-corner",
  "-webkit-scrollbar-thumb", "-webkit-scrollbar-track", "-webkit-scrollbar-track-piece"]

/-- Further pseudo-elements without arguments. -/
def elementNames : List String := [
  "details-content", "target-text", "search-text", "cue", "cue-region", "selection",
  "-moz-selection", "placeholder", "-webkit-input-placeholder", "-moz-placeholder", "marker",
  "backdrop", "-webkit-backdrop", "file-selector-button", "-webkit-file-upload-button",
  "-ms-browse", "picker-icon", "checkmark", "grammar-error", "spelling-error", "view-transition"]

/-- Pseudo-elements whose canonical spelling is another name. -/
def respelledElements : List (String × String) := [("-ms-input-placeholder", "-moz-placeholder")]

/-- Pseudo-elements for the images of a transition, which have arguments. -/
def transitionElementNames : List String := [
  "view-transition-group", "view-transition-image-pair", "view-transition-old",
  "view-transition-new"]

/-- Further pseudo-elements with arguments that are no selectors. -/
def functionalElementNames : List String := ["highlight", "picker"]

/-- Pseudo-elements that elements in a slot may have. -/
def slottedElementNames : List String := [
  "before", "after", "marker", "placeholder", "-webkit-input-placeholder", "-moz-placeholder",
  "file-selector-button", "-webkit-file-upload-button", "-ms-browse"]

/-- The canonical spelling of a name, where a table gives it. -/
def respelled? (table : List (String × String)) (name : Name) : Option Name :=
  (table.find? (·.1.toList == name.lowered)).map (·.2.toList)

/-- The canonical spelling of a pseudo-class without arguments that is not structural. -/
def canonicalClassName (name : Name) : Name :=
  match respelled? respelledClasses name with
  | some other => other
  | none =>
    if name.isOneOf userActionNames || name.isOneOf scrollbarStateNames ||
        name.isOneOf stateNames then name.lowered
    else name

/-- The canonical spelling of a pseudo-element without arguments. -/
def canonicalElementName (name : Name) : Name :=
  match respelled? respelledElements name with
  | some other => other
  | none =>
    if name.isOneOf legacyElementNames || name.isOneOf scrollbarElementNames ||
        name.isOneOf elementNames then name.lowered
    else name

/-- Whether a pseudo-element, by its canonical name, has a meaning. -/
def isMeaningfulElement (name : Name) (hasArguments : Bool) : Bool :=
  if hasArguments then name.isOneOf transitionElementNames || name.isOneOf functionalElementNames
  else name.isOneOf legacyElementNames || name.isOneOf scrollbarElementNames ||
    name.isOneOf elementNames

/-- How the element of a compound is related to the element of the compound before it. -/
inductive Combinator where
  | descendant
  | child
  | nextSibling
  | laterSibling
deriving DecidableEq, Repr

/-- What stands in front of a name and its bar. -/
inductive Namespace where
  /-- An asterisk: any namespace or none. -/
  | any
  /-- Nothing: no namespace. -/
  | absent
  | named (name : Name)
deriving DecidableEq, Repr

/-- The condition of an attribute selector on the value of the attribute: an operator, the
character before its equals sign if it has one, the value to compare with, and an explicit choice
of letter case. -/
structure AttributeCondition where
  operator : Option Char
  value : List Char
  caseFlag : Option Char
deriving DecidableEq, Repr

/-- How positions among siblings are counted. -/
inductive Counting where
  | child
  | lastChild
  | ofType
  | lastOfType
  | column
  | lastColumn
deriving DecidableEq, Repr

/-- The name of a pseudo-class that counts. -/
def Counting.name : Counting → String
  | .child => "nth-child"
  | .lastChild => "nth-last-child"
  | .ofType => "nth-of-type"
  | .lastOfType => "nth-last-of-type"
  | .column => "nth-col"
  | .lastColumn => "nth-last-col"

/-- A pseudo-class or pseudo-element that has selectors as arguments. -/
inductive SelectorFunction where
  /-- The elements that some alternative describes, which `:is()` selects. -/
  | isAny
  /-- The same without a weight of its own, by `:where()`. -/
  | whereAny
  | webkitAny
  | mozAny
  /-- The elements that no alternative describes. -/
  | isNone
  | has
  | host
  | slotted
  | cue
  | cueRegion
  /-- The elements at some positions among those that the alternatives describe. -/
  | nth (counting : Counting) (positions : Nth)
deriving DecidableEq, Repr

/-- A condition on one element. -/
inductive Simple where
  | type (space : Option Namespace) (name : Name)
  | universal (space : Option Namespace)
  /-- The elements of the rule around a nested rule. -/
  | nesting
  | hasClass (name : Name)
  | hasId (name : Name)
  | hasAttribute (space : Option Namespace) (name : Name) (condition : Option AttributeCondition)
  /-- A pseudo-class by its canonical name, and the text of its arguments if it has some. -/
  | pseudoClass (name : Name) (arguments : Option (List Char))
  /-- A pseudo-element by its canonical name, and the text of its arguments if it has some. -/
  | pseudoElement (name : Name) (arguments : Option (List Char))
  /-- The parts of an element that bear all of the names. -/
  | part (names : List Name)
  | selecting (function : SelectorFunction)
      (alternatives : List (List (Option Combinator × List Simple)))
deriving Repr

/-- A row of simple selectors, all of one element. -/
abbrev Compound := List Simple

/-- A row of compounds, each with its relation to the one before it. -/
abbrev ComplexSelector := List (Option Combinator × Compound)

/-- The alternatives of a rule. -/
abbrev SelectorList := List ComplexSelector

/-- A selector of a nested rule with its reference to the rule around it made explicit. A relative
selector follows that reference by its own combinator; a selector that does not refer to the rule
around it by itself describes descendants. -/
def withParent (refersToParent : Bool) (selector : ComplexSelector) : ComplexSelector :=
  match selector with
  | (some _, _) :: _ => (none, [.nesting]) :: selector
  | (none, compound) :: rest =>
    if refersToParent then selector
    else (none, [.nesting]) :: (some .descendant, compound) :: rest
  | [] => []

/-!
## Texts

Selectors are printed in one canonical way, whatever blanks, comments and escapes they were written
with. The names of pseudo-classes and pseudo-elements are printed without escapes. A universal
selector without a namespace says nothing if its element is described further, and is left out; a
list of one alternative in `:is()` is printed without the parentheses where it can stand alone.
-/

/-- The text of what stands in front of a name. -/
def Namespace.text : Namespace → List Char
  | .any => ['*', '|']
  | .absent => ['|']
  | .named name => serialized name ++ ['|']

/-- The text of an optional namespace. -/
def namespaceText : Option Namespace → List Char
  | some space => space.text
  | none => []

/-- The text of the namespace of an attribute, which without one is in no namespace. -/
def attributeSpaceText : Option Namespace → List Char
  | none | some .absent => []
  | some space => space.text

/-- The text in front of a compound. -/
def combinatorText : Option Combinator → List Char
  | none => []
  | some .descendant => [' ']
  | some .child => [' ', '>', ' ']
  | some .nextSibling => [' ', '+', ' ']
  | some .laterSibling => [' ', '~', ' ']

/-- The text of an attribute condition. -/
def AttributeCondition.text (condition : AttributeCondition) : List Char :=
  condition.operator.toList ++ '=' :: serializedString condition.value ++
    (match condition.caseFlag with
    | some flag => [' ', flag]
    | none => [])

/-- The text of arguments in their parentheses. -/
def argumentsText : Option (List Char) → List Char
  | none => []
  | some arguments => '(' :: arguments ++ [')']

/-- The text of a pseudo-element. The four that are older than the double colon have one. -/
def pseudoElementText (name : Name) (arguments : Option (List Char)) : List Char :=
  if arguments.isNone && name.isOneOf legacyElementNames then ':' :: name
  else ':' :: ':' :: name ++ argumentsText arguments

/-- The text in front of the alternatives in a pseudo-class or pseudo-element. -/
def SelectorFunction.openingText : SelectorFunction → List Char
  | .isAny => ":is(".toList
  | .whereAny => ":where(".toList
  | .webkitAny => ":-webkit-any(".toList
  | .mozAny => ":-moz-any(".toList
  | .isNone => ":not(".toList
  | .has => ":has(".toList
  | .host => ":host(".toList
  | .slotted => "::slotted(".toList
  | .cue => "::cue(".toList
  | .cueRegion => "::cue-region(".toList
  | .nth counting positions =>
    ':' :: counting.name.toList ++ '(' :: positions.text ++ " of ".toList

/-- Whether the alternatives can stand without the parentheses: there is one, which describes one
element and does not start with its type. -/
def SelectorFunction.isUnwrapped : SelectorFunction → SelectorList → Bool
  | .isAny, [[(_, .type .. :: _)]] | .isAny, [[(_, .universal _ :: _)]] => false
  | .isAny, [[_]] => true
  | _, _ => false

/-- Whether a universal selector with the given conditions behind it is printed: it is alone, or
all that follows is said of parts of the element. -/
def showsUniversal : Compound → Bool
  | [] | .part _ :: _ => true
  | _ => false

mutual

/-- The canonical text of a simple selector. -/
def Simple.text : Simple → List Char
  | .type space name => namespaceText space ++ serialized name
  | .universal space => namespaceText space ++ ['*']
  | .nesting => ['&']
  | .hasClass name => '.' :: serialized name
  | .hasId name => '#' :: serialized name
  | .hasAttribute space name condition =>
    '[' :: attributeSpaceText space ++ serialized name ++ (match condition with
      | some condition => condition.text
      | none => []) ++ [']']
  | .pseudoClass name arguments => ':' :: name ++ argumentsText arguments
  | .pseudoElement name arguments => pseudoElementText name arguments
  | .part names => "::part(".toList ++ [' '].intercalate (names.map serialized) ++ [')']
  | .selecting function alternatives =>
    if function.isUnwrapped alternatives then selectorListText alternatives
    else function.openingText ++ selectorListText alternatives ++ [')']

/-- The texts of simple selectors in a row. -/
def simplesText : List Simple → List Char
  | [] => []
  | s :: rest => s.text ++ simplesText rest

/-- The canonical text of a compound. A reference to the rule around may stand in front of a
universal selector, but only in the first compound does that one count as standing alone. -/
def compoundText (isFirst : Bool) : List Simple → List Char
  | .universal none :: rest => (if showsUniversal rest then ['*'] else []) ++ simplesText rest
  | .nesting :: .universal space :: rest =>
    '&' :: namespaceText space ++
      (if isFirst && (space.isSome || showsUniversal rest) then ['*'] else []) ++ simplesText rest
  | s :: rest => s.text ++ simplesText rest
  | [] => []

/-- The canonical text of compounds in a row. -/
def complexText (isFirst : Bool) : List (Option Combinator × List Simple) → List Char
  | [] => []
  | (relation, compound) :: rest =>
    combinatorText relation ++ compoundText isFirst compound ++ complexText false rest

/-- The canonical text of a selector list. -/
def selectorListText : List (List (Option Combinator × List Simple)) → List Char
  | [] => []
  | [alternative] => complexText true alternative
  | alternative :: rest => complexText true alternative ++ ',' :: ' ' :: selectorListText rest

end

end ElmClasses.Css
