import ElmClasses.Css.Selector.Reading

/-!
# Reading selectors

The parts in front of a block, or between the parentheses of a pseudo-class, are read one after
another; a comma ends an alternative and starts the next one. Most lists are refused as a whole if
one alternative is spoiled. The forgiving ones, such as the arguments of `:is()`, lose that
alternative instead, and may even be empty.

In a nested rule a selector may start with a combinator, and the reference to the rule around is
made explicit. Whether a selector refers to that rule by itself is settled by all that was read, so
a reference in a lost alternative of `:is()` counts too.
-/

namespace ElmClasses.Css

/-- Components divided at their commas, without the white space around each piece. -/
def commaSeparated (components : List Component) : List (List Component) :=
  (components.splitOnP Component.isComma).map Component.trim

/-- Whether components are one name that an author may choose. -/
def isCustomIdent : List Component → Bool
  | [.token (.ident name)] => name.isCustom
  | _ => false

/-- Whether components are one language. -/
def isLanguage : List Component → Bool
  | [.token (.ident _)] | [.token (.string _)] => true
  | _ => false

/-- Whether arguments are allowed in the pseudo-class of a name. -/
def admitsClassArguments (name : Name) (arguments : List Component) : Bool :=
  if name.isOneOf ["lang"] then (commaSeparated arguments).all isLanguage
  else if name.isOneOf ["dir"] then
    match Component.trim arguments with
    | [.token (.ident direction)] => direction.isOneOf ["ltr", "rtl"]
    | _ => false
  else if name.isOneOf ["state"] then isCustomIdent (Component.trim arguments)
  else if name.isOneOf ["active-view-transition-type"] then
    (commaSeparated arguments).all isCustomIdent
  else Component.areSound arguments

/-- Whether components are classes of transition images. -/
def areTransitionClasses : List Component → Bool
  | [] => true
  | .token (.delim '.') :: .token (.ident _) :: rest => areTransitionClasses rest
  | _ => false

/-- Whether components select transition images: by name or an asterisk, by classes, or both. -/
def isTransitionPart (arguments : List Component) : Bool :=
  match Component.trimStart arguments with
  | .token (.delim '*') :: rest => areTransitionClasses rest
  | .token (.ident name) :: rest => name.isCustom && areTransitionClasses rest
  | rest => areTransitionClasses rest

/-- Whether arguments are allowed in the pseudo-element of a name. -/
def admitsElementArguments (name : Name) (arguments : List Component) : Bool :=
  if name.isOneOf transitionElementNames then isTransitionPart arguments
  else if name.isOneOf ["highlight"] then isCustomIdent (Component.trim arguments)
  else if name.isOneOf ["picker"] then
    match Component.trim arguments with
    | [.token (.ident _)] => true
    | _ => false
  else Component.areSound arguments

/-- The names in the arguments of `::part()`. -/
def partNames? (arguments : List Component) : Option (List Name) :=
  let names := (arguments.filter (!·.isWhitespace)).mapM fun
    | .token (.ident name) => some name
    | _ => none
  match names with
  | some [] => none
  | names => names

/-- The pseudo-class that counts without selectors. -/
def countingClass? (name : Name) (arguments : List Component) : Option Simple :=
  match Nth.read arguments with
  | some (positions, rest) =>
    if (Component.trimStart rest).isEmpty then
      some (.pseudoClass name.lowered (some positions.text))
    else none
  | none => none

/-- The pseudo-class `name(…)` with arguments that are no selectors. -/
def functionalClass? (name : Name) (arguments : List Component) : Option Simple :=
  if (Counting.ofName? name).isSome then countingClass? name arguments
  else if admitsClassArguments name arguments then
    let isMeaningful := name.isOneOf ["lang", "dir", "state", "active-view-transition-type"]
    some (.pseudoClass (if isMeaningful then name.lowered else name)
      (some (Component.texts (Component.trim arguments))))
  else none

/-- A reading behind the pseudo-class or pseudo-element `name(…)` with arguments that are no
selectors. -/
def Reading.addFunction (r : Reading) (isElement : Bool) (name : Name)
    (arguments : List Component) : Reading :=
  if !isElement then r.addFunctional (functionalClass? name arguments)
  else if name.isOneOf ["part"] then
    match partNames? arguments with
    | some names => r.addPart names
    | none => r.spoiled
  else if admitsElementArguments name arguments then
    r.addPseudoElement (if isMeaningfulElement name true then name.lowered else name)
      (some (Component.texts (Component.trim arguments)))
  else r.spoiled

/-- The pseudo-class with selectors that counts, if the word `of` stands behind its positions. -/
def countingFunction? (name : Name) (arguments : List Component) : Option SelectorFunction := do
  let counting ← Counting.ofName? name
  let (positions, rest) ← Nth.read arguments
  match counting, Component.trimStart rest with
  | .child, .token (.ident of) :: _ | .lastChild, .token (.ident of) :: _ =>
    if of.isOneOf ["of"] then some (.nth counting positions) else none
  | _, _ => none

/-- The pseudo-class or pseudo-element with selectors as arguments that a name stands for. -/
def SelectorFunction.ofName? (isElement : Bool) (name : Name) (arguments : List Component) :
    Option SelectorFunction :=
  if isElement then
    if name.isOneOf ["slotted"] then some .slotted
    else if name.isOneOf ["cue"] then some .cue
    else if name.isOneOf ["cue-region"] then some .cueRegion
    else none
  else if name.isOneOf ["is"] then some .isAny
  else if name.isOneOf ["where"] then some .whereAny
  else if name.isOneOf ["-webkit-any"] then some .webkitAny
  else if name.isOneOf ["-moz-any"] then some .mozAny
  else if name.isOneOf ["not"] then some .isNone
  else if name.isOneOf ["has"] then some .has
  else if name.isOneOf ["host"] then some .host
  else countingFunction? name arguments

namespace SelectorFunction

/-- Whether the function loses spoiled alternatives. -/
def isForgiving : SelectorFunction → Bool
  | .isAny | .whereAny | .webkitAny | .mozAny | .has => true
  | _ => false

/-- Whether the function takes one selector. -/
def isSingle : SelectorFunction → Bool
  | .host | .slotted | .cue | .cueRegion => true
  | _ => false

/-- Whether a reference to the rule around counts for the selector that the function stands in. -/
def sharesNesting : SelectorFunction → Bool
  | .cue | .cueRegion | .nth .. => false
  | _ => true

/-- The surroundings of the alternatives in a function. -/
def inside (outer : Surroundings) : SelectorFunction → Surroundings
  | .has => outer
  | .cue | .cueRegion => {}
  | .host | .slotted => { outer with refusesElements := true, refusesCombinators := true }
  | _ => { outer with refusesElements := true }

/-- The start of an alternative in a function. -/
def firstReading (outer : Surroundings) (function : SelectorFunction) : Reading :=
  { surroundings := function.inside outer, place := if function = .has then .opening else .start }

/-- The alternatives in a function, unless it refuses them. -/
def alternatives? (function : SelectorFunction) (readings : List Reading) : Option SelectorList :=
  if function.isForgiving then some (readings.filterMap Reading.selector?)
  else if function.isSingle && readings.length != 1 then none
  else readings.mapM Reading.selector?

/-- Whether the function may follow in its surroundings. -/
def mayFollow (outer : Surroundings) : SelectorFunction → Bool
  | .slotted => outer.admitsPart
  | .cue => outer.admitsElement "cue".toList true
  | .cueRegion => outer.admitsElement "cue-region".toList true
  | .host | .nth .. => !outer.isBehindPseudo
  | _ => true

/-- The surroundings behind the function. -/
def behind (outer : Surroundings) : SelectorFunction → Surroundings
  | .slotted => { outer with behindSlotted := true }
  | .cue | .cueRegion => { outer with behindElement := true }
  | _ => outer

end SelectorFunction

/-- A reading behind a pseudo-class or pseudo-element of which the alternatives were read. -/
def Reading.addSelecting (r : Reading) (function : SelectorFunction) (readings : List Reading) :
    Reading :=
  match r.isValid && function.mayFollow r.surroundings, function.alternatives? readings with
  | true, some alternatives =>
    { r.push (.selecting function alternatives) with
      surroundings := function.behind r.surroundings
      refersToParent := r.refersToParent ||
        function.sharesNesting && readings.any Reading.refersToParent }
  | _, _ => r.spoiled

/-- The simple selector of a type, or the universal one. -/
def Simple.ofElement (space : Option Namespace) : Option Name → Simple
  | some name => .type space name
  | none => .universal space

mutual

/-- A reading behind a further part, other than a comma. -/
def Part.read (r : Reading) : Part → Reading
  | .blank => r.addBlank
  | .combinator c => r.addCombinator c
  | .nesting => r.addNesting
  | .element space name => r.addElement (.ofElement space name)
  | .cutElement => r.addCut
  | .simple s => r.addSimple s
  | .pseudoClass name => r.addPseudoClass name
  | .pseudoElement name => r.addPseudoElement (canonicalElementName name) none
  | .function isElement name arguments parts =>
    match SelectorFunction.ofName? isElement name arguments with
    | some function =>
      let r := r.resumed
      let first := function.firstReading r.surroundings
      r.addSelecting function (readParts first first parts)
    | none => r.addFunction isElement name arguments
  | .comma | .other => r.spoiled

/-- The readings of all alternatives, of which each starts as `first` and the present one was read
as `r`. -/
def readParts (first r : Reading) : List Part → List Reading
  | [] => [r]
  | .comma :: parts => r :: readParts first first parts
  | part :: parts => readParts first (if r.isValid then part.read r else r) parts

end

/-- The readings of the alternatives that components spell. -/
def readAlternatives (isRelative : Bool) (components : List Component) : List Reading :=
  let first : Reading := { surroundings := {}, place := if isRelative then .opening else .start }
  readParts first first (Part.ofComponents components)

/-- The selector list that components spell in a rule outside of other rules. -/
def SelectorList.ofComponents? (components : List Component) : Option SelectorList :=
  (readAlternatives false components).mapM Reading.selector?

/-- The selector list that components spell in a nested rule, with its references to the rule
around. -/
def SelectorList.ofNested? (components : List Component) : Option SelectorList :=
  (readAlternatives true components).mapM fun r => r.selector?.map (withParent r.refersToParent)

end ElmClasses.Css
