import ElmClasses.Css.Selector

/-!
# Parts of selectors and their reading

In front of a block the components of a style sheet spell parts: conditions on an element, and the
marks between them. Every component belongs to a part, so a part can also be one that no selector
holds. Which parts may follow each other is not settled by them. Making parts is the only step that
looks into brackets, and the parts of the arguments of a pseudo-class or pseudo-element hang below
it, even where its arguments turn out to be no selectors.
-/

namespace ElmClasses.Css

/-- A condition on an element, or a mark between conditions. -/
inductive Part where
  | blank
  | comma
  | combinator (c : Combinator)
  | nesting
  /-- A type, or if the name is missing the universal selector. -/
  | element (space : Option Namespace) (name : Option Name)
  /-- A type that ends behind its bar. -/
  | cutElement
  /-- A class, an identifier or an attribute. -/
  | simple (s : Simple)
  | pseudoClass (name : Name)
  | pseudoElement (name : Name)
  /-- A pseudo-class or pseudo-element with arguments, and the parts that these spell. Those of a
  pseudo-class that counts start behind the word `of`. -/
  | function (isElement : Bool) (name : Name) (arguments : List Component) (parts : List Part)
  /-- What no selector holds. -/
  | other

/-- The explicit choice of letter case at the end of an attribute selector. -/
def readCaseFlag (contents : List Component) : Option (Option Char) :=
  match Component.trimStart contents with
  | [] => some none
  | [.token (.ident name)] =>
    if name.isOneOf ["i"] then some (some 'i')
    else if name.isOneOf ["s"] then some (some 's')
    else none
  | _ => none

/-- The value of an attribute selector and what follows it. -/
def readAttributeValue (operator : Option Char) (contents : List Component) :
    Option AttributeCondition := do
  match Component.trimStart contents with
  | .token (.ident value) :: rest => some ⟨operator, value, ← readCaseFlag rest⟩
  | .token (.string value) :: rest => some ⟨operator, value, ← readCaseFlag rest⟩
  | _ => none

/-- The condition behind the name of an attribute. -/
def readAttributeCondition (contents : List Component) : Option (Option AttributeCondition) :=
  match Component.trimStart contents with
  | [] => some none
  | .token (.delim '=') :: rest => (readAttributeValue none rest).map some
  | .token (.comparison c) :: rest => (readAttributeValue (some c) rest).map some
  | _ => none

/-- The attribute selector between square brackets. -/
def readAttribute (contents : List Component) : Option Simple :=
  match Component.trim contents with
  | .token (.ident space) :: .token (.delim '|') :: .token (.ident name) :: rest =>
    (readAttributeCondition rest).map (.hasAttribute (some (.named space)) name)
  | .token (.delim '*') :: .token (.delim '|') :: .token (.ident name) :: rest =>
    (readAttributeCondition rest).map (.hasAttribute (some .any) name)
  | .token (.delim '|') :: .token (.ident name) :: rest =>
    (readAttributeCondition rest).map (.hasAttribute (some .absent) name)
  | .token (.ident name) :: rest => (readAttributeCondition rest).map (.hasAttribute none name)
  | _ => none

/-- The part that square brackets spell. -/
def Part.ofSquare (contents : List Component) : Part :=
  match readAttribute contents with
  | some s => .simple s
  | none => .other

/-- What one component contributes to a part. -/
inductive Mark where
  | blank
  | comma
  | combinator (c : Combinator)
  | nesting
  | ident (name : Name)
  | star
  | bar
  | dot
  | colon
  /-- A part by itself. -/
  | whole (part : Part)
  /-- A function with the parts that its arguments spell. -/
  | function (name : Name) (arguments : List Component) (parts : List Part)
  | other

/-- The way of counting that a pseudo-class stands for. -/
def Counting.ofName? (name : Name) : Option Counting :=
  [Counting.child, .lastChild, .ofType, .lastOfType, .column, .lastColumn].find?
    fun counting => name.isOneOf [counting.name]

/-- Whether a mark is the word in front of the selectors of a pseudo-class that counts. -/
def Mark.isOf : Mark → Bool
  | .ident name => name.isOneOf ["of"]
  | _ => false

/-- The marks of the selectors among the arguments of a function. -/
def Mark.selectorMarks (name : Name) (marks : List Mark) : List Mark :=
  if (Counting.ofName? name).isSome then (marks.dropWhile (!·.isOf)).tail else marks

/-- The mark of a token. -/
def Mark.ofToken : Token → Mark
  | .whitespace => .blank
  | .comma => .comma
  | .colon => .colon
  | .ident name => .ident name
  | .hash name true => .whole (.simple (.hasId name))
  | .delim '>' => .combinator .child
  | .delim '+' => .combinator .nextSibling
  | .delim '~' => .combinator .laterSibling
  | .delim '&' => .nesting
  | .delim '*' => .star
  | .delim '|' => .bar
  | .delim '.' => .dot
  | _ => .other

/-- The pseudo-class, or older pseudo-element, behind one colon. -/
def Part.ofColon (name : Name) : Part :=
  if name.isOneOf legacyElementNames then .pseudoElement name else .pseudoClass name

/-- The parts that marks spell. -/
def Part.ofMarks : List Mark → List Part
  | [] => []
  | .blank :: rest => .blank :: ofMarks rest
  | .comma :: rest => .comma :: ofMarks rest
  | .combinator c :: rest => .combinator c :: ofMarks rest
  | .nesting :: rest => .nesting :: ofMarks rest
  | .whole part :: rest => part :: ofMarks rest
  | .ident space :: .bar :: rest => ofBar (.named space) rest
  | .star :: .bar :: rest => ofBar .any rest
  | .bar :: rest => ofBar .absent rest
  | .ident name :: rest => .element none (some name) :: ofMarks rest
  | .star :: rest => .element none none :: ofMarks rest
  | .dot :: .ident name :: rest => .simple (.hasClass name) :: ofMarks rest
  | .colon :: .ident name :: rest => .ofColon name :: ofMarks rest
  | .colon :: .function name arguments parts :: rest =>
    .function (name.isOneOf legacyElementNames) name arguments parts :: ofMarks rest
  | .colon :: .colon :: .ident name :: rest => .pseudoElement name :: ofMarks rest
  | .colon :: .colon :: .function name arguments parts :: rest =>
    .function true name arguments parts :: ofMarks rest
  | _ :: rest => .other :: ofMarks rest
where
  /-- The parts that marks spell behind a namespace and its bar. -/
  ofBar (space : Namespace) : List Mark → List Part
    | .ident name :: rest => .element (some space) (some name) :: ofMarks rest
    | .star :: rest => .element (some space) none :: ofMarks rest
    | .comma :: rest => .cutElement :: .comma :: ofMarks rest
    | [] => [.cutElement]
    | _ :: rest => .other :: ofMarks rest

mutual

/-- The mark of a component. -/
def Mark.ofComponent : Component → Mark
  | .token t => .ofToken t
  | .block (.bracket .square) contents => .whole (.ofSquare contents)
  | .block (.function name) arguments =>
    .function name arguments (Part.ofMarks (Mark.selectorMarks name (marksOf arguments)))
  | .block _ _ => .other

/-- The marks of components. -/
def marksOf : List Component → List Mark
  | [] => []
  | c :: cs => Mark.ofComponent c :: marksOf cs

end

/-- The parts that components spell. -/
def Part.ofComponents (components : List Component) : List Part :=
  Part.ofMarks (marksOf components)

/-!
## Selectors that are being read

A `Reading` is a selector of which some parts were read. What may follow depends on the place
between its simple selectors, and on its `Surroundings`: a pseudo-element in front narrows what can
be said of the element, and so do the parentheses around the selector. A reading that meets what may
not follow is spoiled. It stays so, but still tells whether it referred to the rule around a nested
rule before.
-/

/-- What restricts the simple selectors that may follow. -/
structure Surroundings where
  behindPart : Bool := false
  behindSlotted : Bool := false
  /-- Behind any other pseudo-element that has a meaning. -/
  behindElement : Bool := false
  /-- Behind a part of a scroll bar. -/
  behindScrollbar : Bool := false
  /-- Behind an image of a transition. -/
  behindTransition : Bool := false
  /-- Inside parentheses that admit no pseudo-elements. -/
  refusesElements : Bool := false
  /-- Inside parentheses that admit no combinators. -/
  refusesCombinators : Bool := false
deriving DecidableEq, Repr

namespace Surroundings

/-- Whether what follows is said of a part of an element. -/
def isBehindPseudo (s : Surroundings) : Bool :=
  s.behindPart || s.behindSlotted || s.behindElement

/-- Whether a combinator may follow. -/
def admitsCombinator (s : Surroundings) : Bool :=
  !s.isBehindPseudo && !s.refusesCombinators

/-- Whether the names of parts, or elements in a slot, may follow. -/
def admitsPart (s : Surroundings) : Bool :=
  !s.isBehindPseudo && !s.refusesElements

/-- Whether any other pseudo-element may follow. -/
def admitsElement (s : Surroundings) (name : Name) (hasArguments : Bool) : Bool :=
  !s.behindElement && !s.refusesElements &&
    (!s.behindSlotted || !hasArguments && name.isOneOf slottedElementNames)

/-- Whether a pseudo-class that is not structural may follow. -/
def admitsState (s : Surroundings) (name : Name) : Bool :=
  if s.behindScrollbar then name.isOneOf scrollbarStateNames || name.isOneOf sharedStateNames
  else if s.behindElement then name.isOneOf userActionNames
  else !name.isOneOf scrollbarStateNames

/-- The pseudo-class of a name, if it may follow. Structural names are free behind a
pseudo-element, where they have no meaning. -/
def pseudoClass? (s : Surroundings) (name : Name) : Option Simple :=
  if s.behindSlotted then none
  else if name.isOneOf structuralNames && !s.isBehindPseudo ||
      name.isOneOf ["only-child"] && s.behindTransition then some (.pseudoClass name.lowered none)
  else if s.admitsState name then some (.pseudoClass (canonicalClassName name) none)
  else none

/-- The surroundings behind a pseudo-element, by its canonical name. Nothing is known of what may
follow one that has no meaning. -/
def behind (s : Surroundings) (name : Name) (hasArguments : Bool) : Surroundings :=
  if isMeaningfulElement name hasArguments then
    { s with
      behindElement := true
      behindScrollbar := s.behindScrollbar || name.isOneOf scrollbarElementNames
      behindTransition := s.behindTransition || name.isOneOf transitionElementNames }
  else s

end Surroundings

/-- Where a selector continues. -/
inductive Place where
  /-- At the start of a selector that may be relative. -/
  | opening
  /-- At the start of a compound. -/
  | start
  /-- Behind a reference to the rule around, at the start of a compound. -/
  | behindNesting
  | inside
  /-- Behind a compound and blanks. -/
  | blank
  /-- Behind a bar, which nothing may follow. -/
  | cut
deriving DecidableEq, Repr

/-- A selector of which some parts were read. -/
structure Reading where
  surroundings : Surroundings
  place : Place
  /-- The compounds before the present one, the last first. -/
  before : ComplexSelector := []
  /-- The relation of the present compound to the one before it. -/
  relation : Option Combinator := none
  /-- The present compound, its last simple selector first. -/
  compound : Compound := []
  /-- Whether a reference to the rule around was read. -/
  refersToParent : Bool := false
  isValid : Bool := true
deriving Repr

namespace Reading

/-- A reading that met what may not follow. -/
def spoiled (r : Reading) : Reading :=
  { r with isValid := false }

/-- A reading with the present compound ended by a combinator. -/
def combined (r : Reading) (c : Combinator) : Reading :=
  if r.surroundings.admitsCombinator then
    { r with
      place := .start
      before := (r.relation, r.compound.reverse) :: r.before
      relation := some c
      compound := [] }
  else r.spoiled

/-- A reading where a simple selector follows. Behind blanks that starts a compound. -/
def resumed (r : Reading) : Reading :=
  match r.place with
  | .blank => r.combined .descendant
  | .cut => r.spoiled
  | _ => r

/-- A reading with a further simple selector. -/
def push (r : Reading) (s : Simple) : Reading :=
  { r with place := .inside, compound := s :: r.compound }

/-- A reading with a further simple selector, which is missing if none may follow. -/
def pushed (r : Reading) (s : Option Simple) : Reading :=
  match s with
  | some s => r.push s
  | none => r.spoiled

/-- A reading behind blanks. -/
def addBlank (r : Reading) : Reading :=
  match r.place with
  | .behindNesting | .inside => { r with place := .blank }
  | .cut => r.spoiled
  | _ => r

/-- A reading behind a combinator. -/
def addCombinator (r : Reading) (c : Combinator) : Reading :=
  match r.place with
  | .opening => { r with place := .start, relation := some c }
  | .behindNesting | .inside | .blank => r.combined c
  | .start | .cut => r.spoiled

/-- A reading behind a reference to the rule around. -/
def addNesting (r : Reading) : Reading :=
  let r := r.resumed
  if r.isValid then
    let place := if r.place = .opening || r.place = .start then Place.behindNesting else .inside
    { r.push .nesting with place := place, refersToParent := true }
  else r

/-- A reading behind a type or universal selector, which stands first in its compound but for one
reference to the rule around. -/
def addElement (r : Reading) (s : Simple) : Reading :=
  let r := r.resumed
  if r.surroundings.isBehindPseudo || r.place = .inside then r.spoiled
  else r.push s

/-- A reading behind a bar without a name, which counts as nothing behind a reference to the rule
around. -/
def addCut (r : Reading) : Reading :=
  if r.place = .behindNesting then { r with place := .cut } else r.spoiled

/-- A reading behind a class, identifier or attribute. -/
def addSimple (r : Reading) (s : Simple) : Reading :=
  let r := r.resumed
  if r.surroundings.isBehindPseudo then r.spoiled else r.push s

/-- A reading behind a pseudo-class without arguments. -/
def addPseudoClass (r : Reading) (name : Name) : Reading :=
  let r := r.resumed
  r.pushed (r.surroundings.pseudoClass? name)

/-- A reading behind a pseudo-class with arguments, which were read as `s`. -/
def addFunctional (r : Reading) (s : Option Simple) : Reading :=
  let r := r.resumed
  if r.surroundings.isBehindPseudo then r.spoiled else r.pushed s

/-- A reading behind a pseudo-element, by its canonical name. -/
def addPseudoElement (r : Reading) (name : Name) (arguments : Option (List Char)) : Reading :=
  let r := r.resumed
  if r.surroundings.admitsElement name arguments.isSome then
    { r.push (.pseudoElement name arguments) with
      surroundings := r.surroundings.behind name arguments.isSome }
  else r.spoiled

/-- A reading behind the names of parts. -/
def addPart (r : Reading) (names : List Name) : Reading :=
  let r := r.resumed
  if r.surroundings.admitsPart then
    { r.push (.part names) with surroundings := { r.surroundings with behindPart := true } }
  else r.spoiled

/-- The selector that was read, if it may end here. -/
def selector? (r : Reading) : Option ComplexSelector :=
  if !r.isValid || r.place = .opening || r.place = .start then none
  else some ((r.relation, r.compound.reverse) :: r.before).reverse

end Reading

end ElmClasses.Css
