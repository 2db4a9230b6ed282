import ElmClasses.Css.AtRule.Parts

/-!
# At-rules

An at-rule is a name, arguments, and a block or a semicolon. Which one it is follows from its name,
and that decides what its arguments and its block may be and where it may stand. Some names have a
meaning only in the style sheet itself, and inside of style rules only few at-rules are allowed. A
name without a meaning makes an unknown at-rule, whose arguments and block may be any values.

Imports and namespaces stand before everything else in a style sheet, in this order, and only
declarations of layers may stand before the imports.
-/

namespace ElmClasses.Css

/-- How far a style sheet has come. -/
inductive Stage where
  /-- Nothing came before. -/
  | fresh
  | started
  | layers
  | imports
  | namespaces
  | body
deriving DecidableEq, Repr

/-- The position of a stage. -/
def Stage.rank : Stage → Nat
  | .fresh => 0
  | .started => 1
  | .layers => 2
  | .imports => 3
  | .namespaces => 4
  | .body => 5

/-- What a statement stands in. -/
inductive Context where
  /-- The style sheet itself. -/
  | sheet (stage : Stage)
  /-- A conditional block outside of style rules. -/
  | conditional
  /-- A style rule, or a conditional block inside of one. -/
  | style
deriving DecidableEq, Repr

namespace Context

/-- Whether a component is skipped in front of a statement. -/
def skips (context : Context) : Component → Bool
  | .token .whitespace => true
  | .token .commentOpen | .token .commentClose =>
    match context with
    | .sheet _ => true
    | _ => false
  | _ => false

/-- Whether a style sheet may still come to a stage. -/
def mayReach (context : Context) (stage : Stage) : Bool :=
  match context with
  | .sheet present => present.rank ≤ stage.rank
  | _ => false

/-- The context when a style sheet has come to a stage. -/
def reaching (context : Context) (stage : Stage) : Context :=
  match context with
  | .sheet _ => .sheet stage
  | _ => context

/-- The context behind a statement that may stand anywhere. -/
def started (context : Context) : Context :=
  if context = .sheet .fresh then .sheet .started else context

/-- The context inside a conditional block. -/
def insideConditional : Context → Context
  | .style => .style
  | _ => .conditional

end Context

/-- An at-rule, by what follows from its name and arguments. -/
inductive AtRule where
  /-- A block of rules. -/
  | conditional
  /-- A block of rules in a layer, or a declaration of some layers. -/
  | layer (count : Nat)
  /-- A block of rules in another style rule, with selectors of its own. -/
  | nest
  | sheetImport
  | sheetNamespace
  | charset
  | property
  /-- A block of declarations. -/
  | declarations
  /-- A block of boxes. -/
  | boxes (kind : BoxKind)
  /-- A block of which nothing is checked. -/
  | unchecked
  | unknown

namespace AtRule

/-- The at-rules of some names, with the arguments that they admit. -/
structure Form where
  names : List String
  admits : List Component → Bool
  rule : AtRule

/-- At-rules that have a meaning wherever they are allowed. -/
def forms : List Form := [
  ⟨["media"], isMediaList, .conditional⟩,
  ⟨["supports"], isSupportsQuery, .conditional⟩,
  ⟨["container"], isContainerQuery, .conditional⟩,
  ⟨["starting-style"], isBlank, .conditional⟩,
  ⟨["scope"], isScope, .conditional⟩,
  ⟨["-moz-document"], isEveryDocument, .conditional⟩,
  ⟨["font-face", "view-transition"], isBlank, .unchecked⟩,
  ⟨["font-palette-values"], isDashedIdent, .unchecked⟩,
  ⟨["keyframes", "-webkit-keyframes", "-moz-keyframes", "-ms-keyframes", "-o-keyframes"],
    isAnimationName, .unchecked⟩,
  ⟨["counter-style"], fun arguments => isCustomIdent (Component.trim arguments), .declarations⟩,
  ⟨["viewport", "-ms-viewport"], isBlank, .declarations⟩,
  ⟨["page"], arePageSelectors, .boxes pageBoxes⟩,
  ⟨["font-feature-values"], fun arguments => (pieceCount? isFamilyName arguments).isSome,
    .boxes fontFeatureBoxes⟩]

/-- At-rules that have a meaning only in the style sheet itself. -/
def sheetForms : List Form := [
  ⟨["import"], isImport, .sheetImport⟩,
  ⟨["namespace"], isNamespace, .sheetNamespace⟩,
  ⟨["charset"], isString, .charset⟩,
  ⟨["property"], isDashedIdent, .property⟩]

/-- Whether an at-rule is allowed in a context. Imports and namespaces may come too late. -/
def isAllowed (context : Context) : AtRule → Bool
  | .conditional | .layer _ | .nest | .unknown => true
  | .sheetImport => context.mayReach .imports
  | .sheetNamespace => context.mayReach .namespaces
  | _ => context != .style

/-- The forms that have a meaning in a context. -/
def formsIn : Context → List Form
  | .sheet _ => sheetForms ++ forms
  | _ => forms

/-- The at-rule of a name with arguments, whether it is allowed or not. -/
def ofName? (context : Context) (name : Name) (arguments : List Component) : Option AtRule :=
  if name.isOneOf ["layer"] then (layerCount? arguments).map .layer
  else if name.isOneOf ["nest"] && context = .style then
    if areNestingSelectors arguments then some .nest else none
  else
    match (formsIn context).find? fun form => name.isOneOf form.names with
    | some form => if form.admits arguments then some form.rule else none
    | none => if isValue arguments then some .unknown else none

/-- The at-rule of a name with arguments, if it is allowed in its context. -/
def read? (context : Context) (name : Name) (arguments : List Component) : Option AtRule :=
  (ofName? context name arguments).filter (isAllowed context)

/-- The context behind an at-rule without block, if it may lack one. -/
def afterStatement? (context : Context) : AtRule → Option Context
  | .layer count =>
    if context = .style || count = 0 then none
    else some (context.reaching (if context.mayReach .layers then .layers else .body))
  | .sheetImport => some (context.reaching .imports)
  | .sheetNamespace => some (context.reaching .namespaces)
  | .charset | .unknown => some context.started
  | _ => none

/-- What a block without style rules may hold. -/
def admitsBlock (contents : List Component) : AtRule → Bool
  | .property => isRegistration contents
  | .declarations => areDeclarations contents
  | .boxes kind => kind.areBoxes [] contents
  | .unchecked => true
  | .unknown => isValue contents
  | _ => false

/-- Whether the block of an at-rule holds rules. -/
def holdsRules : AtRule → Bool
  | .conditional | .nest => true
  | .layer count => count ≤ 1
  | _ => false

end AtRule

end ElmClasses.Css
