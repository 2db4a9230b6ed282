import ElmClasses.Css.Query
import ElmClasses.Css.Selector.Reader

/-!
# The parts of at-rules

What stands between the name of an at-rule and its block or semicolon are its arguments. White space
around them never counts.

Blocks that hold no style rules hold declarations only, or boxes too: at-rules of their own with
declarations in their blocks. The block of a registered property describes it by three declarations.
-/

namespace ElmClasses.Css

/-- Whether components are blank. -/
def isBlank (components : List Component) : Bool :=
  components.all Component.isWhitespace

/-- Read an address: a string, or one in `url()`. -/
def readAddress? (components : List Component) : Option (List Component) :=
  match Component.trimStart components with
  | .token (.string _) :: rest | .token .url :: rest => some rest
  | .block (.function name) arguments :: rest =>
    if name.isOneOf ["url"] && isString arguments then some rest else none
  | _ => none

/-- Whether components are further names of a layer, each behind a dot. -/
def areSublayers : List Component → Bool
  | [] => true
  | .token (.delim '.') :: .token (.ident _) :: rest => areSublayers rest
  | _ => false

/-- Whether components are the name of a layer. -/
def isLayerName (components : List Component) : Bool :=
  match Component.trim components with
  | .token (.ident _) :: rest => areSublayers rest
  | _ => false

/-- The number of pieces between commas, of which each is admitted. Pieces of which only the last is
blank count as none. -/
def pieceCount? (admits : List Component → Bool) (components : List Component) : Option Nat :=
  let pieces := components.splitOnP Component.isComma
  if pieces.all admits then some pieces.length
  else if pieces.dropLast.all admits && (pieces.getLast?.map isBlank).getD false then some 0
  else none

/-- The number of layers that components name. -/
def layerCount? (components : List Component) : Option Nat :=
  pieceCount? isLayerName components

/-- Read the layer that an imported sheet belongs to, if there is one. -/
def readImportLayer? (components : List Component) : Option (List Component) :=
  match Component.trimStart components with
  | .token (.ident name) :: rest =>
    if name.isOneOf ["layer"] then some rest else some components
  | .block (.function name) arguments :: rest =>
    if !name.isOneOf ["layer"] then some components
    else if isLayerName arguments then some rest
    else none
  | _ => some components

/-- Whether components are a declaration of which only the form is checked. -/
def isSupportDeclaration (components : List Component) : Bool :=
  (declared? (Component.trimStart components)).isSome && Component.areSound components

/-- Read the support that an import asks for, if it does. -/
def readImportSupport? (components : List Component) : Option (List Component) :=
  match Component.trimStart components with
  | .block (.function name) arguments :: rest =>
    if !name.isOneOf ["supports"] then some components
    else if isSupportsQuery arguments || isSupportDeclaration arguments then some rest
    else none
  | _ => some components

/-- Whether components tell what to import, and on which conditions. -/
def isImport (components : List Component) : Bool :=
  match ((readAddress? components).bind readImportLayer?).bind readImportSupport? with
  | some media => isMediaList media
  | none => false

/-- Whether components declare a namespace, perhaps with a prefix for it. -/
def isNamespace (components : List Component) : Bool :=
  let address :=
    match Component.trimStart components with
    | .token (.ident _) :: rest => rest
    | _ => components
  (readAddress? address).any isBlank

/-- Whether components are a name with two hyphens in front. -/
def isDashedIdent (components : List Component) : Bool :=
  match Component.trim components with
  | [.token (.ident name)] => name.isDashed
  | _ => false

/-- Whether components are the name of an animation. -/
def isAnimationName (components : List Component) : Bool :=
  match Component.trim components with
  | [.token (.ident name)] => name.isCustom && !name.isOneOf ["none"]
  | [.token (.string _)] => true
  | _ => false

/-- Whether components are the name of a family of fonts. -/
def isFamilyName (components : List Component) : Bool :=
  isString components ||
    !isBlank components && components.all fun c => c.isWhitespace || isIdent c

/-- Whether components are pseudo-classes of pages, one right behind the other. -/
def arePageClasses : List Component → Bool
  | [] => true
  | .token .colon :: .token (.ident name) :: rest
  | .token .colon :: .token .whitespace :: .token (.ident name) :: rest =>
    name.isOneOf ["left", "right", "first", "last", "blank"] && arePageClasses rest
  | _ => false

/-- Whether components select pages. -/
def isPageSelector (components : List Component) : Bool :=
  match Component.trim components with
  | [] => false
  | .token (.ident _) :: rest => arePageClasses rest
  | rest => arePageClasses rest

/-- Whether components are selectors of pages, or nothing. -/
def arePageSelectors (components : List Component) : Bool :=
  isBlank components || (components.splitOnP Component.isComma).all isPageSelector

/-- Whether a component is a block in parentheses. -/
def isParen : Component → Bool
  | .block (.bracket .paren) _ => true
  | _ => false

/-- Whether components limit a scope: by the selectors where it starts, those where it ends, or
both. Spoiled selectors are lost without being refused. -/
def isScope (components : List Component) : Bool :=
  match components.filter (!·.isWhitespace) with
  | [] => true
  | [a] => isParen a
  | [a, b] => isWord "to" a && isParen b
  | [a, b, c] => isParen a && isWord "to" b && isParen c
  | _ => false

/-- Whether components select all documents, by an empty prefix of their addresses. -/
def isEveryDocument (components : List Component) : Bool :=
  match Component.trim components with
  | [.block (.function name) arguments] =>
    name.isOneOf ["url-prefix"] &&
      match Component.trim arguments with
      | [] => true
      | [.token (.string text)] => text.isEmpty
      | _ => false
  | _ => false

/-- Whether components are selectors that all refer to the rule around. -/
def areNestingSelectors (components : List Component) : Bool :=
  (readAlternatives false components).all fun r => r.selector?.isSome && r.refersToParent

/-!
## The syntax of registered properties

A property that an author registers comes with a syntax, given in a string: an asterisk for
anything, or alternatives between bars. An alternative is a type of values in angle brackets or a
keyword, and a plus or number sign behind it tells that the values may be repeated, with spaces or
commas between them. The initial value of the property has to follow the syntax at its start.
-/

/-- What a registered property takes. -/
inductive SyntaxKind where
  | type (name : String)
  | keyword (name : Name)
deriving DecidableEq, Repr

/-- Whether, and how, values may be repeated. -/
inductive Repetition where
  | once
  | spaces
  | commas
deriving DecidableEq, Repr

/-- The syntax of a registered property. -/
inductive PropertySyntax where
  | anything
  | alternatives (kinds : List (SyntaxKind × Repetition))
deriving DecidableEq, Repr

namespace PropertySyntax

/-- The types of values. -/
def typeNames : List String := [
  "length", "number", "percentage", "length-percentage", "string", "color", "image", "url",
  "integer", "angle", "time", "resolution", "transform-function", "transform-list",
  "custom-ident"]

/-- Characters that start a keyword. -/
def isKeywordStart (c : Char) : Bool :=
  c.isAlpha || c == '_' || 0x80 ≤ c.toNat

/-- Characters of a keyword. -/
def isKeywordChar (c : Char) : Bool :=
  isKeywordStart c || c.isDigit || c == '-'

/-- A text without white space around it. -/
def trimmed (text : List Char) : List Char :=
  ((text.dropWhile Css.isWhitespace).reverse.dropWhile Css.isWhitespace).reverse

/-- The repetition that a sign stands for. -/
def repetition? : List Char → Option Repetition
  | [] => some .once
  | ['+'] => some .spaces
  | ['#'] => some .commas
  | _ => none

/-- The alternative that a text without white space around it spells. -/
def alternative? : List Char → Option (SyntaxKind × Repetition)
  | '<' :: cs => do
    let name ← typeNames.find? (·.toList == (cs.takeWhile (· != '>')).map Char.toLower)
    match cs.dropWhile (· != '>') with
    | '>' :: sign =>
      if name = "transform-list" && !sign.isEmpty then none
      else some (.type name, ← repetition? sign)
    | _ => none
  | c :: cs =>
    if isKeywordStart c then do
      let sign ← repetition? (cs.dropWhile isKeywordChar)
      some (.keyword (c :: cs.takeWhile isKeywordChar), sign)
    else none
  | [] => none

/-- The syntax that a text spells. -/
def ofText? (text : List Char) : Option PropertySyntax :=
  if trimmed text = ['*'] then some .anything
  else
    (((trimmed text).splitOn '|').mapM fun piece => alternative? (trimmed piece)).map .alternatives

/-- Whether a component is an address. -/
def isAddress : Component → Bool
  | .token .url => true
  | .block (.function name) arguments => name.isOneOf ["url"] && isString arguments
  | _ => false

/-- Whether a component is a dimension in one of the units. -/
def isDimension (units : List String) : Component → Bool
  | .token (.dimension _ unit) => unit.isOneOf units
  | c => isMath c

/-- Whether a component is a function without spoiled tokens. -/
def isFunction : Component → Bool
  | .block (.function _) arguments => Component.areSound arguments
  | _ => false

/-- Whether a component is a percentage. -/
def isPercentage : Component → Bool
  | .token (.percentage _) => true
  | c => isMath c

/-- Whether a component is a colour, by its notation. -/
def isColor : Component → Bool
  | .token (.ident _) | .token (.hash _ _) => true
  | c => isFunction c

/-- Whether a component is a value of the type of a name. -/
def isOfType (c : Component) (name : String) : Bool :=
  match name with
  | "length" => isLength c
  | "number" => isNumber c
  | "percentage" => isPercentage c
  | "length-percentage" => isLength c || isPercentage c
  | "string" => isString [c]
  | "color" => isColor c
  | "image" => isAddress c || isFunction c || isIdent c
  | "url" => isAddress c
  | "integer" => isInteger c
  | "angle" => isDimension ["deg", "rad", "grad", "turn"] c
  | "time" => isDimension ["s", "ms"] c
  | "resolution" => isDimension resolutionUnits c
  | "transform-function" => isFunction c
  | "transform-list" => isFunction c || isIdent c
  | _ =>
    match c with
    | .token (.ident ident) => ident.isCustom
    | _ => false

/-- Whether a component is a value of a kind. -/
def SyntaxKind.admits (c : Component) : SyntaxKind → Bool
  | .type name => isOfType c name
  | .keyword name =>
    match c with
    | .token (.ident ident) => ident = name
    | _ => false

/-- Whether components are values with commas between them. -/
def areCommaSeparated (kind : SyntaxKind) : List Component → Bool
  | [c] => SyntaxKind.admits c kind
  | c :: comma :: rest =>
    SyntaxKind.admits c kind && comma.isComma && areCommaSeparated kind rest
  | [] => false

/-- Whether components, without white space, follow an alternative of a syntax. -/
def admitsAlternative (components : List Component) : SyntaxKind × Repetition → Bool
  | (kind, .once) =>
    match components with
    | c :: _ => SyntaxKind.admits c kind
    | [] => false
  | (kind, .spaces) => !components.isEmpty && components.all (SyntaxKind.admits · kind)
  | (kind, .commas) => areCommaSeparated kind components

/-- Whether components are an initial value for a syntax, and a missing one is allowed only if the
syntax is the one for anything. -/
def admitsInitial (value : Option (List Component)) : PropertySyntax → Bool
  | .anything => isValue (value.getD [])
  | .alternatives kinds =>
    match value with
    | none => false
    | some components =>
      kinds.any (admitsAlternative (components.filter (!·.isWhitespace)))

end PropertySyntax

/-! ## Blocks -/

/-- What a block holds beside boxes. -/
structure BoxKind where
  names : List String
  /-- Whether declarations may stand between the boxes. -/
  hasDeclarations : Bool
  /-- Whether components may fill a box. -/
  admits : List Component → Bool

/-- Whether components, the last first, are the start of a box. -/
def BoxKind.isStart (kind : BoxKind) (before : List Component) : Bool :=
  match Component.trim before.reverse with
  | [.token (.atKeyword name)] => name.isOneOf kind.names
  | _ => false

/-- Whether components, the last first, may stand between boxes. -/
def BoxKind.isBetween (kind : BoxKind) (before : List Component) : Bool :=
  isBlank before || kind.hasDeclarations && isDeclaration (Component.trimStart before.reverse)

/-- Whether components, of which those in `before`, the last first, have started a statement, are
boxes. -/
def BoxKind.areBoxes (kind : BoxKind) (before : List Component) : List Component → Bool
  | [] => kind.isBetween before
  | .token .semicolon :: rest => kind.isBetween before && kind.areBoxes [] rest
  | .block (.bracket .curly) contents :: rest =>
    if kind.isStart before then kind.admits contents && kind.areBoxes [] rest
    else kind.areBoxes (.block (.bracket .curly) contents :: before) rest
  | c :: rest => kind.areBoxes (c :: before) rest

/-- The margins of pages. -/
def pageBoxes : BoxKind where
  names := [
    "top-left-corner", "top-left", "top-center", "top-right", "top-right-corner", "left-top",
    "left-middle", "left-bottom", "right-top", "right-middle", "right-bottom",
    "bottom-left-corner", "bottom-left", "bottom-center", "bottom-right", "bottom-right-corner"]
  hasDeclarations := true
  admits := areDeclarations

/-- Whether components give a feature of a font its indices. -/
def isFeatureDeclaration (components : List Component) : Bool :=
  match declared? components with
  | some (_, value) => !isBlank value && value.all fun c => c.isWhitespace || isInteger c
  | none => false

/-- The features of fonts. -/
def fontFeatureBoxes : BoxKind where
  names := [
    "stylistic", "historical-forms", "styleset", "character-variant", "swash", "ornaments",
    "annotation"]
  hasDeclarations := false
  admits := fun components => (semicolonSeparated components).all isFeatureDeclaration

/-- What a block tells of a registered property. -/
structure Registration where
  takes : Option PropertySyntax := none
  inherits : Option Bool := none
  initial : Option (List Component) := none

namespace Registration

/-- A registration with a further declaration, unless that is not one of the three. -/
def declare? (r : Registration) (components : List Component) : Option Registration :=
  match declared? components with
  | none => none
  | some (name, value) =>
    if name.isOneOf ["syntax"] then
      match Component.trim value with
      | [.token (.string text)] =>
        (PropertySyntax.ofText? text).map fun found => { r with takes := some found }
      | _ => none
    else if name.isOneOf ["inherits"] then
      match Component.trim value with
      | [.token (.ident answer)] =>
        if answer.isOneOf ["true"] then some { r with inherits := some true }
        else if answer.isOneOf ["false"] then some { r with inherits := some false }
        else none
      | _ => none
    else if name.isOneOf ["initial-value"] then some { r with initial := some value }
    else none

/-- Whether a registration tells what it has to. -/
def isComplete (r : Registration) : Bool :=
  r.inherits.isSome && (r.takes.map (PropertySyntax.admitsInitial r.initial)).getD false

end Registration

/-- Whether components describe a registered property. -/
def isRegistration (components : List Component) : Bool :=
  ((semicolonSeparated components).foldlM Registration.declare? {}).any Registration.isComplete

end ElmClasses.Css
