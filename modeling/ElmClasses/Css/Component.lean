import ElmClasses.Css.Name
import ElmClasses.Css.Token

/-!
# Components of style sheets

Brackets nest, so the tokens of a style sheet form a forest: a component is a token, or a block
with the components between an opening bracket and the bracket that closes it. A block that the
end of the text leaves open ends there. A closing bracket that does not match the innermost open
block stays as a token of its own; nothing that holds one is valid (`Component.areSound`).
-/

namespace ElmClasses.Css

/-- A token that opens no block, or a block. -/
inductive Component where
  | token (t : Token)
  | block (opening : Opening) (contents : List Component)
deriving Repr

namespace Component

/-- A block that is still open: what opened it, and the components in front of it, the last
first. -/
structure OpenBlock where
  opening : Opening
  before : List Component

/-- End a block whose contents, the last first, are `contents`. -/
def OpenBlock.closed (o : OpenBlock) (contents : List Component) : List Component :=
  .block o.opening contents.reverse :: o.before

/-- End every open block, the innermost first. -/
def closeAll : List OpenBlock → List Component → List Component
  | [], contents => contents.reverse
  | o :: outer, contents => closeAll outer (o.closed contents)

/-- The components of further tokens inside open blocks, the innermost first, behind `contents`,
the last first. -/
def nest : List OpenBlock → List Component → List Token → List Component
  | blocks, contents, [] => closeAll blocks contents
  | blocks, contents, .opening o :: ts => nest (⟨o, contents⟩ :: blocks) [] ts
  | [], contents, .closing kind :: ts => nest [] (.token (.closing kind) :: contents) ts
  | o :: outer, contents, .closing kind :: ts =>
    if o.opening.kind = kind then nest outer (o.closed contents) ts
    else nest (o :: outer) (.token (.closing kind) :: contents) ts
  | blocks, contents, t :: ts => nest blocks (.token t :: contents) ts

/-- The components of tokens. -/
def ofTokens (ts : List Token) : List Component :=
  nest [] [] ts

mutual

/-- Whether a component holds no spoiled token. -/
def isSound : Component → Bool
  | .token t => !t.isSpoiled
  | .block _ contents => areSound contents

/-- Whether no component of a list holds a spoiled token. -/
def areSound : List Component → Bool
  | [] => true
  | c :: cs => isSound c && areSound cs

end

/-- The components in a block. -/
def contents : Component → List Component
  | .block _ contents => contents
  | .token _ => []

/-- Whether a component is white space. -/
def isWhitespace : Component → Bool
  | .token .whitespace => true
  | _ => false

/-- Whether a component is a comma. -/
def isComma : Component → Bool
  | .token .comma => true
  | _ => false

/-- A list of components without the white space at its start. -/
def trimStart (cs : List Component) : List Component :=
  cs.dropWhile isWhitespace

/-- A list of components without the white space around it. -/
def trim (cs : List Component) : List Component :=
  (trimStart (trimStart cs).reverse).reverse

/-- The text of a token. -/
def tokenText : Token → List Char
  | .ident name => serialized name
  | .atKeyword name => '@' :: serialized name
  | .hash name true => '#' :: serialized name
  | .hash name false => '#' :: serializedRest name
  | .string text => serializedString text
  | .badString => ['"', '\n']
  | .url => ['u', 'r', 'l', '(', ')']
  | .badUrl => ['u', 'r', 'l', '(', '(', ')']
  | .number numeral => numeral
  | .percentage numeral => numeral ++ ['%']
  | .dimension numeral unit => numeral ++ serialized unit
  | .comparison c => [c, '=']
  | .delim c => [c]
  | .whitespace => [' ']
  | .colon => [':']
  | .semicolon => [';']
  | .comma => [',']
  | .commentOpen => ['<', '!', '-', '-']
  | .commentClose => ['-', '-', '>']
  | .opening o => openingText o
  | .closing kind => closingText kind
where
  /-- The text of an opening bracket. -/
  openingText : Opening → List Char
    | .bracket .paren => ['(']
    | .bracket .square => ['[']
    | .bracket .curly => ['\x7b']
    | .function name => serialized name ++ ['(']
  /-- The text of a closing bracket. -/
  closingText : Bracket → List Char
    | .paren => [')']
    | .square => [']']
    | .curly => ['\x7d']

mutual

/-- The text of a component. -/
def text : Component → List Char
  | .token t => tokenText t
  | .block o contents =>
    tokenText.openingText o ++ texts contents ++ tokenText.closingText o.kind

/-- The text of components in a row. -/
def texts : List Component → List Char
  | [] => []
  | c :: cs => text c ++ texts cs

end

end Component

/-!
## Declarations

A declaration gives a property its value, and may be marked as important behind it. The name of a
custom property, which an author chose, starts with two hyphens, and its value may hold blocks in
curly brackets. What a value says is not checked, only its form: it holds no spoiled token, its
brackets nest no deeper than `maxDepth`, and the functions that refer to other values or to
addresses have arguments that can.
-/

/-- How deep the brackets in a value may nest. -/
def maxDepth : Nat := 500

/-- Whether nothing, or a comma and a value, follows. -/
def isFallback (components : List Component) : Bool :=
  match Component.trimStart components with
  | [] | .token .comma :: _ => true
  | _ => false

/-- Whether a component is an integer. -/
def isInteger : Component → Bool
  | .token (.number numeral) => numeral.integer?.isSome
  | _ => false

/-- Whether arguments name a custom property, perhaps with a value to fall back on. -/
def isVariable (arguments : List Component) : Bool :=
  match Component.trimStart arguments with
  | .token (.ident name) :: rest => name.isDashed && isFallback rest
  | _ => false

/-- Whether arguments name a value of the environment, perhaps one of several by its indices. -/
def isEnvironment (arguments : List Component) : Bool :=
  match Component.trimStart arguments with
  | .token (.ident name) :: rest =>
    name.isCustom && isFallback (rest.dropWhile fun c => c.isWhitespace || isInteger c)
  | _ => false

/-- Whether components are a string. -/
def isString (components : List Component) : Bool :=
  match Component.trim components with
  | [.token (.string _)] => true
  | _ => false

/-- Whether arguments are allowed in the function of a name. The names are taken as they are
written; in another letter case they mean nothing. -/
def admitsArguments (name : Name) (arguments : List Component) : Bool :=
  if name = "var".toList then isVariable arguments
  else if name = "env".toList then isEnvironment arguments
  else if name = "url".toList then isString arguments
  else true

mutual

/-- Whether a component may stand in a value, inside as many brackets as `depth`. -/
def Component.isValue (depth : Nat) : Component → Bool
  | .token t => !t.isSpoiled
  | .block (.function name) arguments =>
    depth < maxDepth && admitsArguments name arguments && areValues (depth + 1) arguments
  | .block _ contents => depth < maxDepth && areValues (depth + 1) contents

/-- Whether components may stand in a value, inside as many brackets as `depth`. -/
def areValues (depth : Nat) : List Component → Bool
  | [] => true
  | c :: cs => c.isValue depth && areValues depth cs

end

/-- Whether components are a value. -/
def isValue (components : List Component) : Bool :=
  areValues 0 components

/-- Whether a component is an exclamation mark. -/
def isMark : Component → Bool
  | .token (.delim '!') => true
  | _ => false

/-- Whether a component is a block in curly brackets. -/
def isCurly : Component → Bool
  | .block (.bracket .curly) _ => true
  | _ => false

/-- Whether components are nothing, or mark a declaration as important. -/
def isImportance : List Component → Bool
  | [] => true
  | _ :: mark =>
    match Component.trim mark with
    | [.token (.ident name)] => name.isOneOf ["important"]
    | _ => false

/-- Whether a value may be given to the property of a name. The property `all` stands for every
other one and takes only the values that these have in common. -/
def admitsValue (name : Name) (value : List Component) : Bool :=
  if name.isOneOf ["all"] then
    match Component.trim value with
    | [.token (.ident keyword)] => keyword.isOneOf Name.universalValues
    | _ => false
  else isValue value

/-- Whether components are what follows the colon of a declaration. -/
def isAssigned (name : Name) (components : List Component) : Bool :=
  (name.isDashed || !components.any isCurly) &&
    admitsValue name (components.takeWhile (!isMark ·)) &&
    isImportance (components.dropWhile (!isMark ·))

/-- The name of the property that components start to declare, and what follows the colon. -/
def declared? : List Component → Option (Name × List Component)
  | .token (.ident name) :: rest =>
    match Component.trimStart rest with
    | .token .colon :: value => some (name, value)
    | _ => none
  | _ => none

/-- Whether components are a declaration. -/
def isDeclaration (components : List Component) : Bool :=
  match declared? components with
  | some (name, value) => isAssigned name value
  | none => false

/-- Whether components start the declaration of a custom property. -/
def startsCustomProperty (components : List Component) : Bool :=
  match declared? components with
  | some (name, _) => name.isDashed
  | none => false

/-- Whether a component is a semicolon. -/
def isSemicolon : Component → Bool
  | .token .semicolon => true
  | _ => false

/-- Components divided at their semicolons, without blank pieces and the white space around the
others. -/
def semicolonSeparated (components : List Component) : List (List Component) :=
  ((components.splitOnP isSemicolon).map Component.trim).filter (!·.isEmpty)

/-- Whether components are declarations and nothing else. -/
def areDeclarations (components : List Component) : Bool :=
  (semicolonSeparated components).all isDeclaration

end ElmClasses.Css
