import ElmClasses.Css.AtRule
import ElmClasses.Css.Selector
import ElmClasses.Css.Token
import ElmClasses.Stylesheet

/-!
# Reading style sheets

This is a library that reads style sheets, written out as far as a `StylesheetLibrary` goes.

A style sheet is a sequence of statements. A statement is a prelude, and then either a block in
curly brackets, or a semicolon or the end of what holds the statement. What a statement may be
depends on its `Context`: declarations stand only inside style rules, where selectors are those of
nested rules, and at the top level the markers of markup comments are skipped.

Inside a style rule a statement that starts like a declaration may still turn out to be a nested
rule, as `a:hover` shows. It is a declaration if all of it up to its semicolon is one, and only the
values of custom properties may hold blocks in curly brackets.

Reading keeps the style rules, with the blocks that hold style rules under some condition, and
checks the rest; declarations, and at-rules that hold no style rules, leave nothing behind. The
selectors of a rule inside another style rule refer to it explicitly. A sheet with one malformed
statement is refused as a whole.
-/

namespace ElmClasses.Css

/-- A style rule, or a block of rules under a condition. -/
abbrev Rule := StylesheetRule SelectorList

/-- What the block behind a prelude holds. -/
inductive BlockKind where
  /-- The declarations and nested rules of a style rule. -/
  | style (selectors : SelectorList)
  /-- Rules under a condition. -/
  | rules
  /-- What names no elements and is checked by the at-rule. -/
  | plain (rule : AtRule)

/-- What the block of an at-rule holds, if it may have one. -/
def AtRule.blockKind? (rule : AtRule) : Option BlockKind :=
  if rule.holdsRules then some .rules
  else
    match rule with
    | .layer _ | .sheetImport | .sheetNamespace | .charset => none
    | rule => some (.plain rule)

/-- What the block behind a prelude holds. -/
def blockKind? (context : Context) (prelude : List Component) : Option BlockKind :=
  match prelude.dropWhile context.skips with
  | .token (.atKeyword name) :: arguments =>
    (AtRule.read? context name arguments).bind AtRule.blockKind?
  | prelude =>
    match context with
    | .style => (SelectorList.ofNested? prelude).map .style
    | _ => (SelectorList.ofComponents? prelude).map .style

/-- The context behind a statement without block, if components are one. -/
def afterStatement? (context : Context) (components : List Component) : Option Context :=
  match components.dropWhile context.skips with
  | .token (.atKeyword name) :: arguments =>
    (AtRule.read? context name arguments).bind (AtRule.afterStatement? context)
  | [] =>
    match context with
    | .sheet _ => none
    | _ => some context
  | statement => if context = .style && isDeclaration statement then some context else none

/-- Whether components may stand at the end of what holds statements. -/
def isLastStatement (context : Context) (components : List Component) : Bool :=
  (components.dropWhile context.skips).isEmpty || (afterStatement? context components).isSome

/-- Whether components start a style sheet by telling how it is encoded. -/
def startsCharset (context : Context) (components : List Component) : Bool :=
  match context, components.dropWhile context.skips with
  | .sheet .fresh, .token (.atKeyword name) :: _ => name.isOneOf ["charset"]
  | _, _ => false

/-- Whether a block does not end the statement that components have started: it belongs to the value
of a custom property, or to what tells the encoding. The components behind the block decide whether
there is such a value. -/
def belongsToStatement (context : Context) (components : List Component)
    (block : Component) (rest : List Component) : Bool :=
  let statement := components.dropWhile context.skips
  startsCharset context components ||
    context = .style && startsCustomProperty statement &&
      isDeclaration (statement ++ block :: rest.takeWhile (!isSemicolon ·))

mutual

/-- The rules of further components, of which those in `before`, the last first, have started a
statement. -/
def readRules (context : Context) (before : List Component) :
    List Component → Option (List Rule)
  | [] =>
    if startsCharset context before.reverse || isLastStatement context before.reverse then some []
    else none
  | c :: rest =>
    if isSemicolon c then do
      let context ←
        if startsCharset context before.reverse then some (.sheet .started)
        else afterStatement? context before.reverse
      readRules context [] rest
    else if isCurly c && !belongsToStatement context before.reverse c rest then do
      let later := readRules (context.reaching .body) [] rest
      match ← blockKind? context before.reverse with
      | .style selectors => some (.style selectors (← readInside .style c) :: (← later))
      | .rules => some (.other (← readInside context.insideConditional c) :: (← later))
      | .plain rule => if rule.admitsBlock c.contents then later else none
    else readRules context (c :: before) rest

/-- The rules in a block. -/
def readInside (context : Context) : Component → Option (List Rule)
  | .block _ contents => readRules context [] contents
  | .token _ => some []

end

/-- The rules of a style sheet, unless a statement of it is malformed. -/
def readSheet (style : List Char) : Option (List Rule) :=
  readRules (.sheet .fresh) [] (Component.ofTokens (tokens style))

/-- The rules of a style sheet. No reason is told for a text that is refused. -/
def parse (style : String) : Except String (List Rule) :=
  match readSheet style.toList with
  | some rules => .ok rules
  | none => .error ""

/-- The reader of this module, the printer of selectors, and visitors that come to rules in source
order. -/
instance library : StylesheetLibrary where
  Selectors := SelectorList
  parse := parse
  print? selectors := some (String.ofList (selectorListText selectors))
  visited rules := rules
  mem_of_mem_visited h := h

end ElmClasses.Css
