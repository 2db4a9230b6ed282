import ElmClasses.Css.Component

/-!
# Queries

A query asks for a medium or a container. It is a condition: a feature in parentheses, the negation
of one, or several joined by one kind of `and` or `or`; a condition in parentheses may stand for a
feature. Queries for containers also ask for their styles and for their state of scrolling, by
functions with conditions of their own.

A media query may name a type of media in front of its condition, and then `or` is not allowed. In
a list of media queries the last one may end early and is then dropped, which is also why the list
may be empty.

A feature, such as the width of a medium, has a type, and so has what it is compared with; both must
agree where both are known. A feature is named alone, or with a value behind a colon, or it is
compared with one or two values; only some types can be compared. The prefixes `min-` and `max-`
stand for comparisons too.

What is read may be refused because it goes on where it should not, or because it ends too early.
The two are told apart, since a list of media queries may end within a query.
-/

namespace ElmClasses.Css

/-- Why components are not what they should be. -/
inductive Refusal where
  /-- They end too early. -/
  | ended
  /-- They hold what may not stand there. -/
  | misplaced
deriving DecidableEq, Repr

/-- The type of a feature. -/
inductive FeatureType where
  | length
  | number
  | integer
  | boolean
  | resolution
  | ratio
  | ident
  | unknown
deriving DecidableEq, Repr

/-- Whether features of a type can be compared. -/
def FeatureType.isOrdered : FeatureType → Bool
  | .boolean | .ident => false
  | _ => true

/-- Whether a value of the second type suits a feature of the first. -/
def FeatureType.admits (expected found : FeatureType) : Bool :=
  expected == .unknown || found == .unknown || expected == found

/-- What can be asked for: the features of one kind, by their types. -/
abbrev FeatureTable := List (FeatureType × List String)

/-- The features of media. -/
def mediaFeatures : FeatureTable := [
  (.length, ["width", "height", "device-width", "device-height"]),
  (.ratio, ["aspect-ratio", "device-aspect-ratio"]),
  (.integer, ["horizontal-viewport-segments", "vertical-viewport-segments", "color",
    "color-index", "monochrome"]),
  (.resolution, ["resolution"]),
  (.boolean, ["grid"]),
  (.number, ["-webkit-device-pixel-ratio", "-moz-device-pixel-ratio"]),
  (.ident, ["orientation", "overflow-block", "overflow-inline", "display-mode", "scan", "update",
    "environment-blending", "color-gamut", "dynamic-range", "inverted-colors", "pointer", "hover",
    "any-pointer", "any-hover", "nav-controls", "video-color-gamut", "video-dynamic-range",
    "scripting", "prefers-reduced-motion", "prefers-reduced-transparency", "prefers-contrast",
    "forced-colors", "prefers-color-scheme", "prefers-reduced-data"])]

/-- The sizes of containers. -/
def containerFeatures : FeatureTable := [
  (.length, ["width", "height", "inline-size", "block-size"]),
  (.ratio, ["aspect-ratio"]),
  (.ident, ["orientation"])]

/-- The states of scrolling containers. -/
def scrollStateFeatures : FeatureTable := [
  (.ident, ["stuck", "snapped", "scrollable", "scrolled"])]

/-- The type of a feature, if the table has it. -/
def FeatureTable.find? (table : FeatureTable) (name : Name) : Option FeatureType :=
  (List.find? (fun entry => name.isOneOf entry.2) table).map (·.1)

/-- A comparison. -/
inductive Comparison where
  | equal
  | less (orEqual : Bool)
  | greater (orEqual : Bool)
deriving DecidableEq, Repr

/-- Whether two comparisons around one feature point the same way. -/
def Comparison.agreesWith : Comparison → Comparison → Bool
  | .less _, .less _ | .greater _, .greater _ => true
  | _, _ => false

/-- Read an equals sign, if there is one. -/
def readEqual (components : List Component) : Bool × List Component :=
  match Component.trimStart components with
  | .token (.delim '=') :: rest => (true, rest)
  | _ => (false, components)

/-- Read a comparison. -/
def readComparison (components : List Component) : Except Refusal (Comparison × List Component) :=
  match Component.trimStart components with
  | .token (.delim '=') :: rest => .ok (.equal, rest)
  | .token (.delim '<') :: rest => .ok (.less (readEqual rest).1, (readEqual rest).2)
  | .token (.delim '>') :: rest => .ok (.greater (readEqual rest).1, (readEqual rest).2)
  | [] => .error .ended
  | _ => .error .misplaced

/-- A feature as it is named: its type, and the comparison that its prefix stands for. -/
structure FeatureName where
  type : FeatureType
  prefixComparison : Option Comparison

/-- The comparison that the prefix of a name stands for, and the name behind the prefix. -/
def splitPrefix (name : Name) : Option Comparison × Name :=
  if "min-".toList.isPrefixOf name then (some (.greater true), name.drop 4)
  else if "max-".toList.isPrefixOf name then (some (.less true), name.drop 4)
  else (none, name)

/-- The feature that a name stands for. A prefix counts only if the table has what is behind it; the
prefix of a vendor stays in front of the others. -/
def FeatureName.ofName (table : FeatureTable) (name : Name) : FeatureName :=
  let vendor := "-webkit-".toList
  let lowered := name.lowered
  let (comparison, feature) :=
    if vendor.isPrefixOf lowered then
      let (comparison, feature) := splitPrefix (lowered.drop vendor.length)
      (comparison, vendor ++ feature)
    else splitPrefix lowered
  match table.find? feature with
  | some type => ⟨type, comparison⟩
  | none => ⟨.unknown, none⟩

/-- The units of lengths. -/
def lengthUnits : List String := [
  "px", "in", "cm", "mm", "q", "pt", "pc", "em", "rem", "ex", "rex", "ch", "rch", "cap", "rcap",
  "ic", "ric", "lh", "rlh", "vw", "lvw", "svw", "dvw", "cqw", "vh", "lvh", "svh", "dvh", "cqh",
  "vi", "lvi", "svi", "dvi", "cqi", "vb", "lvb", "svb", "dvb", "cqb", "vmin", "lvmin", "svmin",
  "dvmin", "cqmin", "vmax", "lvmax", "svmax", "dvmax", "cqmax"]

/-- The units of resolutions. -/
def resolutionUnits : List String := ["dpi", "dpcm", "dppx", "x"]

/-- The functions that compute a number or a length. -/
def mathNames : List String := [
  "calc", "-webkit-calc", "-moz-calc", "min", "max", "clamp", "round", "rem", "mod", "sin", "cos",
  "tan", "asin", "acos", "atan", "atan2", "pow", "log", "sqrt", "exp", "hypot", "abs", "sign"]

/-- Whether a component is a function that computes a number or a length. -/
def isMath : Component → Bool
  | .block (.function name) arguments =>
    name.isOneOf mathNames && !(Component.trim arguments).isEmpty && Component.areSound arguments
  | _ => false

/-- Whether a component is a number. -/
def isNumber : Component → Bool
  | .token (.number _) => true
  | c => isMath c

/-- Whether a component is a length, of which the unit may be missing. -/
def isLength : Component → Bool
  | .token (.dimension _ unit) => unit.isOneOf lengthUnits
  | c => isNumber c

/-- Whether a component is a resolution. -/
def isResolution : Component → Bool
  | .token (.dimension _ unit) => unit.isOneOf resolutionUnits
  | _ => false

/-- Whether a component is zero or one. -/
def isBoolean : Component → Bool
  | .token (.number numeral) => numeral.integer? == some 0 || numeral.integer? == some 1
  | _ => false

/-- Whether a component is the function that asks for a value of the environment. -/
def isEnvironmentFunction : Component → Bool
  | .block (.function name) arguments =>
    name.isOneOf ["env"] && isEnvironment arguments && isValue arguments
  | _ => false

/-- Whether a component is a name. -/
def isIdent : Component → Bool
  | .token (.ident _) => true
  | _ => false

/-- Read the second number of a ratio, if there is one. -/
def readDenominator? (components : List Component) : Option (List Component) :=
  match Component.trimStart components with
  | .token (.delim '/') :: rest =>
    match Component.trimStart rest with
    | c :: rest => if isNumber c then some rest else none
    | [] => none
  | _ => none

/-- Read a value, whose first component is `c`, of the type that is expected. -/
def readExpected? (c : Component) (rest : List Component) : FeatureType → Option (List Component)
  | .length => if isLength c then some rest else none
  | .number => if isNumber c then some rest else none
  | .integer => if isInteger c then some rest else none
  | .boolean => if isBoolean c then some rest else none
  | .resolution => if isResolution c then some rest else none
  | .ratio => if isNumber c then some ((readDenominator? rest).getD rest) else none
  | .ident => if isIdent c then some rest else none
  | .unknown => none

/-- Read a value, whose first component is `c`, of any type. -/
def readUnexpected (c : Component) (rest : List Component) :
    Except Refusal (FeatureType × List Component) :=
  if isNumber c then
    match readDenominator? rest with
    | some behind => .ok (.ratio, behind)
    | none => .ok (.number, rest)
  else if isLength c then .ok (.length, rest)
  else if isResolution c then .ok (.resolution, rest)
  else if isEnvironmentFunction c then .ok (.unknown, rest)
  else if isIdent c then .ok (.ident, rest)
  else .error .misplaced

/-- Read a value, and tell its type. -/
def readFeatureValue (expected : FeatureType) (components : List Component) :
    Except Refusal (FeatureType × List Component) :=
  match Component.trimStart components with
  | [] => .error .ended
  | c :: rest =>
    match readExpected? c rest expected with
    | some behind => .ok (expected, behind)
    | none => readUnexpected c rest

/-- Refuse what follows unless it is blank. -/
def expectEnd (components : List Component) : Except Refusal Unit :=
  if (Component.trimStart components).isEmpty then .ok () else .error .misplaced

/-- Refuse what does not meet a condition. -/
def require (condition : Bool) : Except Refusal Unit :=
  if condition then .ok () else .error .misplaced

/-- Read a name. -/
def readIdent (components : List Component) : Except Refusal (Name × List Component) :=
  match Component.trimStart components with
  | .token (.ident name) :: rest => .ok (name, rest)
  | [] => .error .ended
  | _ => .error .misplaced

/-- Check what a feature is compared with from its left: a value, a comparison, the feature, and
perhaps a further comparison and value. -/
def checkValueFirst (table : FeatureTable) (components : List Component) : Except Refusal Unit := do
  match components.find? isIdent with
  | some (.token (.ident name)) => do
    let feature := FeatureName.ofName table name
    require feature.prefixComparison.isNone
    let (type, rest) ← readFeatureValue feature.type components
    let (left, rest) ← readComparison rest
    let (_, rest) ← readIdent rest
    require (feature.type.isOrdered && feature.type.admits type)
    match readComparison rest with
    | .error _ => expectEnd rest
    | .ok (right, rest) => do
      require (left.agreesWith right)
      let (type, rest) ← readFeatureValue feature.type rest
      require (feature.type.admits type)
      expectEnd rest
  | _ => .error .misplaced

/-- Check the value behind a feature and a comparison, or behind a colon if there is none. There is
no result if no value can be read at all. -/
def checkAssigned (feature : FeatureName) (comparison : Option Comparison)
    (components : List Component) : Option (Except Refusal Unit) :=
  if comparison.isSome && feature.prefixComparison.isSome then some (.error .misplaced)
  else
    match readFeatureValue feature.type components with
    | .error _ => none
    | .ok (type, rest) => some do
      require (feature.type.admits type)
      require (feature.type.isOrdered || (comparison.isNone && feature.prefixComparison.isNone))
      expectEnd rest

/-- Check a feature in parentheses. -/
def checkFeature (table : FeatureTable) (components : List Component) : Except Refusal Unit :=
  match readIdent components with
  | .error _ => checkValueFirst table components
  | .ok (name, rest) =>
    let feature := FeatureName.ofName table name
    let assigned :=
      match Component.trimStart rest, readComparison rest with
      | .token .colon :: value, _ => checkAssigned feature none value
      | _, .ok (comparison, value) => checkAssigned feature (some comparison) value
      | _, .error _ => some (expectEnd rest)
    match assigned with
    | some checked => checked
    | none => checkValueFirst table components

/-! ## Conditions -/

/-- What the conditions of a query ask for. -/
inductive QuerySubject where
  | media
  | container
  | style
  | scrollState
deriving DecidableEq, Repr

/-- The condition that a function stands for, by what it asks for. -/
def QuerySubject.function? (subject : QuerySubject) (name : Name) : Option QuerySubject :=
  match subject with
  | .container =>
    if name.isOneOf ["style"] then some .style
    else if name.isOneOf ["scroll-state"] then some .scrollState
    else none
  | _ => none

/-- Check a style: a property, perhaps with a value. -/
def checkStyle (components : List Component) : Except Refusal Unit := do
  let (name, rest) ← readIdent components
  match Component.trimStart rest with
  | [] => .ok ()
  | .token .colon :: value => require (isAssigned name value)
  | _ => .error .misplaced

/-- Check what parentheses hold if it is no condition. -/
def QuerySubject.checkFeature (components : List Component) : QuerySubject → Except Refusal Unit
  | .media => Css.checkFeature mediaFeatures components
  | .container => Css.checkFeature containerFeatures components
  | .scrollState => Css.checkFeature scrollStateFeatures components
  | .style => checkStyle components

/-- What may follow in a condition. -/
inductive ConditionPlace where
  | start
  /-- Behind a negation. -/
  | negated
  /-- Behind the first feature. -/
  | joint
  /-- Behind a word that joins features. -/
  | joined (word : String)
  /-- Behind features that are joined by a word. -/
  | further (word : String)
  | finish
deriving DecidableEq, Repr

/-- The place behind a feature. -/
def ConditionPlace.behindFeature : ConditionPlace → ConditionPlace
  | .start => .joint
  | .joined word => .further word
  | _ => .finish

/-- The place behind a word, if the condition goes on with it. -/
def ConditionPlace.behindWord? (allowsOr : Bool) (name : Name) :
    ConditionPlace → Option (Except Refusal ConditionPlace)
  | .start => some (if name.isOneOf ["not"] then .ok .negated else .error .misplaced)
  | .joint =>
    if name.isOneOf ["and"] then some (.ok (.joined "and"))
    else if name.isOneOf ["or"] then
      some (if allowsOr then .ok (.joined "or") else .error .misplaced)
    else none
  | .further word => if name.isOneOf [word] then some (.ok (.joined word)) else none
  | .finish => none
  | .negated | .joined _ => some (.error .misplaced)

/-- Whether a condition may end at a place. -/
def ConditionPlace.mayEnd : ConditionPlace → Bool
  | .joint | .further _ | .finish => true
  | _ => false

mutual

/-- Check a feature or condition in parentheses, or in a function. If a condition can be read inside
then it must be all that is inside; otherwise it must be a feature. -/
def checkInside (subject : QuerySubject) : Component → Except Refusal Unit
  | .block (.bracket .paren) contents =>
    match readCondition subject true .start contents with
    | .ok rest => expectEnd rest
    | .error _ => subject.checkFeature contents
  | .block (.function name) contents =>
    match subject.function? name with
    | none => .error .misplaced
    | some inner =>
      match readCondition inner true .start contents with
      | .ok rest => expectEnd rest
      | .error _ => inner.checkFeature contents
  | _ => .error .misplaced

/-- Read the rest of a condition from a place on, up to what does not belong to it. -/
def readCondition (subject : QuerySubject) (allowsOr : Bool) (place : ConditionPlace) :
    List Component → Except Refusal (List Component)
  | [] => if place.mayEnd then .ok [] else .error .ended
  | .token .whitespace :: rest => readCondition subject allowsOr place rest
  | .token (.ident name) :: rest =>
    match place.behindWord? allowsOr name with
    | none => .ok (.token (.ident name) :: rest)
    | some (.ok place) => readCondition subject allowsOr place rest
    | some (.error refusal) => .error refusal
  | c :: rest =>
    if place.mayEnd then .ok (c :: rest)
    else
      match checkInside subject c with
      | .ok () => readCondition subject allowsOr place.behindFeature rest
      | .error refusal => .error refusal

end

/-- Check components that are a condition. -/
def checkCondition (subject : QuerySubject) (allowsOr : Bool) (components : List Component) :
    Except Refusal Unit := do
  expectEnd (← readCondition subject allowsOr .start components)

/-- Read a type of media, perhaps behind `not` or `only`. -/
def readMediaType? (components : List Component) : Option (List Component) :=
  match Component.trimStart components with
  | .token (.ident name) :: rest =>
    if name.isOneOf ["not", "only"] then
      match Component.trimStart rest with
      | .token (.ident _) :: rest => some rest
      | _ => none
    else some rest
  | _ => none

/-- Check a media query. -/
def checkMediaQuery (components : List Component) : Except Refusal Unit :=
  match readMediaType? components with
  | none => checkCondition .media true components
  | some rest =>
    match Component.trimStart rest with
    | [] => .ok ()
    | .token (.ident name) :: condition =>
      if name.isOneOf ["and"] then checkCondition .media false condition else .error .misplaced
    | _ => .error .misplaced

/-- Whether media queries are accepted, of which only the last may end early. -/
def areMediaQueries : List (List Component) → Bool
  | [] => true
  | [query] =>
    match checkMediaQuery query with
    | .error .misplaced => false
    | _ => true
  | query :: rest => (checkMediaQuery query).isOk && areMediaQueries rest

/-- Whether components are a list of media queries. -/
def isMediaList (components : List Component) : Bool :=
  areMediaQueries (components.splitOnP Component.isComma)

/-- Whether a container may be called by a name. -/
def isContainerName (name : Name) : Bool :=
  name.isCustom && !name.isOneOf ["none", "and", "not", "or"]

/-- Whether components are a query for a container: its name, a condition, or both. -/
def isContainerQuery (components : List Component) : Bool :=
  match Component.trim components with
  | .token (.ident name) :: rest =>
    if isContainerName name then
      rest.isEmpty || (checkCondition .container true rest).isOk
    else (checkCondition .container true components).isOk
  | _ => (checkCondition .container true components).isOk

/-- Whether a component asks for the support of a declaration, or of anything in a function. -/
def isSupportFeature : Component → Bool
  | .block (.bracket .paren) contents | .block (.function _) contents =>
    Component.areSound contents
  | _ => false

/-- Whether a component is a word. -/
def isWord (word : String) : Component → Bool
  | .token (.ident name) => name.isOneOf [word]
  | _ => false

/-- Whether components are features behind a first one, each behind the word that joins them. -/
def areJoined (word : String) : List Component → Bool
  | [] => true
  | c :: feature :: rest => isWord word c && isSupportFeature feature && areJoined word rest
  | [_] => false

/-- Whether components are a query for what is supported. -/
def isSupportsQuery (components : List Component) : Bool :=
  match components.filter (!·.isWhitespace) with
  | [] => false
  | [word, feature] => isWord "not" word && isSupportFeature feature
  | feature :: rest => isSupportFeature feature && (areJoined "and" rest || areJoined "or" rest)

end ElmClasses.Css
