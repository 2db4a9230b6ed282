import ElmClasses.Log
import ElmClasses.Path

/-!
# Output formats

A format says what the declarations of one generated module look like: either every class is an
attribute value, written as a function applied to the class, or every class is a plain `String`
constant. It also says what the module imports, and it may override where the module is written
and what it is called. Three formats are built in under the tags `html`, `svg` and `string`.

An entry of the `formats` option is an object whose fields override those of the built-in format
with the same tag. A field that is absent, or whose value has the wrong type, keeps the built-in
value; a format that has no result type after all renders `String` constants.
-/

namespace ElmClasses

/-- What a declaration binds its name to. -/
inductive Binding where
  /-- A value of `resultType`, written as `functionText` followed by the class literal. -/
  | applied (resultType functionText : String)
  /-- The class literal itself, of type `String`. -/
  | constant
deriving DecidableEq, Repr

/-- The look of one output module. -/
structure Format where
  binding : Binding
  imports : List String
  /-- Where the module is written, if not beside the main module. -/
  outputFile : Option Path := none
  /-- What the module is called, if not after its place. -/
  moduleName : Option String := none
deriving DecidableEq, Repr

namespace Format

/-- A format that applies a function to each class, at its usual place. -/
def applied (resultType functionText : String) (imports : List String) : Format where
  binding := .applied resultType functionText
  imports := imports

/-- Attributes of HTML elements. -/
def html : Format :=
  applied "Html.Attribute msg" "A.class " ["Html", "Html.Attributes as A"]

/-- Attributes of SVG elements. -/
def svg : Format :=
  applied "Svg.Attribute msg" "A.class " ["Svg", "Svg.Attributes as A"]

/-- Plain strings. -/
def string : Format where
  binding := .constant
  imports := []

/-- The built-in format with a tag. -/
def builtin? (tag : String) : Option Format :=
  if tag = "html" then some html
  else if tag = "svg" then some svg
  else if tag = "string" then some string
  else none

theorem eq_of_builtin?_eq_some {tag : String} {format : Format} (h : builtin? tag = some format) :
    format = html ∨ format = svg ∨ format = string := by
  unfold builtin? at h
  split at h
  · exact .inl (Option.some.inj h).symm
  · split at h
    · exact .inr (.inl (Option.some.inj h).symm)
    · split at h
      · exact .inr (.inr (Option.some.inj h).symm)
      · cases h

end Format

/-! ## Formats from options -/

/-- The spellings of the option for an output file. -/
def outputFileNames : List String := ["outputFile", "elmFile", "output-file", "elm-file"]

/-- The spellings of the option for a module name. -/
def moduleNameNames : List String :=
  ["outputModuleName", "elmModuleName", "output-module-name", "elm-module-name"]

namespace Format

/-- The spellings of the field for a result type. -/
def resultTypeNames : List String := ["resultType", "type", "result-type"]

/-- The spellings of the field for the text in front of the class literal. -/
def functionTextNames : List String := ["functionPrefixText", "fn", "function-prefix-text"]

/-- The spelling of the field for imports. -/
def importsNames : List String := ["imports"]

/-- The text of the field with the first spelling that is present. -/
def stringField? (names : List String) (fields : List (String × Json)) : Option String :=
  (firstField? names fields).bind (·.2.string?)

/-- The text in front of the class literal; a constant has none. -/
def functionText (format : Format) : String :=
  match format.binding with
  | .applied _ functionText => functionText
  | .constant => ""

/-- The binding that the fields of an entry ask for over the built-in format `base`. A declared
type `String` without a function is a constant. -/
def readBinding (tag : String) (base : Option Format) (resultType functionText : Option String) :
    Logged Binding :=
  match resultType, base with
  | some resultType, base =>
    if resultType = "String" ∧ functionText.getD "" = "" then pure .constant
    else
      let inherited := (base.map Format.functionText).getD ""
      pure (.applied resultType (functionText.getD inherited))
  | none, some base =>
    match base.binding, functionText with
    | .applied resultType _, some functionText => pure (.applied resultType functionText)
    | binding, _ => pure binding
  | none, none => do
    Logged.report (.formatWithoutResultType tag)
    pure .constant

/-- The imports that an entry asks for over the built-in format `base`. Only the strings of an
array count. -/
def readImports (tag : String) (base : Option Format) (fields : List (String × Json)) :
    Logged (List String) :=
  let inherited := (base.map Format.imports).getD []
  match firstField? importsNames fields with
  | some (_, .array items) => pure (items.filterMap Json.string?)
  | some (_, value) => do
    Logged.report (.importsNotArray tag value)
    pure inherited
  | none => pure inherited

/-- The format that an entry of the `formats` option describes. -/
def ofJson (tag : String) (value : Json) : Logged Format :=
  let base := builtin? tag
  match value.object? with
  | none => do
    Logged.report (.formatNotObject tag)
    pure (base.getD string)
  | some fields => do
    let binding ← readBinding tag base (stringField? resultTypeNames fields)
      (stringField? functionTextNames fields)
    let imports ← readImports tag base fields
    pure {
      binding := binding
      imports := imports
      outputFile := (stringField? outputFileNames fields).map Path.mk
      moduleName := stringField? moduleNameNames fields }

end Format

end ElmClasses
