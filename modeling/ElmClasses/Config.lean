import ElmClasses.Dictionary
import ElmClasses.Elm.Name
import ElmClasses.Format
import ElmClasses.Text.LetterCase

/-!
# Configuration

Where the main module is written and what it is called, how identifiers are made, and which
further formats are generated. A format without overrides is placed below the main module:
`src/TW.elm` with the tag `svg` gives `src/TW/Svg.elm`, and the module `TW.Svg`.

Options override the default configuration one by one. An option with a value of the wrong type is
reported and ignored, and an unknown option is ignored silently, so every value gives some
configuration. Of several spellings of one option the first that is present decides, even if its
value is then ignored. Format entries are read in ascending order of their tags.
-/

namespace ElmClasses

/-- The configuration of a run. -/
structure Config where
  outputFile : Path
  moduleName : String
  /-- The prefix that all utilities of the style sheet share. -/
  utilityPrefix : String
  nameStyle : Elm.NameStyle
  /-- The formats beside the main one, by tag. -/
  formats : Dictionary Format
deriving DecidableEq

/-- A place for a module: its file, and its name. -/
structure Target where
  path : Path
  moduleName : String
deriving DecidableEq, Repr

namespace Config

/-- The file of the main module unless options name another. -/
def defaultOutputFile : Path := ⟨"src/TW.elm"⟩

/-- The configuration without any options. -/
def default : Config where
  outputFile := defaultOutputFile
  moduleName := Elm.moduleNameOfPath defaultOutputFile
  utilityPrefix := ""
  nameStyle := .snake
  formats := .empty

/-- Whether a configuration is the default one, up to how the path of its main module is written. -/
def isDefault (config : Config) : Bool :=
  config.outputFile.isEquivalent default.outputFile &&
    { config with outputFile := default.outputFile } == default

/-- A tag with its first character in upper case. -/
def tagName (tag : String) : String :=
  String.ofList (Text.capitalized tag.toList)

/-- The place of a format's module: its overrides, or else a place below the main module. A module
name that is not overridden follows an overridden file. -/
def target (config : Config) (tag : String) (format : Format) : Target where
  path := format.outputFile.getD
    (((config.outputFile.withExtension "").join ⟨tagName tag⟩).setExtension "elm")
  moduleName := format.moduleName.getD
    (match format.outputFile with
    | some path => Elm.moduleNameOfPath path
    | none => config.moduleName ++ "." ++ tagName tag)

end Config

/-! ## Configuration from options -/

/-- Whether two characters are equal up to the case of ASCII letters. -/
def equalIgnoringCase (a b : String) : Bool :=
  a.toList.map Char.toLower == b.toList.map Char.toLower

/-- The name style with a name, in any letter case; an unknown name is reported. -/
def Elm.NameStyle.ofName (name : String) : Logged NameStyle :=
  if equalIgnoringCase name "camel" then pure .camel
  else if equalIgnoringCase name "snake" then pure .snake
  else do
    Logged.report (.unknownNameStyle name)
    pure .snake

namespace Config

/-- The spelling of the option for the utility prefix. -/
def utilityPrefixNames : List String := ["prefix"]

/-- The spellings of the option for the name style. -/
def nameStyleNames : List String := ["nameStyle", "name-style"]

/-- The spelling of the option for further formats. -/
def formatsNames : List String := ["formats"]

/-- The text of the option with the first spelling that is present; a value of another type is
reported. -/
def stringOption? (names : List String) (fields : List (String × Json)) :
    Logged (Option String) :=
  match firstField? names fields with
  | none => pure none
  | some (_, .string value) => pure (some value)
  | some (name, value) => do
    Logged.report (.optionNotString name value)
    pure none

/-- Read every value of a dictionary, in the order of the keys. -/
def readValues {α β : Type} (read : String → α → Logged β) (values : Dictionary α) :
    Logged (Dictionary β) where
  value := values.mapValues fun key value => (read key value).value
  events := values.entries.flatMap fun e => (read e.1 e.2).events

/-- The formats of the `formats` option. -/
def readFormats (fields : List (String × Json)) : Logged (Dictionary Format) :=
  match firstField? formatsNames fields with
  | some (_, .object entries) => readValues Format.ofJson (.ofList entries)
  | some (_, value) => do
    Logged.report (.formatsNotObject value)
    pure default.formats
  | none => pure default.formats

/-- The configuration that the fields of an options object ask for. -/
def ofFields (fields : List (String × Json)) : Logged Config := do
  let outputFile := ((← stringOption? outputFileNames fields).map Path.mk).getD default.outputFile
  let moduleName := (← stringOption? moduleNameNames fields).getD (Elm.moduleNameOfPath outputFile)
  let utilityPrefix := (← stringOption? utilityPrefixNames fields).getD default.utilityPrefix
  let nameStyle ←
    match ← stringOption? nameStyleNames fields with
    | some name => Elm.NameStyle.ofName name
    | none => pure default.nameStyle
  let formats ← readFormats fields
  pure { outputFile, moduleName, utilityPrefix, nameStyle, formats }

/-- The configuration that options ask for. Options that are absent, or not an object, give the
default one. -/
def ofOptions (options : Option Json) : Logged Config :=
  match options with
  | none => pure default
  | some (.object fields) => ofFields fields
  | some value => do
    Logged.report (.optionsNotObject value)
    pure default

end Config

end ElmClasses
