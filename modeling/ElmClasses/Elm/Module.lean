import ElmClasses.ClassTable
import ElmClasses.Format

/-!
# Elm modules

A draft of a module collects one declaration per class, and rendering turns it into the text of
the module: a header that exposes the declared identifiers in order, the imports of the format,
and the declarations. A module without declarations exposes everything, since an empty exposing
list is no valid header.

A declaration binds an identifier to a class: a type annotation and a definition whose body is the
class as a string literal, after the function of the format if it has one. Its text starts with two
line ends, so that declarations can be put behind a module header and behind one another.

Two classes may have one identifier. Both declarations stay, so that the compiler rejects the
module and nothing is lost silently.
-/

namespace ElmClasses.Elm

/-- One character of a string literal. -/
def literalChar (c : Char) : List Char :=
  if c = '"' then ['\\', '"']
  else if c = '\\' then ['\\', '\\']
  else if c = '\n' then ['\\', 'n']
  else [c]

/-- A text as a string literal, as a list of characters. -/
def literalText (text : List Char) : List Char :=
  '"' :: text.flatMap literalChar ++ ['"']

/-- A text as a string literal. -/
def stringLiteral (text : String) : String :=
  String.ofList (literalText text.toList)

/-- The type of the declarations of a binding. -/
def declaredType : Binding → String
  | .applied resultType _ => resultType
  | .constant => "String"

/-- What stands in front of the class literal. -/
def literalPrefix : Binding → String
  | .applied _ functionText => functionText
  | .constant => ""

/-- The text of the declaration of `identifier` for a class. -/
def declarationText (format : Format) (cls identifier : String) : String :=
  "\n\n" ++ identifier ++ " : " ++ declaredType format.binding ++ "\n" ++
  identifier ++ " =\n    " ++ literalPrefix format.binding ++ stringLiteral cls ++ "\n"

/-- A declaration: the identifier that it binds, and its text. -/
structure Declaration where
  identifier : String
  text : String
deriving DecidableEq, Repr

/-- The declaration of `identifier` for a class. -/
def Declaration.ofClass (format : Format) (cls identifier : String) : Declaration where
  identifier := identifier
  text := declarationText format cls identifier

/-- A module that is being collected. -/
structure ModuleDraft where
  moduleName : String
  path : Path
  format : Format
  declarations : ClassTable Declaration

/-- The text of a module and where it belongs. -/
structure ModuleFile where
  path : Path
  moduleName : String
  text : String
deriving DecidableEq, Repr

namespace ModuleDraft

/-- A draft without declarations. -/
def new (moduleName : String) (path : Path) (format : Format) : ModuleDraft :=
  ⟨moduleName, path, format, .empty⟩

/-- Declare an identifier for a class. -/
def declare (draft : ModuleDraft) (cls identifier : String) : ModuleDraft :=
  { draft with
    declarations := draft.declarations.insert cls (.ofClass draft.format cls identifier) }

/-- The identifiers that a draft declares, in order. -/
def identifiers (draft : ModuleDraft) : List String :=
  draft.declarations.values.map Declaration.identifier

/-- The lines of an exposing list. -/
def exposingLines : List String → String
  | [] => "    (..)\n"
  | first :: rest =>
    "    ( " ++ first ++ "\n" ++
      String.join (rest.map fun identifier => "    , " ++ identifier ++ "\n") ++ "    )\n"

/-- The import lines, with an empty line before them if there are any. -/
def importLines : List String → String
  | [] => ""
  | imports => "\n" ++ String.join (imports.map fun name => "import " ++ name ++ "\n")

/-- The text in front of the declarations. -/
def header (draft : ModuleDraft) : String :=
  "module " ++ draft.moduleName ++ " exposing\n" ++ exposingLines draft.identifiers ++
    importLines draft.format.imports

/-- The text of the declarations. -/
def body (draft : ModuleDraft) : String :=
  String.join (draft.declarations.values.map Declaration.text)

/-- The module file of a draft. -/
def render (draft : ModuleDraft) : ModuleFile where
  path := draft.path
  moduleName := draft.moduleName
  text := draft.header ++ draft.body

end ModuleDraft

end ElmClasses.Elm
