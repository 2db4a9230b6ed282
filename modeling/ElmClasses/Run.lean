import ElmClasses.ClassName
import ElmClasses.Config
import ElmClasses.Elm.Module
import ElmClasses.Log
import ElmClasses.Stylesheet

/-!
# Runs of the generator

A run collects the classes of the selectors that it is fed, in the modules of all its formats at
once: every module declares the same classes, in the order in which they came first, under the
same identifiers. A selector whose first simple selector is no class, or is a class without a
name, is skipped and reported.

The first class with an identifier owns it. Another class with the same identifier collides with
the owner; the collision is reported once, when the class comes first, and both stay declared. A
style sheet whose selectors cannot be collected leaves the run as it was.
-/

namespace ElmClasses

/-- Two classes with one identifier: the owner of the identifier, and the class that came later. -/
structure Collision where
  identifier : String
  firstClass : String
  secondClass : String
deriving DecidableEq, Repr

/-- The state of a run. -/
structure Run where
  config : Config
  /-- The module of the main format. -/
  main : Elm.ModuleDraft
  /-- The modules of the further formats, in ascending order of their tags. -/
  others : List Elm.ModuleDraft
  /-- The first class of every identifier. -/
  owners : Std.HashMap String String
  /-- The collisions so far, in the order in which they were found. -/
  collisions : Array Collision

namespace Run

/-- The draft of the module of a format. -/
def draftOf (config : Config) (tag : String) (format : Format) : Elm.ModuleDraft :=
  let target := config.target tag format
  .new target.moduleName target.path format

/-- A run that was fed nothing. -/
def start (config : Config) : Run where
  config := config
  main := .new config.moduleName config.outputFile .html
  others := config.formats.entries.map fun e => draftOf config e.1 e.2
  owners := ∅
  collisions := #[]

/-- All modules of a run, the main one first. -/
def modules (run : Run) : List Elm.ModuleDraft :=
  run.main :: run.others

/-- The value name of a class in a run. -/
def identifierOf (run : Run) (cls : String) : String :=
  Elm.valueName run.config.nameStyle run.config.utilityPrefix cls

/-- The collision that a class brings into a run, if it brings one: its identifier has another
owner, and the class is new. -/
def collisionOf? (run : Run) (cls identifier : String) : Option Collision :=
  match run.owners[identifier]? with
  | none => none
  | some owner =>
    if owner = cls || run.main.declarations.contains cls then none
    else some ⟨identifier, owner, cls⟩

/-- Declare an identifier for a class in every module, and note who owns the identifier. -/
def declare (run : Run) (cls identifier : String) : Run :=
  { run with
    main := run.main.declare cls identifier
    others := run.others.map (·.declare cls identifier)
    owners := run.owners.insertIfNew identifier cls
    collisions := run.collisions ++ (run.collisionOf? cls identifier).toList }

/-- The event that reports a collision. -/
def collisionEvent (c : Collision) : LogEvent :=
  .collision c.firstClass c.secondClass c.identifier

/-- Collect a class. -/
def addClass (run : Run) (cls : String) : Logged Run where
  value := run.declare cls (run.identifierOf cls)
  events := (run.collisionOf? cls (run.identifierOf cls)).toList.map collisionEvent

/-- Feed one selector to a run; the answer is its class, unless it is skipped. -/
def feed (run : Run) (selector : String) : Logged (Option String × Run) :=
  if ClassName.isClassSelector selector then
    let cls := ClassName.ofSelector selector
    if cls = "" then do
      Logged.report (.withoutClassName selector)
      pure (none, run)
    else do
      let run ← run.addClass cls
      pure (some cls, run)
  else do
    Logged.report (.notClassSelector selector)
    pure (none, run)

/-- Feed selectors to a run, one after another. -/
def feedAll (run : Run) : List String → Logged Run
  | [] => pure run
  | selector :: rest => do
    let (_, run) ← run.feed selector
    run.feedAll rest

/-- Feed the selectors of a style sheet to a run, once all of them are collected. -/
def feedStylesheet [StylesheetLibrary] (run : Run) (style : String) :
    Except StylesheetError (Logged Run) :=
  run.feedAll <$> Stylesheet.collectSelectors style

/-- The identifier that the main module declares for a class. -/
def declaredIdentifier? (run : Run) (cls : String) : Option String :=
  (run.main.declarations.find? cls).map Elm.Declaration.identifier

/-- The module files of a run, the main one first. -/
def finish (run : Run) : List Elm.ModuleFile :=
  run.modules.map Elm.ModuleDraft.render

/-- The module files for one style sheet. -/
def modulesFor [StylesheetLibrary] (config : Config) (style : String) :
    Except StylesheetError (Logged (List Elm.ModuleFile)) :=
  (fun fed => finish <$> fed) <$> (start config).feedStylesheet style

end Run

end ElmClasses
