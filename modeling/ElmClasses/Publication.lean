import ElmClasses.Config
import ElmClasses.FileSystem
import ElmClasses.Run

/-!
# Publication

Generated modules are written to the disk one after another. A module that cannot be written does
not keep the others from being written; the report tells which were saved and which were not. If
the style sheet cannot be read, or its selectors cannot be collected, nothing is written at all.

A package names its style sheet, and the options for it, in its own metadata, under the key
`tw-elm`. Relative paths there are taken from the directory of the package. A build of the package
tells the build tool to watch the style sheet, and warns of every module that could not be saved.
-/

namespace ElmClasses

/-- Which modules were saved, and which were not and why, each in the order of the modules. -/
structure Report where
  saved : List Path
  failed : List (Path × DiskError)
deriving DecidableEq, Repr

namespace Report

/-- Whether every module was saved. -/
def isSuccess (report : Report) : Bool := report.failed.isEmpty

/-- The report on a module that was saved before those of another report. -/
def addSaved (path : Path) (report : Report) : Report :=
  { report with saved := path :: report.saved }

/-- The report on a module that could not be saved before those of another report. -/
def addFailed (path : Path) (error : DiskError) (report : Report) : Report :=
  { report with failed := (path, error) :: report.failed }

end Report

/-- Why nothing was generated. -/
inductive GenerationError where
  /-- The style sheet could not be read. -/
  | unreadable (path : Path) (error : DiskError)
  /-- The selectors of the style sheet could not be collected. -/
  | stylesheet (error : StylesheetError)
deriving DecidableEq, Repr

/-- The message of an error. -/
def GenerationError.message : GenerationError → String
  | .unreadable path _ => "Failed to read stylesheet " ++ path.text
  | .stylesheet error => error.message

section Publishing

variable {σ Location : Type} [FileSystem σ Location]

/-- Write module files to a disk, one after another. -/
def publish (disk : σ) : List Elm.ModuleFile → Logged (Report × σ)
  | [] => pure (⟨[], []⟩, disk)
  | file :: rest =>
    match FileSystem.write disk file.path file.text with
    | .ok disk => do
      Logged.report (.saved file.path)
      let (report, disk) ← publish disk rest
      pure (report.addSaved file.path, disk)
    | .error error => do
      Logged.report (.notSaved file.path error)
      let (report, disk) ← publish disk rest
      pure (report.addFailed file.path error, disk)

/-- Generate the modules for a style sheet and write them to a disk. -/
def publishStylesheet [StylesheetLibrary] (disk : σ) (style : String) (config : Config) :
    Logged (Except GenerationError Report × σ) :=
  match Run.modulesFor config style with
  | .error error => pure (.error (.stylesheet error), disk)
  | .ok generated => do
    let files ← generated
    let (report, disk) ← publish disk files
    pure (.ok report, disk)

/-- Generate the modules for a style sheet, as options ask, and write them to a disk. -/
def publishFromText [StylesheetLibrary] (disk : σ) (style : String) (options : Option Json) :
    Logged (Except GenerationError Report × σ) := do
  let config ← Config.ofOptions options
  publishStylesheet disk style config

/-- Generate the modules for the style sheet in a file, and write them to the disk. -/
def publishFromFile [StylesheetLibrary] (disk : σ) (input : Path) (config : Config) :
    Logged (Except GenerationError Report × σ) :=
  match FileSystem.read disk input with
  | .error error => pure (.error (.unreadable input error), disk)
  | .ok style => publishStylesheet disk style config

end Publishing

/-! ## Packages -/

/-- The style sheet of a package, and the configuration for it. -/
structure Package where
  input : Path
  config : Config
deriving DecidableEq

namespace Package

/-- The key of the metadata. -/
def metadataKey : String := "tw-elm"

/-- The field that names the style sheet. -/
def inputName : String := "input"

/-- A format with its output file taken from a directory. -/
def resolveFormat (root : Path) (format : Format) : Format :=
  { format with outputFile := format.outputFile.map root.join }

/-- A configuration with its output files taken from a directory. Names of modules stay. -/
def resolveConfig (root : Path) (config : Config) : Config :=
  { config with
    outputFile := root.join config.outputFile
    formats := config.formats.mapValues fun _ => resolveFormat root }

/-- The package that metadata in the directory `root` describes, if they name a style sheet. -/
def ofMetadata? (metadata : Json) (root : Path) : Logged (Option Package) :=
  match metadata.field? metadataKey with
  | none => pure none
  | some options =>
    match (options.field? inputName).bind Json.string? with
    | none => pure none
    | some input => do
      let config ← Config.ofOptions (some options)
      pure (some ⟨root.join ⟨input⟩, resolveConfig root config⟩)

/-- The lines that a build prints for its build tool. -/
def buildInstructions (input : Path) (report : Report) : List String :=
  ("cargo:rerun-if-changed=" ++ input.text) ::
    report.failed.map fun (path, error) =>
      "cargo:warning=Failed to save " ++ path.text ++ ": " ++ error.message

end Package

end ElmClasses
