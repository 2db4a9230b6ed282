import ElmClasses.FileSystem
import ElmClasses.Proofs.ClassName.Division
import ElmClasses.Proofs.ClassName.PseudoSelectors
import ElmClasses.Proofs.ClassName.RoundTrip
import ElmClasses.Proofs.ClassName.Scanning
import ElmClasses.Proofs.ClassName.Segments
import ElmClasses.Proofs.ClassName.Serialized
import ElmClasses.Proofs.ClassTable
import ElmClasses.Proofs.Config.CleanedOptions
import ElmClasses.Proofs.Config.OptionValues
import ElmClasses.Proofs.Config.Targets
import ElmClasses.Proofs.Config.WrittenOptions
import ElmClasses.Proofs.Css.ClassSelector
import ElmClasses.Proofs.Css.Identifier
import ElmClasses.Proofs.Css.PlainSheets
import ElmClasses.Proofs.Dictionary
import ElmClasses.Proofs.Elm.Identifiers
import ElmClasses.Proofs.Elm.ModuleName
import ElmClasses.Proofs.Elm.ModuleText
import ElmClasses.Proofs.Elm.NameProjection
import ElmClasses.Proofs.Elm.NameStyles
import ElmClasses.Proofs.Elm.PrefixSigns
import ElmClasses.Proofs.Elm.UtilityNames
import ElmClasses.Proofs.Elm.ValueName
import ElmClasses.Proofs.Package
import ElmClasses.Proofs.Path.Directories
import ElmClasses.Proofs.Path.Steps
import ElmClasses.Proofs.Publication
import ElmClasses.Proofs.Run.Calls
import ElmClasses.Proofs.Run.ClassSheet
import ElmClasses.Proofs.Run.Classes
import ElmClasses.Proofs.Run.ClosedForm
import ElmClasses.Proofs.Run.Continuation
import ElmClasses.Proofs.Run.Formats
import ElmClasses.Proofs.Run.Names
import ElmClasses.Proofs.Run.SelectorOrder
import ElmClasses.Proofs.Stylesheet.SourceOrder
import ElmClasses.Proofs.Text.CaseMapping
import ElmClasses.Publication
