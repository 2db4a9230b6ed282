import ElmClasses.Path
import ElmClasses.Text.CharClass
import ElmClasses.Text.LetterCase

/-!
# Names in Elm

A class gets the name of a value, and a file the name of a module.

The compiler expects a module `Tailwind.Classes` in the file `Tailwind/Classes.elm` below a source
directory, which is called `src` by custom. The module name of a file is read off its path by that
layout: the names behind the last `src`, divided by dots. A path without `src`, or with nothing
behind it, gives its last name alone.
-/

namespace ElmClasses.Elm

/-- The name of the customary source directory. -/
def sourceDirectory : List Char := ['s', 'r', 'c']

/-- The module name for the names of a path without extension. -/
def moduleNameOfNames (names : List (List Char)) : List Char :=
  let behindSource := (names.reverse.takeWhile (· != sourceDirectory)).reverse
  if names.contains sourceDirectory && behindSource != [] then ['.'].intercalate behindSource
  else names.getLast?.getD []

/-- The module name for the text of a path. -/
def moduleNameOfPathText (text : List Char) : List Char :=
  moduleNameOfNames (Path.namesText (Path.withExtensionText [] text))

/-- The name of the module that the compiler expects at a path. -/
def moduleNameOfPath (path : Path) : String :=
  String.ofList (moduleNameOfPathText path.text.toList)

/-!
## Value names for classes

A class is divided by its colons into segments, and a segment into words. A hyphen divides words;
a hyphen in front of a segment is the word `neg`, a dot is the word `dot`, and a slash is the text
`over` inside its word. Any other character that no identifier can hold divides words too. The
configured prefix of the utilities, when a segment starts with it, is a word of its own.

`joined` writes the words of all segments as one identifier in one of two styles, and `repaired`
turns what may still not be a value name into one: an identifier is never empty, starts with
neither a digit, a capital nor an underscore where that can be repaired, and is no reserved word.
-/

open Text

/-- How the words of a value name are joined. -/
inductive NameStyle where
  /-- `sm__mx_auto`: one underscore between words and two between segments. -/
  | snake
  /-- `smMxAuto`: every word but the first starts with a capital. -/
  | camel
deriving DecidableEq, Repr

namespace ValueName

/-- Characters of a word. -/
def isWordChar (c : Char) : Bool :=
  isAlphanumeric c || c == '_'

/-- Put a word, unless it is empty, before other words. -/
def prependWord (word : List Char) (words : List (List Char)) : List (List Char) :=
  if word = [] then words else word :: words

/-- The rest of the word that a text continues, and the words after it. -/
def wordsFrom : List Char → List Char × List (List Char)
  | [] => ([], [])
  | c :: cs =>
    let (word, later) := wordsFrom cs
    if c = '/' then (['o', 'v', 'e', 'r'] ++ word, later)
    else if c = '.' then ([], ['d', 'o', 't'] :: prependWord word later)
    else if isWordChar c then (c :: word, later)
    else ([], prependWord word later)

/-- The words of a text. -/
def words (text : List Char) : List (List Char) :=
  let (word, later) := wordsFrom text
  prependWord word later

/-- The words of a text in which a hyphen before an alphanumeric character stands for `neg`. -/
def signedWords (text : List Char) : List (List Char) :=
  match text with
  | '-' :: c :: cs =>
    if isAlphanumeric c then ['n', 'e', 'g'] :: words (c :: cs) else words text
  | _ => words text

/-- The words of a segment. A leading `utilityPrefix`, if there is one and a hyphen follows it, is
the first word. -/
def segmentWords (utilityPrefix segment : List Char) : List (List Char) :=
  if utilityPrefix = [] then signedWords segment
  else
    match utilityPrefix.isPrefixOf? segment with
    | some ('-' :: rest) => utilityPrefix :: signedWords rest
    | _ => signedWords segment

/-- A text without the hyphens around it. -/
def trimHyphens (text : List Char) : List Char :=
  ((text.dropWhile (· == '-')).reverse.dropWhile (· == '-')).reverse

/-- The words of a class, grouped by its segments; segments without words are left out. -/
def wordGroups (utilityPrefix cls : List Char) : List (List (List Char)) :=
  ((cls.splitOn ':').map (segmentWords (trimHyphens utilityPrefix))).filter (!·.isEmpty)

/-- Join words in camel style. -/
def camelJoined : List (List Char) → List Char
  | [] => []
  | word :: later => uncapitalized word ++ later.flatMap capitalized

/-- The words of all segments as one text. -/
def joined (style : NameStyle) (groups : List (List (List Char))) : List Char :=
  match style with
  | .snake => ['_', '_'].intercalate (groups.map (['_'].intercalate ·))
  | .camel => camelJoined groups.flatten

/-- Words that cannot be used as value names. -/
def reservedWords : List String := [
  "alias", "as", "case", "else", "exposing", "if", "import", "in", "infix", "let", "module",
  "of", "port", "then", "type", "where"]

/-- Whether a text is a reserved word. -/
def isReserved (name : List Char) : Bool :=
  reservedWords.any (·.toList == name)

/-- Repair the start of a name: the word `n` stands in for an empty name and goes before a digit
or an underscore, and a capital is replaced by its lower case form. -/
def repairedStart (style : NameStyle) (name : List Char) : List Char :=
  match name with
  | [] => ['n']
  | c :: cs =>
    if isNumeric c then
      match style with
      | .snake => 'n' :: '_' :: name
      | .camel => 'n' :: name
    else if isUppercase c then lowercase c ++ cs
    else if c = '_' then 'n' :: name
    else name

/-- Repair a name: its start first, and then a reserved word by an underscore behind it. -/
def repaired (style : NameStyle) (name : List Char) : List Char :=
  let started := repairedStart style name
  if isReserved started then started ++ ['_'] else started

/-- The value name for a class, as a list of characters. -/
def ofClassText (style : NameStyle) (utilityPrefix cls : List Char) : List Char :=
  repaired style (joined style (wordGroups utilityPrefix cls))

end ValueName

/-- The Elm value name for a class. -/
def valueName (style : NameStyle) (utilityPrefix cls : String) : String :=
  String.ofList (ValueName.ofClassText style utilityPrefix.toList cls.toList)

end ElmClasses.Elm
