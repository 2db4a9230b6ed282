/-!
# File paths

A path is a text in which slashes divide pieces. Nothing normalizes it: two texts that lead to one
file are two paths, and every operation keeps the text that it does not have to change. Empty
pieces and pieces `.` name no file of their own. The file name of a path is its last other piece,
unless that is `..`; the slashes and dots behind it do not belong to it and are lost when its
extension changes.

Two paths are equivalent if they take the same steps. A piece `.` is a step only at the start of a
relative path, so `src//a/.` is equivalent to `src/a`, but neither `./src/a` nor `/src/a` is.

The extension of a file name is what follows its last dot. A name whose only dot is at its start
has none, so `.elm` is a name without extension, and the extension of `a.` is the empty text.
-/

namespace ElmClasses

/-- A file path as it was written. -/
structure Path where
  text : String
deriving DecidableEq, Repr

namespace Path

/-- Pieces that name no file. -/
def isVoid (piece : List Char) : Bool :=
  piece == [] || piece == ['.']

/-- Whether a piece leads to the parent directory. -/
def isParent (piece : List Char) : Bool :=
  piece == ['.', '.']

/-- The pieces of a path up to its last one that is not void, in reverse order. -/
def namedPieces (text : List Char) : List (List Char) :=
  (text.splitOn '/').reverse.dropWhile isVoid

/-- The file name of a path. -/
def fileNameText? (text : List Char) : Option (List Char) :=
  match namedPieces text with
  | [] => none
  | name :: _ => if isParent name then none else some name

/-- A file name without its extension, and the extension. -/
def splitExtension (name : List Char) : List Char × Option (List Char) :=
  let reversed := name.reverse
  match reversed.dropWhile (· != '.') with
  | [] | [_] => (name, none)
  | _ :: stem => (stem.reverse, some (reversed.takeWhile (· != '.')).reverse)

/-- A file name with an extension put behind its stem; the empty extension adds no dot. -/
def nameWithExtension (stem extension : List Char) : List Char :=
  if extension = [] then stem else stem ++ '.' :: extension

/-- A path whose file name gets another extension. A path without file name stays. -/
def setExtensionText (extension text : List Char) : List Char :=
  match namedPieces text with
  | [] => text
  | name :: before =>
    if isParent name then text
    else
      let stem := (splitExtension name).1
      ['/'].intercalate (nameWithExtension stem extension :: before).reverse

/-- The extension of the file name of a path. -/
def extensionText? (text : List Char) : Option (List Char) :=
  (fileNameText? text).bind fun name => (splitExtension name).2

/-- A path that is first shortened by as many characters as its extension has, and whose file name
then gets another extension. The first step alone already turns a last piece `..x` into `..`,
which is no file name any more and stays. -/
def withExtensionText (extension text : List Char) : List Char :=
  let shortened :=
    match extensionText? text with
    | none => text
    | some old => text.take (text.length - old.length)
  setExtensionText extension shortened

/-- Whether a path starts at the root. -/
def isAbsoluteText : List Char → Bool
  | '/' :: _ => true
  | _ => false

/-- A path taken from the directory `base`. An absolute path stays as it is. -/
def joinText (base text : List Char) : List Char :=
  if isAbsoluteText text then text
  else
    match base.getLast? with
    | none | some '/' => base ++ text
    | some _ => base ++ '/' :: text

/-- The pieces of a path that name files or directories, those that lead to a parent left out. -/
def namesText (text : List Char) : List (List Char) :=
  (text.splitOn '/').filter fun piece => !isVoid piece && !isParent piece

/-- One step along a path. -/
inductive Step where
  | root
  /-- The directory that a relative path starts from. -/
  | here
  | parent
  | name (text : List Char)
deriving DecidableEq, Repr

/-- The step of a piece; a void piece is none. -/
def Step.ofPiece? (piece : List Char) : Option Step :=
  if isVoid piece then none
  else if isParent piece then some .parent
  else some (.name piece)

/-- The step of the first piece of a path, if it is one. -/
def firstStep? (text piece : List Char) : Option Step :=
  if isAbsoluteText text then some .root
  else if piece = ['.'] then some .here
  else Step.ofPiece? piece

/-- The steps that a path takes. -/
def stepsText (text : List Char) : List Step :=
  match text.splitOn '/' with
  | [] => []
  | first :: rest => (firstStep? text first).toList ++ rest.filterMap Step.ofPiece?

/-! ## Operations on paths -/

/-- Whether a path starts at the root. -/
def isAbsolute (path : Path) : Bool :=
  isAbsoluteText path.text.toList

/-- A path taken from the directory `base`. -/
def join (base path : Path) : Path :=
  ⟨String.ofList (joinText base.text.toList path.text.toList)⟩

/-- The path with the extension of its file name set in place. -/
def setExtension (path : Path) (extension : String) : Path :=
  ⟨String.ofList (setExtensionText extension.toList path.text.toList)⟩

/-- The path with the extension of its file name replaced. -/
def withExtension (path : Path) (extension : String) : Path :=
  ⟨String.ofList (withExtensionText extension.toList path.text.toList)⟩

/-- Whether two paths take the same steps. -/
def isEquivalent (a b : Path) : Bool :=
  stepsText a.text.toList == stepsText b.text.toList

@[simp]
theorem isEquivalent_refl (path : Path) : path.isEquivalent path = true := by
  simp [isEquivalent]

/-- The names in a path, from the first to the last. -/
def names (path : Path) : List String :=
  (namesText path.text.toList).map String.ofList

end Path

end ElmClasses
