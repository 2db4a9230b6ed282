import ElmClasses.Dictionary
import ElmClasses.Path

/-!
# File systems

What publishing asks of the place that it publishes to: a text can be read from a path, and a text
can be written to a path. Both may fail, for whatever reason the system has (a missing directory, a
permission, a lack of space), and it may accept a path now and refuse it later.

The system keeps its files at locations of its own, and says which of them a path leads to. Several
paths may lead to one file, and a path may lead somewhere else after the state has changed. One rule
binds every system: a write that succeeds replaces the whole content of the file that its path leads
to and changes no other file. Reading gives no new state, and neither does a write that fails.
-/

namespace ElmClasses

/-- The causes for which reading or writing a file fails. -/
inductive DiskError where
  /-- Nothing is at the path, or one of its directories does not exist. -/
  | notFound
  /-- A file stands where the path needs a directory. -/
  | notDirectory
  /-- A directory stands where the path needs a file. -/
  | isDirectory
  /-- The path, or one of its pieces, is too long. -/
  | nameTooLong
  /-- The path has a NUL character. -/
  | nulInPath
  /-- The file does not hold UTF-8 text. -/
  | notText
  /-- Any other cause, told by its message. -/
  | other (message : String)
deriving DecidableEq, Repr

/-- The message of a disk error. -/
def DiskError.message : DiskError → String
  | .notFound => "No such file or directory (os error 2)"
  | .notDirectory => "Not a directory (os error 20)"
  | .isDirectory => "Is a directory (os error 21)"
  | .nameTooLong => "File name too long (os error 36)"
  | .nulInPath => "file name contained an unexpected NUL byte"
  | .notText => "stream did not contain valid UTF-8"
  | .other message => message

/-- States of a place where files are kept at locations, read and written. -/
class FileSystem (σ : Type) (Location : outParam Type) where
  /-- The content of the file at a location. -/
  content? : σ → Location → Option ByteArray
  /-- The location of the file that a path leads to, or that a write to the path would create. -/
  locate? : σ → Path → Option Location
  /-- The text of the file at a path. -/
  read : σ → Path → Except DiskError String
  /-- Replace the content of the file at a path by a text, or create the file. -/
  write : σ → Path → String → Except DiskError σ
  /-- A write changes the file that its path leads to, and no other. -/
  content?_write : ∀ {before after : σ} {path : Path} {text : String},
    write before path text = .ok after → ∃ location, locate? before path = some location ∧
      content? after location = some text.toUTF8 ∧
      ∀ other, other ≠ location → content? after other = content? before other

/-!
## Disks

A disk is a tree of directories and files with a working directory, at which relative paths start.
It is kept as the list of its entries: the location of an entry is the list of names that lead to
it from the root, and the root itself is always a directory. A path is followed piece by piece, and
every piece but the last needs a directory to stand in, so `a/../b` leads nowhere if there is no
`a`. Links do not exist.

Writing replaces the whole content of one file, which is created if its directory exists; a failed
write changes nothing, and reading never does. So a disk is a file system.
-/

/-- What is at a location. -/
inductive Disk.Entry where
  | directory
  | file (content : ByteArray)

/-- The entries of a disk by location, and the location of its working directory. -/
structure Disk where
  entries : List (List String × Disk.Entry)
  workingDirectory : List String

namespace Disk

/-- A disk with nothing on it but its working directory. -/
def scratch : Disk where
  entries := [(["scratch"], .directory)]
  workingDirectory := ["scratch"]

/-- The entry at a location. -/
def entry? (disk : Disk) (location : List String) : Option Entry :=
  if location = [] then some .directory else disk.entries.lookup location

/-- The disk with an entry put at a location. -/
def put (disk : Disk) (location : List String) (entry : Entry) : Disk :=
  { disk with entries := (location, entry) :: disk.entries.filter (·.1 != location) }

/-- The largest number of bytes of a name. -/
def maxNameBytes : Nat := 255

/-- The number of bytes that no path may have. -/
def maxPathBytes : Nat := 4096

/-- Follow one piece of a path from a location. -/
def step (disk : Disk) (location : List String) (piece : List Char) :
    Except DiskError (List String) :=
  match disk.entry? location with
  | none => .error .notFound
  | some (.file _) => .error .notDirectory
  | some .directory =>
    if Path.isVoid piece then .ok location
    else if Path.isParent piece then .ok location.dropLast
    else
      let name := String.ofList piece
      if name.utf8ByteSize > maxNameBytes then .error .nameTooLong
      else
        match disk.entry? (location ++ [name]) with
        | none => .error .notFound
        | some _ => .ok (location ++ [name])

/-- Follow pieces of a path from a location. -/
def follow (disk : Disk) (location : List String) : List (List Char) →
    Except DiskError (List String)
  | [] => .ok location
  | piece :: rest => do
    let next ← disk.step location piece
    disk.follow next rest

/-- Where a path starts. -/
def startOf (disk : Disk) (path : Path) : List String :=
  if path.isAbsolute then [] else disk.workingDirectory

/-- Refuse texts that are no paths at all. -/
def checkPath (path : Path) : Except DiskError Unit :=
  if path.text.toList.contains '\x00' then .error .nulInPath
  else if path.text = "" then .error .notFound
  else if path.text.utf8ByteSize ≥ maxPathBytes then .error .nameTooLong
  else .ok ()

/-- The location that a path leads to. -/
def resolve (disk : Disk) (path : Path) : Except DiskError (List String) := do
  checkPath path
  disk.follow (disk.startOf path) (path.text.toList.splitOn '/')

/-- The location of the file that a write to a path would replace or create. Slashes at the end
of the path ask for a directory. -/
def resolveForWriting (disk : Disk) (path : Path) : Except DiskError (List String) := do
  checkPath path
  let pieces := (path.text.toList.splitOn '/').reverse
  match pieces.dropWhile (· == []) with
  | [] => .error .isDirectory
  | last :: before =>
    let directory ← disk.follow (disk.startOf path) before.reverse
    match disk.entry? directory with
    | none => .error .notFound
    | some (.file _) => .error .notDirectory
    | some .directory =>
      let name := String.ofList last
      if Path.isVoid last || Path.isParent last || pieces.head? == some [] then
        .error .isDirectory
      else if name.utf8ByteSize > maxNameBytes then .error .nameTooLong
      else
        match disk.entry? (directory ++ [name]) with
        | some .directory => .error .isDirectory
        | _ => .ok (directory ++ [name])

/-- Replace the content of the file at a path, or create it. -/
def writeBytes (disk : Disk) (path : Path) (content : ByteArray) : Except DiskError Disk := do
  let location ← disk.resolveForWriting path
  .ok (disk.put location (.file content))

/-- Write a text to the file at a path. -/
def write (disk : Disk) (path : Path) (text : String) : Except DiskError Disk :=
  disk.writeBytes path text.toUTF8

/-- The text of the file at a path. -/
def read (disk : Disk) (path : Path) : Except DiskError String := do
  let location ← disk.resolve path
  match disk.entry? location with
  | none => .error .notFound
  | some .directory => .error .isDirectory
  | some (.file content) =>
    match String.fromUTF8? content with
    | some text => .ok text
    | none => .error .notText

/-- Create the directories of a path that are not there yet, from a location on. -/
def makeDirectoriesFrom (disk : Disk) (location : List String) : List (List Char) → Disk
  | [] => disk
  | piece :: rest =>
    if Path.isVoid piece then disk.makeDirectoriesFrom location rest
    else if Path.isParent piece then disk.makeDirectoriesFrom location.dropLast rest
    else
      let location := location ++ [String.ofList piece]
      match disk.entry? location with
      | some _ => disk.makeDirectoriesFrom location rest
      | none => (disk.put location .directory).makeDirectoriesFrom location rest

/-- The disk with the directories of a path created where they are missing. -/
def makeDirectories (disk : Disk) (path : Path) : Disk :=
  disk.makeDirectoriesFrom (disk.startOf path) (path.text.toList.splitOn '/')

/-- The path from the working directory to a location below it, with a slash behind the name of a
directory. -/
def listedPath? (disk : Disk) (location : List String) (entry : Entry) : Option String :=
  if disk.workingDirectory.isPrefixOf location && location != disk.workingDirectory then
    let names := location.drop disk.workingDirectory.length
    let slash := match entry with
      | .directory => "/"
      | .file _ => ""
    some ("/".intercalate names ++ slash)
  else none

/-- Everything below the working directory, in ascending order of the paths. -/
def listing (disk : Disk) : List (String × Entry) :=
  let listed := disk.entries.filterMap fun e =>
    (disk.listedPath? e.1 e.2).map (·, e.2)
  listed.mergeSort fun a b => decide (a.1 ≤ b.1)

/-- The content of the file at a location. -/
def content? (disk : Disk) (location : List String) : Option ByteArray :=
  match disk.entry? location with
  | some (.file content) => some content
  | _ => none

theorem entry?_put (disk : Disk) {location : List String} (hlocation : location ≠ [])
    (entry : Entry) (other : List String) :
    entry? (disk.put location entry) other =
      if other = location then some entry else disk.entry? other := by
  by_cases hother : other = location
  · subst hother
    rw [if_pos rfl, entry?, if_neg hlocation]
    show ((other, entry) :: disk.entries.filter _).lookup other = _
    rw [lookup_cons_ite, if_pos rfl]
  · have hkept : (disk.entries.filter (·.1 != location)).lookup other =
        disk.entries.lookup other := lookup_filter fun _ => bne_iff_ne.2 hother
    rw [if_neg hother, entry?, entry?, ← hkept]
    show (if _ then _ else ((location, entry) :: disk.entries.filter _).lookup other) = _
    rw [lookup_cons_ite, if_neg hother]

theorem content?_put_file (disk : Disk) {location : List String} (hlocation : location ≠ [])
    (content : ByteArray) :
    (disk.put location (.file content)).content? location = some content ∧
      ∀ other, other ≠ location →
        (disk.put location (.file content)).content? other = disk.content? other := by
  constructor
  · rw [content?, entry?_put disk hlocation, if_pos rfl]
  · intro other hother
    rw [content?, entry?_put disk hlocation, if_neg hother, content?]

private theorem bind_eq_ok {ε α β : Type} {x : Except ε α} {f : α → Except ε β} {b : β}
    (h : x >>= f = .ok b) : ∃ a, x = .ok a ∧ f a = .ok b := by
  cases x with
  | error e => cases h
  | ok a => exact ⟨a, rfl, h⟩

/-- A file that is written stands in some directory, so that it is not the root. -/
theorem resolveForWriting_ne_nil {disk : Disk} {path : Path} {location : List String}
    (h : disk.resolveForWriting path = .ok location) : location ≠ [] := by
  obtain ⟨-, -, h⟩ := bind_eq_ok h
  dsimp only at h
  split at h
  · cases h
  · obtain ⟨directory, -, h⟩ := bind_eq_ok h
    repeat' split at h
    all_goals cases h
    all_goals simp

/-- A write that succeeds puts the text where the path leads. -/
theorem write_eq_ok {disk after : Disk} {path : Path} {text : String}
    (h : disk.write path text = .ok after) : ∃ location,
      disk.resolveForWriting path = .ok location ∧
      after = disk.put location (.file text.toUTF8) := by
  obtain ⟨location, hlocation, hafter⟩ := bind_eq_ok h
  injection hafter with hafter
  exact ⟨location, hlocation, hafter.symm⟩

instance : FileSystem Disk (List String) where
  content? := content?
  locate? disk path := (disk.resolveForWriting path).toOption
  read := read
  write := write
  content?_write := by
    intro before after path text h
    obtain ⟨location, hlocation, rfl⟩ := write_eq_ok h
    refine ⟨location, by rw [hlocation]; rfl, ?_⟩
    exact content?_put_file before (resolveForWriting_ne_nil hlocation) text.toUTF8

end Disk

end ElmClasses
