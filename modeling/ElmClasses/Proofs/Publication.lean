import ElmClasses.Css.Stylesheet
import ElmClasses.Publication

/-!
# What publishing does to a disk

Publishing writes module files one after another and goes on whatever a write comes to. To
say what it leaves behind, this module keeps for every file the disk that its write found:
an `Attempt` is a module file together with that disk, and the disk after an attempt is
the one that the next attempt finds. Whether an attempt succeeds is up to the file system
alone. It may depend on all that was written before, two files may lead to one location,
and one of them may be the style sheet itself.

The report and the disk are read off the attempts. The paths of the attempts that
succeeded are the saved ones and those of the others the failed ones, each in the order of
the modules. A location holds the text of the last attempt that has written to it, and
what it held before if there is none. One attempt gives the step (`content?_after`,
`publish_cons`), the list of attempts the whole (`publish_published`).

## Main results

* `published_as_reported`: publishing from a text and from a file either ends with an error
  and the disk as it was, or as the attempts say; and both ways are one.
-/

namespace ElmClasses

open FileSystem

section Publishing

variable {σ Location : Type} [FileSystem σ Location]

/-- A module file that is to be written. -/
structure Attempt (σ : Type) where
  file : Elm.ModuleFile
  /-- The disk that the attempt finds. -/
  before : σ

namespace Attempt

/-- What the file system makes of an attempt. -/
def result (attempt : Attempt σ) : Except DiskError σ :=
  FileSystem.write attempt.before attempt.file.path attempt.file.text

/-- The disk after an attempt, whether it succeeds or not. -/
def after (attempt : Attempt σ) : σ :=
  match attempt.result with
  | .ok after => after
  | .error _ => attempt.before

/-- The path of an attempt that succeeds. -/
def savedPath? (attempt : Attempt σ) : Option Path :=
  match attempt.result with
  | .ok _ => some attempt.file.path
  | .error _ => none

/-- The path of an attempt that fails, and why it does. -/
def failure? (attempt : Attempt σ) : Option (Path × DiskError) :=
  match attempt.result with
  | .ok _ => none
  | .error error => some (attempt.file.path, error)

/-- The location that an attempt has written to, if it succeeds. -/
def location? (attempt : Attempt σ) : Option Location :=
  match attempt.result with
  | .ok _ => locate? attempt.before attempt.file.path
  | .error _ => none

/-- **An attempt changes the file that it has written to, and no other.** -/
theorem content?_after [DecidableEq Location] (attempt : Attempt σ) (location : Location) :
    content? attempt.after location =
      if attempt.location? = some location then some attempt.file.text.toUTF8
      else content? attempt.before location := by
  unfold after location?
  cases hresult : attempt.result with
  | error error => rw [if_neg (Option.some_ne_none location).symm]
  | ok after =>
      obtain ⟨written, hwritten, hnew, hothers⟩ := content?_write hresult
      show content? after location = _
      rw [hwritten]
      by_cases hlocation : location = written
      · subst hlocation
        rw [if_pos rfl, hnew]
      · have hne : some written ≠ some location := fun heq =>
          hlocation (Option.some.inj heq).symm
        rw [if_neg hne, hothers location hlocation]

end Attempt

/-! ## All attempts -/

/-- The attempts to write module files one after another: each finds the disk that the one
before it left. -/
def attempts (disk : σ) : List Elm.ModuleFile → List (Attempt σ)
  | [] => []
  | file :: rest =>
    let attempt : Attempt σ := ⟨file, disk⟩
    attempt :: attempts attempt.after rest

/-- The text of the last of several attempts that has written to a location. -/
def lastText? [DecidableEq Location] (location : Location) (made : List (Attempt σ)) :
    Option String :=
  (made.filter (·.location? = some location)).getLast?.map (·.file.text)

theorem lastText?_cons [DecidableEq Location] (location : Location) (attempt : Attempt σ)
    (later : List (Attempt σ)) :
    lastText? location (attempt :: later) =
      (lastText? location later).or
        (if attempt.location? = some location then some attempt.file.text else none) := by
  unfold lastText?
  by_cases hwritten : attempt.location? = some location
  · rw [List.filter_cons_of_pos (by simpa using hwritten), List.getLast?_cons, if_pos hwritten]
    cases (later.filter (·.location? = some location)).getLast? with
    | none => rfl
    | some last => rfl
  · rw [List.filter_cons_of_neg (by simpa using hwritten), if_neg hwritten, Option.or_none]

/-- What publishing module files leaves behind: every file was attempted once and in its
turn, the report tells what became of each attempt, and each location holds what was
written to it last. -/
structure Published [DecidableEq Location] (disk : σ) (files : List Elm.ModuleFile)
    (report : Report) (after : σ) : Prop where
  attempted : (attempts disk files).map Attempt.file = files
  saved_eq : report.saved = (attempts disk files).filterMap Attempt.savedPath?
  failed_eq : report.failed = (attempts disk files).filterMap Attempt.failure?
  accounted : report.saved.length + report.failed.length = files.length
  content_eq : ∀ location : Location, content? after location =
    ((lastText? location (attempts disk files)).map String.toUTF8).or (content? disk location)

/-- Publishing a file and others behind it is an attempt at the first, and publishing the
others to the disk that it leaves. -/
theorem publish_cons (disk : σ) (file : Elm.ModuleFile) (rest : List Elm.ModuleFile) :
    let attempt : Attempt σ := ⟨file, disk⟩
    let ended := (publish attempt.after rest).value
    (publish disk (file :: rest)).value =
      (⟨attempt.savedPath?.toList ++ ended.1.saved,
        attempt.failure?.toList ++ ended.1.failed⟩, ended.2) := by
  intro attempt ended
  have hresult : FileSystem.write disk file.path file.text = attempt.result := rfl
  rw [publish, hresult]
  simp only [ended, Attempt.after, Attempt.savedPath?, Attempt.failure?]
  cases attempt.result with
  | ok after => rfl
  | error error => rfl

/-- **Published files are as reported.** -/
theorem publish_published [DecidableEq Location] (disk : σ) (files : List Elm.ModuleFile) :
    Published disk files (publish disk files).value.1 (publish disk files).value.2 := by
  induction files generalizing disk with
  | nil =>
      exact
        { attempted := rfl
          saved_eq := rfl
          failed_eq := rfl
          accounted := rfl
          content_eq := fun _ => rfl }
  | cons file rest ih =>
      let attempt : Attempt σ := ⟨file, disk⟩
      have htail := ih attempt.after
      have hattempts : attempts disk (file :: rest) =
          attempt :: attempts attempt.after rest := rfl
      rw [publish_cons]
      constructor
      · rw [hattempts, List.map_cons, htail.attempted]
      · rw [hattempts, List.filterMap_cons, htail.saved_eq]
        cases attempt.savedPath? <;> rfl
      · rw [hattempts, List.filterMap_cons, htail.failed_eq]
        cases attempt.failure? <;> rfl
      · have hone : attempt.savedPath?.toList.length + attempt.failure?.toList.length = 1 := by
          unfold Attempt.savedPath? Attempt.failure?
          cases attempt.result <;> rfl
        have hrest := htail.accounted
        generalize (publish attempt.after rest).value.1 = report at hrest
        show (attempt.savedPath?.toList ++ report.saved).length +
          (attempt.failure?.toList ++ report.failed).length = rest.length + 1
        rw [List.length_append, List.length_append]
        omega
      · intro location
        show content? (publish attempt.after rest).value.2 location = _
        rw [htail.content_eq location, hattempts, lastText?_cons, attempt.content?_after]
        cases lastText? location (attempts attempt.after rest) with
        | some text => rfl
        | none =>
            by_cases hwritten : attempt.location? = some location
            · rw [if_pos hwritten, if_pos hwritten]
              rfl
            · rw [if_neg hwritten, if_neg hwritten]
              rfl

/-! ## Publishing a style sheet -/

/-- How publishing a style sheet ends: with an error and the disk as it was, if the
selectors of the sheet cannot be collected, and else with the modules that are generated
for it. -/
def PublishesSheet [StylesheetLibrary] [DecidableEq Location] (disk : σ) (style : String)
    (config : Config) (ended : Except GenerationError Report × σ) : Prop :=
  match Run.modulesFor config style with
  | .error error => ended = (.error (.stylesheet error), disk)
  | .ok generated => ∃ report, ended.1 = .ok report ∧
      Published disk generated.value report ended.2

theorem publishStylesheet_spec [StylesheetLibrary] [DecidableEq Location] (disk : σ)
    (style : String) (config : Config) :
    PublishesSheet disk style config (publishStylesheet disk style config).value := by
  unfold PublishesSheet publishStylesheet
  cases Run.modulesFor config style with
  | error error => rfl
  | ok generated => exact ⟨_, rfl, publish_published disk generated.value⟩

/-- **What is generated and what is written agree, and errors touch nothing.** Publishing
from a text, with the configuration that options ask for, ends as its style sheet does.
Publishing from a file ends with an error and the disk as it was if the file cannot be
read, and else as the style sheet in the file does. For a file that can be read, reading
the options first and publishing from the file is the same as publishing from its text:
the same report or error, the same disk and the same log. -/
theorem published_as_reported [StylesheetLibrary] [DecidableEq Location] (disk : σ)
    (style : String) (options : Option Json) (input : Path) (config : Config) :
    PublishesSheet disk style (Config.ofOptions options).value
        (publishFromText disk style options).value ∧
      (match FileSystem.read disk input with
      | .error error => (publishFromFile disk input config).value =
          (.error (.unreadable input error), disk)
      | .ok text => PublishesSheet disk text config (publishFromFile disk input config).value) ∧
      (FileSystem.read disk input = .ok style →
        Config.ofOptions options >>= publishFromFile disk input =
          publishFromText disk style options) := by
  refine ⟨publishStylesheet_spec disk style _, ?_, ?_⟩
  · unfold publishFromFile
    cases FileSystem.read disk input with
    | error error => rfl
    | ok text => exact publishStylesheet_spec disk text config
  · intro hread
    unfold publishFromText publishFromFile
    rw [hread]

end Publishing

/-- A style sheet over which one of its own modules is written, while the directory of the
other module does not exist. -/
theorem published_as_reported_overwriting :
    let input : Path := ⟨"a.css"⟩
    let options : Option Json := some (.object [("formats", .object
      [("svg", .object [("elm-file", .string "a.css")])])])
    let disk := Disk.scratch.put ["scratch", "a.css"] (.file ".a{}".toUTF8)
    FileSystem.read disk input = .ok ".a{}" ∧
      Config.ofOptions options >>= publishFromFile disk input =
        publishFromText disk ".a{}" options ∧
      (publishFromText disk ".a{}" options).value.1.toOption =
        some ⟨[input], [(⟨"src/TW.elm"⟩, .notFound)]⟩ := by
  intro input options disk
  have hread : FileSystem.read disk input = .ok ".a{}" := by
    have htext : (FileSystem.read disk input).toOption = some ".a{}" := by decide +kernel
    cases hresult : FileSystem.read disk input with
    | error error => rw [hresult] at htext; cases htext
    | ok text => rw [hresult] at htext; cases htext; rfl
  obtain ⟨-, -, hsame⟩ := published_as_reported disk ".a{}" options input Config.default
  exact ⟨hread, hsame hread, by decide +kernel⟩

end ElmClasses
