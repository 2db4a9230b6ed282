import ElmClasses.Proofs.Config.OptionValues
import ElmClasses.Proofs.Dictionary

/-!
# Options without what means nothing

Much of an options object may mean nothing: fields that no reader knows, numbers in the
place of texts, styles that do not exist, formats that are no objects, imports that are no
texts.
To write such a thing is to write nothing. `cleaned` drops it, and the configuration stays
the same, whichever defaults its readers fall back to: the default configuration, the
built-in format of a tag, or a name that follows a file.

What is dropped is told by a table with one rule for each option: its spellings, and what is
kept of a value. No spelling belongs to two rules, so cleaning acts on the values of every
option apart from all others. An option that is spelled twice is another matter: the spelling that
comes first decides even if its value means nothing, so with it dropped the next one would
be heard.

## Main results

* `valuesUnder_cleaned`: cleaning keeps of each option what the rule for it keeps.
* `Format.value_ofJson_cleanedEntry`: an entry of a format means what is left of it.
* `Config.ofObject_cleaned`: a configuration is the one of the cleaned options, and each of
  its fields is heard from its own option only.
-/

namespace ElmClasses

/-- An option: its spellings, and what is kept of its value, nothing if that means nothing. -/
structure OptionRule where
  names : List String
  kept : Json → Option Json

/-- Fields without those that no rule knows, and with what the rules keep of the others. -/
def cleaned (rules : List OptionRule) (fields : List (String × Json)) : List (String × Json) :=
  fields.filterMap fun field =>
    ((rules.find? fun rule => field.1 ∈ rule.names).bind (·.kept field.2)).map (field.1, ·)

/-- No spelling belongs to two rules. -/
def Separate (rules : List OptionRule) : Prop :=
  rules.Pairwise fun rule other => ∀ name ∈ rule.names, name ∉ other.names

/-- No option is spelled twice. -/
def SpelledOnce (rules : List OptionRule) (fields : List (String × Json)) : Prop :=
  ∀ rule ∈ rules, (valuesUnder rule.names fields).length ≤ 1

instance (rules : List OptionRule) : Decidable (Separate rules) :=
  inferInstanceAs (Decidable (List.Pairwise _ rules))

instance (rules : List OptionRule) (fields : List (String × Json)) :
    Decidable (SpelledOnce rules fields) :=
  inferInstanceAs (Decidable (∀ rule ∈ rules, _))

section Rules

variable {rules : List OptionRule} {rule : OptionRule} {fields : List (String × Json)}

/-- A spelling leads to the rule that it belongs to. -/
theorem find?_rule (hseparate : Separate rules) (hrule : rule ∈ rules) {name : String}
    (hname : name ∈ rule.names) : (rules.find? fun rule => name ∈ rule.names) = some rule := by
  induction rules with
  | nil => cases hrule
  | cons first rules ih =>
      obtain ⟨hfirst, hrules⟩ := List.pairwise_cons.1 hseparate
      rcases List.mem_cons.1 hrule with rfl | hrule
      · exact List.find?_cons_of_pos (by simpa using hname)
      · have hother : name ∉ first.names := fun h => hfirst rule hrule name h hname
        rw [List.find?_cons_of_neg (by simpa using hother)]
        exact ih hrules hrule

/-- **Cleaning keeps of each option what the rule for it keeps.** -/
theorem valuesUnder_cleaned (hseparate : Separate rules) (hrule : rule ∈ rules)
    (fields : List (String × Json)) :
    valuesUnder rule.names (cleaned rules fields) =
      (valuesUnder rule.names fields).filterMap rule.kept := by
  induction fields with
  | nil => rfl
  | cons field fields ih =>
      unfold cleaned at ih ⊢
      rw [List.filterMap_cons, valuesUnder_cons]
      by_cases hname : field.1 ∈ rule.names
      · rw [find?_rule hseparate hrule hname, Option.bind_some, if_pos hname,
          List.filterMap_cons]
        cases rule.kept field.2 with
        | none => exact ih
        | some value =>
            show valuesUnder rule.names ((field.1, value) :: _) = value :: _
            rw [valuesUnder_cons, if_pos hname, ih]
      · rw [if_neg hname]
        cases (rules.find? fun rule => field.1 ∈ rule.names).bind (·.kept field.2) with
        | none => exact ih
        | some value =>
            show valuesUnder rule.names ((field.1, value) :: _) = _
            rw [valuesUnder_cons, if_neg hname, ih]

/-- Cleaning does not make an option be spelled twice. -/
theorem SpelledOnce.cleaned (hseparate : Separate rules) (honce : SpelledOnce rules fields) :
    SpelledOnce rules (cleaned rules fields) := by
  intro rule hrule
  rw [valuesUnder_cleaned hseparate hrule]
  exact Nat.le_trans (List.length_filterMap_le _ _) (honce rule hrule)

theorem valueUnder?_cleaned (hseparate : Separate rules) (hrule : rule ∈ rules)
    (honce : SpelledOnce rules fields) :
    valueUnder? rule.names (cleaned rules fields) =
      (valueUnder? rule.names fields).bind rule.kept := by
  have hlength := honce rule hrule
  unfold valueUnder?
  rw [valuesUnder_cleaned hseparate hrule]
  match valuesUnder rule.names fields, hlength with
  | [], _ => rfl
  | [value], _ =>
      rw [List.filterMap_cons, List.head?_cons, Option.bind_some]
      cases rule.kept value <;> rfl

namespace Json

/-- What is kept where a text is expected. -/
def keptText : Json → Option Json
  | .string text => some (.string text)
  | _ => none

/-- A reader of texts does not see what is not kept. -/
theorem bind_keptText (value : Option Json) :
    (value.bind keptText).bind string? = value.bind string? := by
  cases value with
  | none => rfl
  | some value => cases value <;> rfl

end Json

theorem bind_string?_cleaned {names : List String} (hseparate : Separate rules)
    (hrule : ⟨names, Json.keptText⟩ ∈ rules) (honce : SpelledOnce rules fields) :
    (valueUnder? names (cleaned rules fields)).bind Json.string? =
      (valueUnder? names fields).bind Json.string? := by
  rw [valueUnder?_cleaned hseparate hrule honce, Json.bind_keptText]

theorem value_stringOption?_cleaned {names : List String} (hseparate : Separate rules)
    (hrule : ⟨names, Json.keptText⟩ ∈ rules) (honce : SpelledOnce rules fields) :
    (Config.stringOption? names (cleaned rules fields)).value =
      (Config.stringOption? names fields).value := by
  have hcleaned := honce.cleaned hseparate _ hrule
  rw [value_stringOption? (honce _ hrule), value_stringOption? hcleaned,
    bind_string?_cleaned hseparate hrule honce]

theorem stringField?_cleaned {names : List String} (hseparate : Separate rules)
    (hrule : ⟨names, Json.keptText⟩ ∈ rules) (honce : SpelledOnce rules fields) :
    Format.stringField? names (cleaned rules fields) = Format.stringField? names fields := by
  have hcleaned := honce.cleaned hseparate _ hrule
  rw [stringField?_eq (honce _ hrule), stringField?_eq hcleaned,
    bind_string?_cleaned hseparate hrule honce]

end Rules

variable {fields : List (String × Json)}

/-! ## Formats -/

namespace Json

/-- What is kept of imports: the texts of an array. -/
def keptImports : Json → Option Json
  | .array items => some (.array (items.filter fun item => item.string?.isSome))
  | _ => none

/-- The fields of an object. Another value has none. -/
def objectFields (value : Json) : List (String × Json) :=
  value.object?.getD []

end Json

namespace Format

/-- The fields of a format. -/
def rules : List OptionRule := [
  ⟨resultTypeNames, Json.keptText⟩,
  ⟨functionTextNames, Json.keptText⟩,
  ⟨importsNames, Json.keptImports⟩,
  ⟨outputFileNames, Json.keptText⟩,
  ⟨moduleNameNames, Json.keptText⟩]

/-- What is left of the entry of a format: an object, with the fields that mean something. -/
def cleanedEntry (value : Json) : Json :=
  .object (cleaned rules value.objectFields)

theorem separate_rules : Separate rules := by decide

/-- The imports that the value of the field asks for. -/
def importsOf (inherited : List String) (value : Option Json) : List String :=
  match value with
  | some (.array items) => items.filterMap Json.string?
  | _ => inherited

theorem value_readImports (hone : (valuesUnder importsNames fields).length ≤ 1) (tag : String)
    (base : Option Format) :
    (readImports tag base fields).value =
      importsOf ((base.map Format.imports).getD []) (valueUnder? importsNames fields) := by
  rw [← map_firstField? hone]
  unfold readImports
  cases firstField? importsNames fields with
  | none => rfl
  | some field =>
      obtain ⟨name, value⟩ := field
      cases value <;> rfl

theorem importsOf_bind_keptImports (inherited : List String) (value : Option Json) :
    importsOf inherited (value.bind Json.keptImports) = importsOf inherited value := by
  cases value with
  | none => rfl
  | some value =>
      cases value with
      | array items =>
          show (items.filter _).filterMap Json.string? = items.filterMap Json.string?
          rw [List.filterMap_filter]
          congr 1
          funext item
          cases item <;> rfl
      | _ => rfl

theorem value_readImports_cleaned (honce : SpelledOnce rules fields) (tag : String)
    (base : Option Format) :
    (readImports tag base (cleaned rules fields)).value = (readImports tag base fields).value := by
  have hrule : ⟨importsNames, Json.keptImports⟩ ∈ rules := by simp [rules]
  have hcleaned := honce.cleaned separate_rules _ hrule
  rw [value_readImports (honce _ hrule), value_readImports hcleaned,
    valueUnder?_cleaned separate_rules hrule honce, importsOf_bind_keptImports]

/-- The format that the fields of an entry describe. -/
theorem value_ofJson_object (tag : String) (fields : List (String × Json)) :
    (ofJson tag (.object fields)).value =
      { binding := (readBinding tag (builtin? tag) (stringField? resultTypeNames fields)
          (stringField? functionTextNames fields)).value
        imports := (readImports tag (builtin? tag) fields).value
        outputFile := (stringField? outputFileNames fields).map Path.mk
        moduleName := stringField? moduleNameNames fields } :=
  rfl

theorem value_ofJson_nil (tag : String) :
    (ofJson tag (.object [])).value = (builtin? tag).getD string := by
  show Format.mk (readBinding tag (builtin? tag) none none).value _ none none = _
  cases hbase : builtin? tag with
  | none => rfl
  | some base =>
      -- what is built in overrides neither file nor module name
      rcases eq_of_builtin?_eq_some hbase with rfl | rfl | rfl <;> rfl

/-- An entry that is no object means the same as one without fields. -/
theorem value_ofJson_objectFields (tag : String) (value : Json) :
    (ofJson tag (.object value.objectFields)).value = (ofJson tag value).value := by
  cases value with
  | object fields => rfl
  | _ => exact value_ofJson_nil tag

/-- **An entry of a format means what is left of it.** -/
theorem value_ofJson_cleanedEntry {value : Json} (honce : SpelledOnce rules value.objectFields)
    (tag : String) :
    (ofJson tag (cleanedEntry value)).value = (ofJson tag value).value := by
  have htext : ∀ names, ⟨names, Json.keptText⟩ ∈ rules →
      stringField? names (cleaned rules value.objectFields) =
        stringField? names value.objectFields := by
    intro names hrule
    exact stringField?_cleaned separate_rules hrule honce
  rw [← value_ofJson_objectFields tag value, cleanedEntry, value_ofJson_object,
    value_ofJson_object, htext resultTypeNames (by simp [rules]),
    htext functionTextNames (by simp [rules]), htext outputFileNames (by simp [rules]),
    htext moduleNameNames (by simp [rules]), value_readImports_cleaned honce]

end Format

/-! ## Configurations -/

namespace Json

/-- What is kept of a name style: the name of one, in any letter case. -/
def keptNameStyle : Json → Option Json
  | .string name =>
    if equalIgnoringCase name "camel" ∨ equalIgnoringCase name "snake" then some (.string name)
    else none
  | _ => none

/-- What is kept of formats: the entries of an object, with what is left of each. -/
def keptFormats : Json → Option Json
  | .object entries => some (.object (entries.map fun e => (e.1, Format.cleanedEntry e.2)))
  | _ => none

end Json

namespace Config

/-- The options of a configuration. -/
def rules : List OptionRule := [
  ⟨outputFileNames, Json.keptText⟩,
  ⟨moduleNameNames, Json.keptText⟩,
  ⟨utilityPrefixNames, Json.keptText⟩,
  ⟨nameStyleNames, Json.keptNameStyle⟩,
  ⟨formatsNames, Json.keptFormats⟩]

theorem separate_rules : Separate rules := by decide

/-- No option is spelled twice, and no field of any format. -/
structure IsSpelledOnce (fields : List (String × Json)) : Prop where
  options : SpelledOnce rules fields
  formats : ∀ value ∈ valuesUnder formatsNames fields, ∀ e ∈ value.objectFields,
    SpelledOnce Format.rules e.2.objectFields

theorem nameStyleOf_bind_keptNameStyle (value : Option Json) :
    nameStyleOf ((value.bind Json.keptNameStyle).bind Json.string?) =
      nameStyleOf (value.bind Json.string?) := by
  cases value with
  | none => rfl
  | some value =>
      cases value with
      | string name =>
          show nameStyleOf ((Json.keptNameStyle (.string name)).bind Json.string?) =
            (Elm.NameStyle.ofName name).value
          by_cases hknown : equalIgnoringCase name "camel" ∨ equalIgnoringCase name "snake"
          · have hkept : Json.keptNameStyle (.string name) = some (.string name) := if_pos hknown
            rw [hkept]
            rfl
          · -- an unknown style is read as the default one
            have hkept : Json.keptNameStyle (.string name) = none := if_neg hknown
            obtain ⟨hcamel, hsnake⟩ := not_or.1 hknown
            rw [hkept, Elm.NameStyle.ofName, if_neg hcamel, if_neg hsnake]
            rfl
      | _ => rfl

theorem formatsOf_bind_keptFormats {value : Option Json}
    (honce : ∀ v ∈ value, ∀ e ∈ v.objectFields, SpelledOnce Format.rules e.2.objectFields) :
    formatsOf (value.bind Json.keptFormats) = formatsOf value := by
  cases value with
  | none => rfl
  | some value =>
      cases value with
      | object entries =>
          apply Dictionary.ext_find?
          intro tag
          show ((Dictionary.ofList (entries.map _)).mapValues _).find? tag =
            ((Dictionary.ofList entries).mapValues _).find? tag
          rw [Dictionary.find?_mapValues, Dictionary.find?_mapValues, Dictionary.find?_ofList,
            Dictionary.find?_ofList, lookup_map_values fun _ => Format.cleanedEntry, Option.map_map]
          cases hentry : entries.lookup tag with
          | none => rfl
          | some entry =>
              have honce := honce _ rfl (tag, entry) (mem_of_lookup_eq_some hentry)
              exact congrArg some (Format.value_ofJson_cleanedEntry honce tag)
      | _ => rfl

/-- The configuration of an options object. -/
def ofObject (fields : List (String × Json)) : Config :=
  (ofOptions (some (.object fields))).value

/-- The options that mean something. -/
def cleanedOptions (fields : List (String × Json)) : List (String × Json) :=
  cleaned rules fields

theorem ofObject_cleanedOptions (honce : IsSpelledOnce fields) :
    ofObject (cleanedOptions fields) = ofObject fields := by
  have hcleaned := honce.options.cleaned separate_rules
  have htext : ∀ names, ⟨names, Json.keptText⟩ ∈ rules →
      (stringOption? names (cleaned rules fields)).value = (stringOption? names fields).value := by
    intro names hrule
    exact value_stringOption?_cleaned separate_rules hrule honce.options
  have hstyle : nameStyleOf (stringOption? nameStyleNames (cleaned rules fields)).value =
      nameStyleOf (stringOption? nameStyleNames fields).value := by
    have hrule : ⟨nameStyleNames, Json.keptNameStyle⟩ ∈ rules := by simp [rules]
    rw [value_stringOption? (honce.options _ hrule), value_stringOption? (hcleaned _ hrule),
      valueUnder?_cleaned separate_rules hrule honce.options, nameStyleOf_bind_keptNameStyle]
  have hformats : (readFormats (cleaned rules fields)).value = (readFormats fields).value := by
    have hrule : ⟨formatsNames, Json.keptFormats⟩ ∈ rules := by simp [rules]
    rw [value_readFormats (honce.options _ hrule), value_readFormats (hcleaned _ hrule),
      valueUnder?_cleaned separate_rules hrule honce.options]
    apply formatsOf_bind_keptFormats
    intro value hvalue
    exact honce.formats value (List.mem_of_mem_head? hvalue)
  show (ofFields (cleaned rules fields)).value = (ofFields fields).value
  rw [value_ofFields, value_ofFields, htext outputFileNames (by simp [rules]),
    htext moduleNameNames (by simp [rules]), htext utilityPrefixNames (by simp [rules]), hstyle,
    hformats]

/-- What is read from an options object is heard from some options only, whatever the other
ones are. -/
def IsHeardFrom {α : Type} (read : List (String × Json) → α) (options : List (List String)) :
    Prop :=
  ∀ fields others, IsSpelledOnce fields → IsSpelledOnce others →
    (∀ names ∈ options, valuesUnder names fields = valuesUnder names others) →
    read fields = read others

theorem IsHeardFrom.mono {α : Type} {read : List (String × Json) → α}
    {options more : List (List String)} (hread : IsHeardFrom read options)
    (hsubset : options ⊆ more) : IsHeardFrom read more := by
  intro fields others hfields hothers hsame
  apply hread fields others hfields hothers
  intro names hnames
  exact hsame names (hsubset hnames)

/-- What is made of something that is heard from some options is heard from them too. -/
theorem IsHeardFrom.of_eq {α β : Type} {read : List (String × Json) → α}
    {part : List (String × Json) → β} {options : List (List String)}
    (hpart : IsHeardFrom part options) (make : β → α)
    (hread : ∀ fields, read fields = make (part fields)) : IsHeardFrom read options := by
  intro fields others hfields hothers hsame
  rw [hread, hread, hpart fields others hfields hothers hsame]

theorem isHeardFrom_stringOption? {rule : OptionRule} (hrule : rule ∈ rules) :
    IsHeardFrom (fun fields => (stringOption? rule.names fields).value) [rule.names] := by
  intro fields others hfields hothers hsame
  have hvalues := hsame rule.names (List.mem_singleton.2 rfl)
  show (stringOption? rule.names fields).value = (stringOption? rule.names others).value
  rw [value_stringOption? (hfields.options rule hrule),
    value_stringOption? (hothers.options rule hrule), valueUnder?, valueUnder?, hvalues]

theorem isHeardFrom_readFormats :
    IsHeardFrom (fun fields => (readFormats fields).value) [formatsNames] := by
  intro fields others hfields hothers hsame
  have hrule : ⟨formatsNames, Json.keptFormats⟩ ∈ rules := by simp [rules]
  have hvalues := hsame formatsNames (List.mem_singleton.2 rfl)
  show (readFormats fields).value = (readFormats others).value
  rw [value_readFormats (hfields.options _ hrule), value_readFormats (hothers.options _ hrule),
    valueUnder?, valueUnder?, hvalues]

theorem isHeardFrom_outputFile :
    IsHeardFrom (fun fields => (ofObject fields).outputFile) [outputFileNames] := by
  have hrule : ⟨outputFileNames, Json.keptText⟩ ∈ rules := by simp [rules]
  apply (isHeardFrom_stringOption? hrule).of_eq fun text =>
    (text.map Path.mk).getD default.outputFile
  intro fields
  rw [ofObject, ofOptions, value_ofFields]

/-- The module name is heard from the file as well. -/
theorem isHeardFrom_moduleName :
    IsHeardFrom (fun fields => (ofObject fields).moduleName)
      [moduleNameNames, outputFileNames] := by
  have hrule : ⟨moduleNameNames, Json.keptText⟩ ∈ rules := by simp [rules]
  have hname : ∀ fields, (ofObject fields).moduleName =
      (stringOption? moduleNameNames fields).value.getD
        (Elm.moduleNameOfPath (ofObject fields).outputFile) := by
    intro fields
    rw [ofObject, ofOptions, value_ofFields]
  intro fields others hfields hothers hsame
  have htext := (isHeardFrom_stringOption? hrule).mono (by simp) fields others hfields hothers hsame
  have hfile := isHeardFrom_outputFile.mono (by simp) fields others hfields hothers hsame
  show (ofObject fields).moduleName = (ofObject others).moduleName
  rw [hname, hname]
  exact congr (congrArg Option.getD htext) (congrArg Elm.moduleNameOfPath hfile)

theorem isHeardFrom_utilityPrefix :
    IsHeardFrom (fun fields => (ofObject fields).utilityPrefix) [utilityPrefixNames] := by
  have hrule : ⟨utilityPrefixNames, Json.keptText⟩ ∈ rules := by simp [rules]
  apply (isHeardFrom_stringOption? hrule).of_eq fun text => text.getD default.utilityPrefix
  intro fields
  rw [ofObject, ofOptions, value_ofFields]

theorem isHeardFrom_nameStyle :
    IsHeardFrom (fun fields => (ofObject fields).nameStyle) [nameStyleNames] := by
  have hrule : ⟨nameStyleNames, Json.keptNameStyle⟩ ∈ rules := by simp [rules]
  apply (isHeardFrom_stringOption? hrule).of_eq nameStyleOf
  intro fields
  rw [ofObject, ofOptions, value_ofFields]

theorem isHeardFrom_formats :
    IsHeardFrom (fun fields => (ofObject fields).formats) [formatsNames] := by
  apply isHeardFrom_readFormats.of_eq id
  intro fields
  rw [ofObject, ofOptions, value_ofFields]
  rfl

/-- **Options that mean nothing are as good as absent**, and each field of a configuration is
heard from its own option only. The module name is heard from the file too, which it follows
if it has no option of its own. -/
theorem ofObject_cleaned :
    (∀ fields, IsSpelledOnce fields → ofObject (cleanedOptions fields) = ofObject fields) ∧
      IsHeardFrom (fun fields => (ofObject fields).outputFile) [outputFileNames] ∧
      IsHeardFrom (fun fields => (ofObject fields).moduleName)
        [moduleNameNames, outputFileNames] ∧
      IsHeardFrom (fun fields => (ofObject fields).utilityPrefix) [utilityPrefixNames] ∧
      IsHeardFrom (fun fields => (ofObject fields).nameStyle) [nameStyleNames] ∧
      IsHeardFrom (fun fields => (ofObject fields).formats) [formatsNames] := by
  refine ⟨?_, isHeardFrom_outputFile, isHeardFrom_moduleName, isHeardFrom_utilityPrefix,
    isHeardFrom_nameStyle, isHeardFrom_formats⟩
  intro fields honce
  exact ofObject_cleanedOptions honce

/-- Options that mean little: a style that does not exist, a format that is no object, and
one with a type that is no text. -/
def scruffyFields : List (String × Json) := [
  ("name-style", .string "kebab"), ("elmFile", .string "gen/Css.elm"), ("prefix", .number 5 0),
  ("colour", .bool true),
  ("formats", .object [
    ("svg", .null),
    ("sprite", .object [("type", .bool true), ("fn", .string "f "), ("note", .null),
      ("imports", .array [.string "Sprite", .number 1 0])])])]

/-- The same file among options that differ in everything else. -/
def camelFields : List (String × Json) := [
  ("nameStyle", .string "camel"), ("prefix", .string "tw-"),
  ("elmFile", .string "gen/Css.elm"), ("formats", .object [("svg", .object [])])]

theorem ofObject_cleaned_scruffy :
    IsSpelledOnce scruffyFields ∧ IsSpelledOnce camelFields ∧
      cleanedOptions scruffyFields = [
        ("elmFile", .string "gen/Css.elm"),
        ("formats", .object [
          ("svg", .object []),
          ("sprite", .object [("fn", .string "f "), ("imports", .array [.string "Sprite"])])])] ∧
      ofObject (cleanedOptions scruffyFields) = ofObject scruffyFields ∧
      (ofObject scruffyFields).moduleName = (ofObject camelFields).moduleName := by
  have honce : IsSpelledOnce scruffyFields := ⟨by decide, by decide⟩
  have hcamel : IsSpelledOnce camelFields := ⟨by decide, by decide⟩
  obtain ⟨hcleaned, -, hmoduleName, -⟩ := ofObject_cleaned
  refine ⟨honce, hcamel, rfl, hcleaned scruffyFields honce, ?_⟩
  apply hmoduleName scruffyFields camelFields honce hcamel
  intro names hnames
  rcases List.mem_cons.1 hnames with rfl | hfile
  · rfl
  · obtain rfl := List.mem_singleton.1 hfile
    rfl

end Config

end ElmClasses
