import ElmClasses.Proofs.Config.OptionValues
import ElmClasses.Proofs.Dictionary

/-!
# Configurations as options

A configuration can be written as options, in many ways: each field under any one of its
spellings, the name style in any letter case, the formats and the fields of each format in
any order, and fields that no reader knows anywhere between them. `Config.WrittenIn` says
that an object is such a writing. A format is written in full, with its type, its function
text unless it is a constant, its imports, and what it overrides; so nothing of a built-in
format with the same tag shows through.

Reading a writing gives the configuration back and reports nothing. One kind of format is
never read, and its writing is read as something else: a type `String` whose function is the
empty text counts as a constant. This is all that options cannot say.

## Main results

* `readBinding_written`: the type and the function text of a binding give it back.
* `Format.ofJson_written`: a written format is read back under every tag.
* `Config.exists_ofOptions_iff`: which configurations options can ask for.
* `Config.ofOptions_written`: every configuration has a writing, and every writing is read
  back.
-/

namespace ElmClasses

/-- Fields with one name. -/
def fieldsNamed (name : String) (values : List Json) : List (String × Json) :=
  values.map (name, ·)

/-- The values that write a text, or nothing. -/
def textValues (text : Option String) : List Json :=
  text.toList.map Json.string

variable {names : List String} {fields : List (String × Json)}

theorem valuesUnder_fieldsNamed (names : List String) (name : String) (values : List Json) :
    valuesUnder names (fieldsNamed name values) = if name ∈ names then values else [] := by
  induction values with
  | nil =>
      show [] = _
      split <;> rfl
  | cons value values ih =>
      show valuesUnder names ((name, value) :: fieldsNamed name values) = _
      rw [valuesUnder_cons, ih]
      split <;> rfl

theorem stringOption?_written {text : Option String}
    (h : valuesUnder names fields = textValues text) :
    Config.stringOption? names fields = pure text := by
  unfold Config.stringOption?
  cases text with
  | none => rw [firstField?_eq_none_iff.2 h]
  | some text =>
      obtain ⟨name, hname⟩ := exists_firstField?_eq h
      rw [hname]

theorem stringField?_written {text : Option String}
    (h : valuesUnder names fields = textValues text) :
    Format.stringField? names fields = text := by
  unfold Format.stringField?
  cases text with
  | none =>
      rw [firstField?_eq_none_iff.2 h]
      rfl
  | some text =>
      obtain ⟨name, hname⟩ := exists_firstField?_eq h
      rw [hname]
      rfl

/-! ## Formats -/

/-- The type that is written for a binding. -/
def Binding.resultTypeText : Binding → String
  | .applied resultType _ => resultType
  | .constant => "String"

/-- The function text that is written for a binding. -/
def Binding.functionText? : Binding → Option String
  | .applied _ functionText => some functionText
  | .constant => none

namespace Format

/-- The fields of an object write a format. -/
structure WrittenIn (format : Format) (fields : List (String × Json)) : Prop where
  resultType : valuesUnder resultTypeNames fields = [.string format.binding.resultTypeText]
  functionText : valuesUnder functionTextNames fields = textValues format.binding.functionText?
  imports : valuesUnder importsNames fields = [.array (format.imports.map .string)]
  outputFile : valuesUnder outputFileNames fields = textValues (format.outputFile.map Path.text)
  moduleName : valuesUnder moduleNameNames fields = textValues format.moduleName

/-- A writing of a format. -/
def toFields (format : Format) : List (String × Json) :=
  fieldsNamed "resultType" [.string format.binding.resultTypeText] ++
  fieldsNamed "functionPrefixText" (textValues format.binding.functionText?) ++
  fieldsNamed "imports" [.array (format.imports.map .string)] ++
  fieldsNamed "outputFile" (textValues (format.outputFile.map Path.text)) ++
  fieldsNamed "outputModuleName" (textValues format.moduleName)

theorem writtenIn_toFields (format : Format) : format.WrittenIn format.toFields := by
  constructor <;>
    simp [toFields, valuesUnder_append, valuesUnder_fieldsNamed, resultTypeNames,
      functionTextNames, importsNames, outputFileNames, moduleNameNames]

/-- The binding of a format whose type is written. -/
theorem readBinding_some (tag : String) (base : Option Format) (resultType : String)
    (functionText : Option String) :
    readBinding tag base (some resultType) functionText =
      if resultType = "String" ∧ functionText.getD "" = "" then pure .constant
      else pure (.applied resultType
        (functionText.getD ((base.map Format.functionText).getD ""))) :=
  rfl

/-- What is written for a binding gives it back, whatever format is built in under the tag. -/
theorem readBinding_written {binding : Binding} (h : binding ≠ .applied "String" "")
    (tag : String) (base : Option Format) :
    readBinding tag base (some binding.resultTypeText) binding.functionText? = pure binding := by
  rw [readBinding_some]
  cases binding with
  | constant => rfl
  | applied resultType functionText =>
      have hnot : ¬(resultType = "String" ∧ functionText = "") := by
        rintro ⟨rfl, rfl⟩
        exact h rfl
      exact if_neg hnot

/-- The imports of an array of texts are the texts. -/
theorem readImports_written {imports : List String}
    (h : valuesUnder importsNames fields = [.array (imports.map .string)])
    (tag : String) (base : Option Format) :
    readImports tag base fields = pure imports := by
  obtain ⟨name, hname⟩ := exists_firstField?_eq h
  have hstrings : (imports.map Json.string).filterMap Json.string? = imports := by
    rw [List.filterMap_map]
    exact List.filterMap_some
  unfold readImports
  rw [hname]
  exact congrArg pure hstrings

/-- **A written format is read back**, whatever its tag. -/
theorem ofJson_written {format : Format} (hbinding : format.binding ≠ .applied "String" "")
    (hwritten : format.WrittenIn fields) (tag : String) :
    ofJson tag (.object fields) = pure format := by
  have hpath : (format.outputFile.map Path.text).map Path.mk = format.outputFile := by
    cases format.outputFile <;> rfl
  have htype : valuesUnder resultTypeNames fields =
      textValues (some format.binding.resultTypeText) := hwritten.resultType
  unfold ofJson
  simp only [Json.object?]
  rw [stringField?_written htype, stringField?_written hwritten.functionText,
    stringField?_written hwritten.outputFile, stringField?_written hwritten.moduleName,
    readBinding_written hbinding, readImports_written hwritten.imports, pure_bind, pure_bind,
    hpath]

/-- No built-in format is of type `String` by a function. -/
theorem builtin?_binding_ne {tag : String} {format : Format} (h : builtin? tag = some format)
    (functionText : String) : format.binding ≠ .applied "String" functionText := by
  rcases eq_of_builtin?_eq_some h with rfl | rfl | rfl
  · simp [html, applied]
  · simp [svg, applied]
  · simp [string]

/-- A type `String` with an empty function text is never read. -/
theorem readBinding_ne {base : Option Format}
    (hbase : ∀ format, base = some format → ∀ text, format.binding ≠ .applied "String" text)
    (tag : String) (resultType functionText : Option String) :
    (readBinding tag base resultType functionText).value ≠ .applied "String" "" := by
  cases resultType with
  | some resultType =>
      rw [readBinding_some]
      by_cases hconstant : resultType = "String" ∧ functionText.getD "" = ""
      · rw [if_pos hconstant, Logged.value_pure]
        exact nofun
      · rw [if_neg hconstant, Logged.value_pure]
        intro heq
        obtain ⟨htype, htext⟩ := Binding.applied.inj heq
        refine hconstant ⟨htype, ?_⟩
        cases functionText with
        | none => rfl
        | some functionText => exact htext
  | none =>
      cases base with
      | none => exact nofun
      | some format =>
          have hformat := hbase format rfl
          obtain ⟨binding, imports, outputFile, moduleName⟩ := format
          cases binding with
          | constant => cases functionText <;> exact nofun
          | applied resultType inherited =>
              -- the type is inherited, and no built-in type is `String`
              have htype : resultType ≠ "String" := by
                rintro rfl
                exact hformat inherited rfl
              intro heq
              cases functionText with
              | none => exact htype (Binding.applied.inj heq).1
              | some text => exact htype (Binding.applied.inj heq).1

theorem ofJson_binding_ne (tag : String) (value : Json) :
    (ofJson tag value).value.binding ≠ .applied "String" "" := by
  unfold ofJson
  cases value.object? with
  | none =>
      show ((builtin? tag).getD string).binding ≠ _
      cases hbase : builtin? tag with
      | none => exact nofun
      | some base => exact builtin?_binding_ne hbase ""
  | some fields =>
      show (readBinding tag (builtin? tag) _ _).value ≠ _
      exact readBinding_ne (fun _ h => builtin?_binding_ne h) tag _ _

end Format

/-- The name of a name style. -/
def Elm.NameStyle.name : NameStyle → String
  | .snake => "snake"
  | .camel => "camel"

theorem Elm.NameStyle.ofName_written {style : NameStyle} {name : String}
    (h : equalIgnoringCase name style.name = true) : ofName name = pure style := by
  unfold ofName
  cases style with
  | camel =>
      have hcamel : equalIgnoringCase name "camel" = true := h
      rw [if_pos hcamel]
  | snake =>
      have hsnake : equalIgnoringCase name "snake" = true := h
      have hcamel : ¬equalIgnoringCase name "camel" = true := by
        intro hcamel
        unfold equalIgnoringCase at hsnake hcamel
        rw [beq_iff_eq] at hsnake hcamel
        exact absurd (hcamel.symm.trans hsnake) (by decide)
      rw [if_neg hcamel, if_pos hsnake]

/-! ## Configurations -/

namespace Config

/-- The entries of an object write formats, each under its tag and in any order. -/
structure WritesFormats (formats : Dictionary Format) (entries : List (String × Json)) :
    Prop where
  tags : (entries.map Prod.fst).Perm (formats.entries.map Prod.fst)
  formats : ∀ tag value, (tag, value) ∈ entries → ∀ format, (tag, format) ∈ formats.entries →
    ∃ fields, value = .object fields ∧ format.WrittenIn fields

/-- The fields of an options object write a configuration. -/
structure WrittenIn (config : Config) (fields : List (String × Json)) : Prop where
  outputFile : valuesUnder outputFileNames fields = [.string config.outputFile.text]
  moduleName : valuesUnder moduleNameNames fields = [.string config.moduleName]
  utilityPrefix : valuesUnder utilityPrefixNames fields = [.string config.utilityPrefix]
  nameStyle : ∃ name, equalIgnoringCase name config.nameStyle.name = true ∧
    valuesUnder nameStyleNames fields = [.string name]
  formats : ∃ entries, WritesFormats config.formats entries ∧
    valuesUnder formatsNames fields = [.object entries]

/-- A writing of a configuration. -/
def toFields (config : Config) : List (String × Json) :=
  fieldsNamed "outputFile" [.string config.outputFile.text] ++
  fieldsNamed "outputModuleName" [.string config.moduleName] ++
  fieldsNamed "prefix" [.string config.utilityPrefix] ++
  fieldsNamed "nameStyle" [.string config.nameStyle.name] ++
  fieldsNamed "formats"
    [.object (config.formats.entries.map fun e => (e.1, .object e.2.toFields))]

theorem writesFormats_toFields (formats : Dictionary Format) :
    WritesFormats formats (formats.entries.map fun e => (e.1, .object e.2.toFields)) where
  tags := by
    rw [List.map_map]
    exact .refl _
  formats := by
    intro tag value hmem format hformat
    obtain ⟨⟨k, written⟩, hwritten, heq⟩ := List.mem_map.1 hmem
    obtain ⟨rfl, rfl⟩ := Prod.mk.inj heq
    -- a tag has one format, so the one that was written is the one that is asked for
    rw [← Dictionary.find?_eq_some_iff] at hwritten hformat
    obtain rfl : written = format := Option.some.inj (hwritten.symm.trans hformat)
    exact ⟨written.toFields, rfl, written.writtenIn_toFields⟩

theorem writtenIn_toFields (config : Config) : config.WrittenIn config.toFields where
  outputFile := by
    simp [toFields, valuesUnder_append, valuesUnder_fieldsNamed, outputFileNames]
  moduleName := by
    simp [toFields, valuesUnder_append, valuesUnder_fieldsNamed, moduleNameNames]
  utilityPrefix := by
    simp [toFields, valuesUnder_append, valuesUnder_fieldsNamed, utilityPrefixNames]
  nameStyle := by
    refine ⟨config.nameStyle.name, beq_self_eq_true _, ?_⟩
    simp [toFields, valuesUnder_append, valuesUnder_fieldsNamed, nameStyleNames]
  formats := by
    refine ⟨_, writesFormats_toFields config.formats, ?_⟩
    simp [toFields, valuesUnder_append, valuesUnder_fieldsNamed, formatsNames]

/-- Values that are read back one by one are read back as a dictionary, in whatever order
they stand. -/
theorem readValues_ofList {α β : Type} {read : String → α → Logged β} {values : Dictionary β}
    {entries : List (String × α)}
    (hkeys : (entries.map Prod.fst).Perm (values.entries.map Prod.fst))
    (hread : ∀ key a, (key, a) ∈ entries → ∀ b, (key, b) ∈ values.entries → read key a = pure b) :
    readValues read (.ofList entries) = pure values := by
  have hone : ∀ key a, (key, a) ∈ entries → ∃ b, values.find? key = some b ∧
      read key a = pure b := by
    intro key a hmem
    have hkey : key ∈ values.entries.map Prod.fst :=
      hkeys.mem_iff.1 (List.mem_map.2 ⟨(key, a), hmem, rfl⟩)
    obtain ⟨⟨key, b⟩, hb, rfl⟩ := List.mem_map.1 hkey
    exact ⟨b, (Dictionary.find?_eq_some_iff _ _ _).2 hb, hread _ a hmem b hb⟩
  have hvalue : (readValues read (.ofList entries)).value = values := by
    apply Dictionary.ext_find?
    intro key
    show ((Dictionary.ofList entries).mapValues _).find? key = values.find? key
    rw [Dictionary.find?_mapValues, Dictionary.find?_ofList]
    cases hlookup : entries.lookup key with
    | some a =>
        obtain ⟨b, hfind, hb⟩ := hone key a (mem_of_lookup_eq_some hlookup)
        rw [hfind, Option.map_some, hb, Logged.value_pure]
    | none =>
        -- no value is left out: each key of the dictionary has an entry
        symm
        rw [Option.map_none, Option.eq_none_iff_forall_ne_some]
        intro b hfind
        have hb := (Dictionary.find?_eq_some_iff _ _ _).1 hfind
        have hkey : key ∈ entries.map Prod.fst :=
          hkeys.mem_iff.2 (List.mem_map.2 ⟨(key, b), hb, rfl⟩)
        obtain ⟨⟨k, a⟩, hmem, rfl⟩ := List.mem_map.1 hkey
        exact lookup_eq_none_iff_not_mem.1 hlookup a hmem
  have hevents : (readValues read (.ofList entries)).events = [] := by
    show (Dictionary.ofList entries).entries.flatMap _ = []
    rw [List.flatMap_eq_nil_iff]
    intro e he
    obtain ⟨b, -, hb⟩ := hone e.1 e.2 (Dictionary.mem_of_mem_entries_ofList he)
    rw [hb, Logged.events_pure]
  show (⟨_, _⟩ : Logged (Dictionary β)) = ⟨_, _⟩
  exact congr (congrArg Logged.mk hvalue) hevents

theorem readFormats_written {formats : Dictionary Format} {entries : List (String × Json)}
    (hbinding : ∀ e ∈ formats.entries, e.2.binding ≠ .applied "String" "")
    (hwritten : WritesFormats formats entries)
    (h : valuesUnder formatsNames fields = [.object entries]) :
    readFormats fields = pure formats := by
  obtain ⟨name, hname⟩ := exists_firstField?_eq h
  unfold readFormats
  rw [hname]
  apply readValues_ofList hwritten.tags
  intro tag value hmem format hformat
  obtain ⟨fields, rfl, hfields⟩ := hwritten.formats tag value hmem format hformat
  exact Format.ofJson_written (hbinding _ hformat) hfields tag

/-- Options that write a configuration are read as it, without any report. -/
theorem ofFields_written {config : Config}
    (hbinding : ∀ e ∈ config.formats.entries, e.2.binding ≠ .applied "String" "")
    (hwritten : config.WrittenIn fields) : ofFields fields = pure config := by
  have hfile : valuesUnder outputFileNames fields =
      textValues (some config.outputFile.text) := hwritten.outputFile
  have hmodule : valuesUnder moduleNameNames fields = textValues (some config.moduleName) :=
    hwritten.moduleName
  have hprefix : valuesUnder utilityPrefixNames fields =
      textValues (some config.utilityPrefix) := hwritten.utilityPrefix
  obtain ⟨name, hname, hstyle⟩ := hwritten.nameStyle
  have hstyle : valuesUnder nameStyleNames fields = textValues (some name) := hstyle
  obtain ⟨entries, hentries, hformats⟩ := hwritten.formats
  unfold ofFields
  rw [stringOption?_written hfile, stringOption?_written hmodule, stringOption?_written hprefix,
    stringOption?_written hstyle, readFormats_written hbinding hentries hformats]
  simp only [pure_bind, Elm.NameStyle.ofName_written hname]
  rfl

/-- No format that was read is of type `String` by an empty function text. -/
theorem binding_ne_of_mem_readFormats {e : String × Format}
    (he : e ∈ (readFormats fields).value.entries) : e.2.binding ≠ .applied "String" "" := by
  unfold readFormats at he
  cases hfirst : firstField? formatsNames fields with
  | none =>
      rw [hfirst] at he
      exact absurd he List.not_mem_nil
  | some field =>
      obtain ⟨name, value⟩ := field
      rw [hfirst] at he
      cases value with
      | object entries =>
          obtain ⟨entry, -, rfl⟩ := List.mem_map.1 he
          exact Format.ofJson_binding_ne entry.1 entry.2
      | _ => exact absurd he List.not_mem_nil

/-- Options can ask for every configuration but those with a format of type `String` by an
empty function text. -/
theorem exists_ofOptions_iff (config : Config) :
    (∃ options, (ofOptions options).value = config) ↔
      ∀ e ∈ config.formats.entries, e.2.binding ≠ .applied "String" "" := by
  constructor
  · rintro ⟨options, rfl⟩ e he
    cases options with
    | none => exact absurd he List.not_mem_nil
    | some value =>
        cases value with
        | object fields =>
            rw [ofOptions, value_ofFields] at he
            exact binding_ne_of_mem_readFormats he
        | _ => exact absurd he List.not_mem_nil
  · intro hbinding
    refine ⟨some (.object config.toFields), ?_⟩
    show (ofFields config.toFields).value = config
    rw [ofFields_written hbinding config.writtenIn_toFields, Logged.value_pure]

/-- **Every configuration can be written as options, and every writing of it is read back**
without a report, if it has no format of type `String` by an empty function text. -/
theorem ofOptions_written (config : Config)
    (hbinding : ∀ e ∈ config.formats.entries, e.2.binding ≠ .applied "String" "") :
    (∃ fields, config.WrittenIn fields) ∧
      ∀ fields, config.WrittenIn fields → ofOptions (some (.object fields)) = pure config := by
  refine ⟨⟨config.toFields, config.writtenIn_toFields⟩, ?_⟩
  intro fields hwritten
  exact ofFields_written hbinding hwritten

/-- A configuration with two formats: the built-in tag `svg` for constants, and a new one. -/
def spriteConfig : Config where
  outputFile := ⟨"gen/Css.elm"⟩
  moduleName := "Design.Css"
  utilityPrefix := "tw-"
  nameStyle := .camel
  formats := .ofList [
    ("svg", { binding := .constant, imports := ["Sprite"], moduleName := some "Sprite.Css" }),
    ("class", { binding := .applied "Style" "", imports := [], outputFile := some ⟨"Style.elm"⟩ })]

/-- A writing of it in other spellings than the first ones, with fields of no meaning. -/
def spriteFields : List (String × Json) := [
  ("formats", .object [
    ("svg", .object [("elm-module-name", .string "Sprite.Css"), ("type", .string "String"),
      ("prefix", .null), ("imports", .array [.string "Sprite"])]),
    ("class", .object [("imports", .array []), ("fn", .string ""), ("elmFile", .string "Style.elm"),
      ("result-type", .string "Style")])]),
  ("name-style", .string "CaMeL"), ("outputfile", .number 1 0), ("prefix", .string "tw-"),
  ("elm-file", .string "gen/Css.elm"), ("output-module-name", .string "Design.Css")]

theorem writtenIn_spriteFields : spriteConfig.WrittenIn spriteFields where
  outputFile := rfl
  moduleName := rfl
  utilityPrefix := rfl
  nameStyle := ⟨"CaMeL", by decide, rfl⟩
  formats := by
    refine ⟨_, ?_, rfl⟩
    constructor
    · decide
    · intro tag value hmem format hformat
      rw [← Dictionary.find?_eq_some_iff] at hformat
      rcases List.mem_pair.1 hmem with hsvg | hclass
      · obtain ⟨rfl, rfl⟩ := Prod.mk.inj hsvg
        obtain rfl := Option.some.inj hformat
        exact ⟨_, rfl, rfl, rfl, rfl, rfl, rfl⟩
      · obtain ⟨rfl, rfl⟩ := Prod.mk.inj hclass
        obtain rfl := Option.some.inj hformat
        exact ⟨_, rfl, rfl, rfl, rfl, rfl, rfl⟩

theorem ofOptions_written_sprite :
    (∀ e ∈ spriteConfig.formats.entries, e.2.binding ≠ .applied "String" "") ∧
      spriteConfig.WrittenIn spriteFields ∧
      ofOptions (some (.object spriteFields)) = pure spriteConfig := by
  have hbinding : ∀ e ∈ spriteConfig.formats.entries, e.2.binding ≠ .applied "String" "" := by
    decide
  exact ⟨hbinding, writtenIn_spriteFields,
    (ofOptions_written spriteConfig hbinding).2 spriteFields writtenIn_spriteFields⟩

end Config

end ElmClasses
