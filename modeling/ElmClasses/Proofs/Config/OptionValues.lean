import ElmClasses.Config

/-!
# Values of options

An option may be written under several spellings, and its reader takes the first spelling
that is present. What an object says about an option is better seen from the fields:
`valuesUnder` lists the values of all fields that spell the option, in whatever order they
stand and whatever else stands between them. What a reader finds is one of these values, and
it finds none only if there is none. So if an option has one value at most, its reader sees
that value, and nothing else of the object matters to it.

## Main results

* `firstField?_eq_none_iff`, `mem_valuesUnder_of_firstField?`: what a reader may find.
* `map_firstField?`: a reader finds the one value of an option.
* `value_stringOption?`, `stringField?_eq`, `Config.value_readFormats`: what readers make of
  that value.
* `Config.value_ofFields`: which option each field of a configuration comes from.
-/

namespace ElmClasses

/-- The values of the fields with one of several names, in the order of the fields. -/
def valuesUnder (names : List String) (fields : List (String × Json)) : List Json :=
  (fields.filter fun field => field.1 ∈ names).map Prod.snd

/-- The one value under several names, if there is one. -/
def valueUnder? (names : List String) (fields : List (String × Json)) : Option Json :=
  (valuesUnder names fields).head?

variable {names : List String} {fields : List (String × Json)}

theorem valuesUnder_cons (names : List String) (field : String × Json)
    (fields : List (String × Json)) :
    valuesUnder names (field :: fields) =
      if field.1 ∈ names then field.2 :: valuesUnder names fields
      else valuesUnder names fields := by
  unfold valuesUnder
  rw [List.filter_cons]
  by_cases hname : field.1 ∈ names
  · rw [if_pos (decide_eq_true hname), if_pos hname, List.map_cons]
  · rw [if_neg (by simpa using hname), if_neg hname]

theorem valuesUnder_append (names : List String) (fields others : List (String × Json)) :
    valuesUnder names (fields ++ others) =
      valuesUnder names fields ++ valuesUnder names others := by
  unfold valuesUnder
  rw [List.filter_append, List.map_append]

theorem mem_valuesUnder {value : Json} :
    value ∈ valuesUnder names fields ↔ ∃ name ∈ names, (name, value) ∈ fields := by
  unfold valuesUnder
  rw [List.mem_map]
  constructor
  · rintro ⟨⟨name, value⟩, hmem, rfl⟩
    obtain ⟨hfield, hname⟩ := List.mem_filter.1 hmem
    exact ⟨name, of_decide_eq_true hname, hfield⟩
  · rintro ⟨name, hname, hfield⟩
    exact ⟨(name, value), List.mem_filter.2 ⟨hfield, decide_eq_true hname⟩, rfl⟩

/-- A reader finds nothing only where there is nothing to find. -/
theorem firstField?_eq_none_iff :
    firstField? names fields = none ↔ valuesUnder names fields = [] := by
  unfold firstField?
  rw [List.findSome?_eq_none_iff, List.eq_nil_iff_forall_not_mem]
  constructor
  · intro hnone value hvalue
    obtain ⟨name, hname, hfield⟩ := mem_valuesUnder.1 hvalue
    have hlookup : fields.lookup name = none := Option.map_eq_none_iff.1 (hnone name hname)
    exact lookup_eq_none_iff_not_mem.1 hlookup value hfield
  · intro hempty name hname
    rw [Option.map_eq_none_iff, lookup_eq_none_iff_not_mem]
    intro value hfield
    exact hempty value (mem_valuesUnder.2 ⟨name, hname, hfield⟩)

/-- What a reader finds is a value of the option. -/
theorem mem_valuesUnder_of_firstField? {field : String × Json}
    (h : firstField? names fields = some field) : field.2 ∈ valuesUnder names fields := by
  unfold firstField? at h
  obtain ⟨name, hname, hlookup⟩ := List.exists_of_findSome?_eq_some h
  obtain ⟨value, hvalue, rfl⟩ := Option.map_eq_some_iff.1 hlookup
  exact mem_valuesUnder.2 ⟨name, hname, mem_of_lookup_eq_some hvalue⟩

/-- **A reader finds the one value of an option**, under whatever name it stands. -/
theorem map_firstField? (hone : (valuesUnder names fields).length ≤ 1) :
    (firstField? names fields).map Prod.snd = valueUnder? names fields := by
  unfold valueUnder?
  cases hfirst : firstField? names fields with
  | none =>
      rw [firstField?_eq_none_iff.1 hfirst]
      rfl
  | some field =>
      have hmem := mem_valuesUnder_of_firstField? hfirst
      match hvalues : valuesUnder names fields, hone with
      | [], _ =>
          rw [hvalues] at hmem
          cases hmem
      | [value], _ =>
          rw [hvalues, List.mem_singleton] at hmem
          rw [Option.map_some, hmem, List.head?_cons]

/-- A reader finds a value that is written once. -/
theorem exists_firstField?_eq {value : Json} (h : valuesUnder names fields = [value]) :
    ∃ name, firstField? names fields = some (name, value) := by
  have hone : (valuesUnder names fields).length ≤ 1 := by
    rw [h]
    exact Nat.le_refl 1
  have hmap := map_firstField? hone
  rw [valueUnder?, h, List.head?_cons] at hmap
  obtain ⟨field, hfield, rfl⟩ := Option.map_eq_some_iff.1 hmap
  exact ⟨field.1, hfield⟩

theorem value_stringOption? (hone : (valuesUnder names fields).length ≤ 1) :
    (Config.stringOption? names fields).value =
      (valueUnder? names fields).bind Json.string? := by
  rw [← map_firstField? hone]
  unfold Config.stringOption?
  cases firstField? names fields with
  | none => rfl
  | some field =>
      obtain ⟨name, value⟩ := field
      cases value <;> rfl

theorem stringField?_eq (hone : (valuesUnder names fields).length ≤ 1) :
    Format.stringField? names fields = (valueUnder? names fields).bind Json.string? := by
  rw [← map_firstField? hone, Option.bind_map]
  rfl

namespace Config

/-- The name style that the text of an option asks for. -/
def nameStyleOf (name : Option String) : Elm.NameStyle :=
  match name with
  | some name => (Elm.NameStyle.ofName name).value
  | none => default.nameStyle

/-- The formats that the value of an option asks for. -/
def formatsOf (value : Option Json) : Dictionary Format :=
  match value with
  | some (.object entries) =>
    (Dictionary.ofList entries).mapValues fun tag entry => (Format.ofJson tag entry).value
  | _ => default.formats

/-- Each field of a configuration comes from its own option, but for the module name, which
follows the file if it has none. -/
theorem value_ofFields (fields : List (String × Json)) :
    let outputFile :=
      ((stringOption? outputFileNames fields).value.map Path.mk).getD default.outputFile
    (ofFields fields).value =
      { outputFile := outputFile
        moduleName := (stringOption? moduleNameNames fields).value.getD
          (Elm.moduleNameOfPath outputFile)
        utilityPrefix :=
          (stringOption? utilityPrefixNames fields).value.getD default.utilityPrefix
        nameStyle := nameStyleOf (stringOption? nameStyleNames fields).value
        formats := (readFormats fields).value } := by
  intro outputFile
  unfold ofFields nameStyleOf
  simp only [Logged.value_bind]
  cases (stringOption? nameStyleNames fields).value with
  | none => rfl
  | some name => rfl

theorem value_readFormats (hone : (valuesUnder formatsNames fields).length ≤ 1) :
    (readFormats fields).value = formatsOf (valueUnder? formatsNames fields) := by
  rw [← map_firstField? hone]
  unfold readFormats
  cases firstField? formatsNames fields with
  | none => rfl
  | some field =>
      obtain ⟨name, value⟩ := field
      cases value <;> rfl

end Config

end ElmClasses
