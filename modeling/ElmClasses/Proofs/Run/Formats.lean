import Mathlib.Data.List.Induction
import ElmClasses.Css.Stylesheet
import ElmClasses.Proofs.Run.ClosedForm

/-!
# Independence of formats

One step of a run updates the modules of all formats at once, and the modules stand in the
order of the tags, so that a further format moves the ones behind it. Still no format has
a say in what happens to the others. What a run has collected is one list of classes, and
a module is finished from that list, from its own slot and from the identifiers of the
classes (`Reflects.finish_eq`). The list, the owners and the collisions come about without
any format.

So two runs can be kept side by side. If they reflect the same classes, under
configurations that give classes the same identifiers, then they report the same events at
the next selector and reflect the same classes after it (`Reflects.feed_events_eq`).

## Main results

* `Reflects.finish_eq`: the files of a run as a function of its slots and its classes.
* `performAll_otherFormats`: what two runs have in common whose configurations differ in
  their formats only.
-/

namespace ElmClasses

/-- A module file shows nothing of a draft but its slot and its entries. -/
theorem Elm.ModuleDraft.render_eq {a b : Elm.ModuleDraft} (hslot : a.slot = b.slot)
    (hentries : a.declarations.toList = b.declarations.toList) : a.render = b.render := by
  obtain ⟨moduleName, path, format, declarations⟩ := a
  obtain ⟨otherName, otherPath, otherFormat, otherDeclarations⟩ := b
  simp only [Elm.ModuleDraft.slot, Prod.mk.injEq, Target.mk.injEq] at hslot
  obtain ⟨⟨rfl, rfl⟩, rfl⟩ := hslot
  have hvalues : declarations.values = otherDeclarations.values :=
    congrArg (List.map Prod.snd) hentries
  simp only [Elm.ModuleDraft.render, Elm.ModuleDraft.header, Elm.ModuleDraft.body,
    Elm.ModuleDraft.identifiers, hvalues]

namespace Run

/-- The module in a slot after classes were declared in it, one after another. -/
def draftOfClasses (config : Config) (classes : List String) (slot : Target × Format) :
    Elm.ModuleDraft :=
  classes.foldl (fun draft cls => draft.declare cls (config.identifierOf cls))
    (.new slot.1.moduleName slot.1.path slot.2)

theorem draftOfClasses_concat (config : Config) (classes : List String) (cls : String)
    (slot : Target × Format) :
    draftOfClasses config (classes ++ [cls]) slot =
      (draftOfClasses config classes slot).declare cls (config.identifierOf cls) := by
  rw [draftOfClasses, List.foldl_append]
  rfl

theorem slot_draftOfClasses (config : Config) (classes : List String)
    (slot : Target × Format) : (draftOfClasses config classes slot).slot = slot := by
  induction classes using List.reverseRecOn with
  | nil => rfl
  | append_singleton classes cls ih =>
      rw [draftOfClasses_concat]
      exact ih

theorem toList_draftOfClasses (config : Config) {classes : List String}
    (hnodup : classes.Nodup) (slot : Target × Format) :
    (draftOfClasses config classes slot).declarations.toList =
      declarationsOf config slot.2 classes := by
  induction classes using List.reverseRecOn with
  | nil => rfl
  | append_singleton classes cls ih =>
      obtain ⟨hclasses, hnew⟩ : classes.Nodup ∧ cls ∉ classes := by
        obtain ⟨hclasses, -, hapart⟩ := List.nodup_append.1 hnodup
        exact ⟨hclasses, fun hmem => hapart cls hmem cls List.mem_cons_self rfl⟩
      have hformat : (draftOfClasses config classes slot).format = slot.2 :=
        congrArg Prod.snd (slot_draftOfClasses config classes slot)
      have hentries := ih hclasses
      rw [← hformat] at hentries
      rw [draftOfClasses_concat, Reflects.toList_declare _ hentries, withClass, if_neg hnew,
        hformat]

/-- **The files of a run are determined by its slots and its classes.** -/
theorem Reflects.finish_eq {run : Run} {config : Config} {classes : List String}
    (h : Reflects run config classes) :
    run.finish = (slots config).map fun slot => (draftOfClasses config classes slot).render := by
  rw [finish, ← h.slots_eq, List.map_map]
  apply List.map_congr_left
  intro draft hdraft
  apply Elm.ModuleDraft.render_eq
  · exact (slot_draftOfClasses config classes draft.slot).symm
  · rw [h.declarations_eq draft hdraft, toList_draftOfClasses config h.nodup]
    rfl

/-- The file that a run finishes for the format with a tag. The files behind the main one
stand in the order of the tags. -/
def fileFor? (run : Run) (tag : String) : Option Elm.ModuleFile :=
  ((run.config.formats.entries.map Prod.fst).zip run.finish.tail).lookup tag

/-- A run finishes one file for each tag of its configuration, in the slot of the format. -/
theorem Reflects.fileFor?_eq {run : Run} {config : Config} {classes : List String}
    (h : Reflects run config classes) (tag : String) :
    run.fileFor? tag = (config.formats.find? tag).map fun format =>
      (draftOfClasses config classes (config.target tag format, format)).render := by
  rw [fileFor?, h.config_eq, h.finish_eq, slots, List.map_cons, List.tail_cons, List.map_map,
    List.zip_map']
  exact lookup_map_values
    (fun tag format => (draftOfClasses config classes (config.target tag format, format)).render)
    config.formats.entries tag

/-! ## Two runs side by side -/

section SideBySide

variable {run other : Run} {config otherConfig : Config}

/-- The next selector is reported alike. -/
theorem Reflects.feed_events_eq {classes : List String} (h : Reflects run config classes)
    (hother : Reflects other otherConfig classes)
    (hidentifier : config.identifierOf = otherConfig.identifierOf) (selector : String) :
    (run.feed selector).events = (other.feed selector).events := by
  cases hclass : classOf? selector with
  | none =>
      rw [feed_of_classOf?_eq_none run hclass, feed_of_classOf?_eq_none other hclass]
  | some cls =>
      have hcollision : run.collisionOf? cls (run.identifierOf cls) =
          other.collisionOf? cls (other.identifierOf cls) := by
        rw [h.identifierOf_eq, h.collisionOf?_eq, hother.identifierOf_eq,
          hother.collisionOf?_eq, hidentifier]
      rw [feed_of_classOf?_eq_some run hclass, feed_of_classOf?_eq_some other hclass,
        Logged.events_map, Logged.events_map, Run.addClass, Run.addClass, hcollision]

/-- All further selectors are reported alike. -/
theorem Reflects.feedAll_events_eq {history : List String}
    (h : Reflects run config (classesOf history))
    (hother : Reflects other otherConfig (classesOf history))
    (hidentifier : config.identifierOf = otherConfig.identifierOf) (selectors : List String) :
    (run.feedAll selectors).events = (other.feedAll selectors).events := by
  induction selectors generalizing run other history with
  | nil => rfl
  | cons selector rest ih =>
      rw [feedAll_cons, feedAll_cons, Logged.events_bind, Logged.events_bind,
        h.feed_events_eq hother hidentifier selector,
        ih (h.feed selector) (hother.feed selector)]

end SideBySide

/-- **Formats do not interfere.** Let two runs get the same calls under configurations
that differ in their formats only. They give the same answers, log the same events, find
the same collisions and finish the same main module. A run finishes a module for each tag
of its configuration, and both finish the same module for a tag that stands for the same
format in both configurations. -/
theorem performAll_otherFormats [StylesheetLibrary] (config : Config) (formats : Dictionary Format)
    (calls : List Call) :
    let outcome := (start config).performAll calls
    let other := (start { config with formats := formats }).performAll calls
    outcome.value.1 = other.value.1 ∧
      outcome.events = other.events ∧
      outcome.value.2.collisions = other.value.2.collisions ∧
      outcome.value.2.finish.head? = other.value.2.finish.head? ∧
      ∀ tag, (outcome.value.2.fileFor? tag).isSome = (config.formats.find? tag).isSome ∧
        (config.formats.find? tag = formats.find? tag →
          outcome.value.2.fileFor? tag = other.value.2.fileFor? tag) := by
  intro outcome other
  let otherConfig : Config := { config with formats := formats }
  let selectors := calls.flatMap Call.selectors
  have hidentifier : config.identifierOf = otherConfig.identifierOf := rfl
  have houtcome : outcome = (fun fed => (calls.map Call.answer, fed)) <$>
      (start config).feedAll selectors := performAll_eq _ calls
  have hother : other = (fun fed => (calls.map Call.answer, fed)) <$>
      (start otherConfig).feedAll selectors := performAll_eq _ calls
  have hrun := feedAll_reflects config selectors
  have hotherRun := feedAll_reflects otherConfig selectors
  rw [houtcome, hother]
  simp only [Logged.value_map, Logged.events_map]
  refine ⟨trivial, ?_, ?_, ?_, ?_⟩
  · have hstart : Reflects (start config) config (classesOf []) := start_reflects config
    exact hstart.feedAll_events_eq (start_reflects otherConfig) hidentifier selectors
  · apply Array.toList_inj.1
    rw [hrun.collisions_eq, hotherRun.collisions_eq, hidentifier]
  · rw [hrun.finish_eq, hotherRun.finish_eq]
    rfl
  · intro tag
    rw [hrun.fileFor?_eq, hotherRun.fileFor?_eq]
    constructor
    · exact Option.isSome_map
    · intro hshared
      rw [hshared]
      rfl

/-- A further tag moves the module of `svg` from the second place to the third. -/
theorem performAll_otherFormats_svg :
    let calls : List Call := [.rules [".w-1\\/2", "a", ".w-1over2"], .selector ".x:hover"]
    let config : Config := { Config.default with formats := .ofList [("svg", .svg)] }
    let formats : Dictionary Format := .ofList [("svg", .svg), ("html", .html)]
    let outcome := (start config).performAll calls
    let other := (start { config with formats := formats }).performAll calls
    config.formats.find? "svg" = formats.find? "svg" ∧
      outcome.value.2.fileFor? "svg" = other.value.2.fileFor? "svg" ∧
      (outcome.value.2.fileFor? "svg").isSome = true := by
  intro calls config formats outcome other
  have hshared : config.formats.find? "svg" = formats.find? "svg" := by decide
  obtain ⟨-, -, -, -, htags⟩ := performAll_otherFormats config formats calls
  obtain ⟨hsome, hsame⟩ := htags "svg"
  exact ⟨hshared, hsame hshared, hsome.trans (by decide)⟩

end Run

end ElmClasses
