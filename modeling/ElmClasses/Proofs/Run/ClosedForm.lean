import Mathlib.Data.List.Forall2
import ElmClasses.Proofs.ClassTable
import ElmClasses.Proofs.Run.Classes

/-!
# The closed form of a run

The state of a run is spread over several tables that one selector updates at
once: a class table for every output module, the owners of the identifiers, and
the collisions. This module shows that all of it is determined by the
configuration and one list, the distinct classes of the selectors that were fed,
and says how.

The invariant is `Reflects`. It ties each table to the list of classes:

* every module lists exactly these classes, each declared as the module's
  format writes it;
* the owner of an identifier is the first class of the list that has it;
* the collisions are those that `collisionsAmong` reads off the list.

The three parts need one another. Whether a class is new is looked up in the
main module, so the collisions stay exact only because that module is exact,
and which class a new one collides with is looked up among the owners. One step
of a run preserves the invariant (`Reflects.addClass`), hence a whole run does
(`Reflects.feedAll`).

## Main results

* `performAll_modules`: what the modules of a run hold after any calls, and what
  the calls were answered.
* `performAll_collisions`: which collisions a run has reported after any calls.
-/

namespace ElmClasses

/-- The value name of a class under a configuration. -/
def Config.identifierOf (config : Config) (cls : String) : String :=
  Elm.valueName config.nameStyle config.utilityPrefix cls

/-- Where a module belongs and what it looks like, whatever it declares. -/
def Elm.ModuleDraft.slot (draft : Elm.ModuleDraft) : Target × Format :=
  (⟨draft.path, draft.moduleName⟩, draft.format)

namespace Run

/-- The slots of the modules that a configuration asks for: the main one first,
and then one for each format in the order of the tags. -/
def slots (config : Config) : List (Target × Format) :=
  (⟨config.outputFile, config.moduleName⟩, .html) ::
    config.formats.entries.map fun (tag, format) => (config.target tag format, format)

/-- The entries of a module of some format that declares classes. -/
def declarationsOf (config : Config) (format : Format) (classes : List String) :
    List (String × Elm.Declaration) :=
  classes.map fun cls =>
    (cls, ⟨config.identifierOf cls,
      Elm.declarationText format cls (config.identifierOf cls)⟩)

theorem fst_declarationsOf (config : Config) (format : Format) (classes : List String) :
    (declarationsOf config format classes).map Prod.fst = classes := by
  simp [declarationsOf, Function.comp_def]

/-- The state of a run that has collected `classes`, in this order. -/
structure Reflects (run : Run) (config : Config) (classes : List String) : Prop where
  config_eq : run.config = config
  slots_eq : run.modules.map Elm.ModuleDraft.slot = slots config
  declarations_eq : ∀ draft ∈ run.modules,
    draft.declarations.toList = declarationsOf config draft.format classes
  owner_eq : ∀ identifier,
    run.owners[identifier]? = classes.find? fun cls => config.identifierOf cls = identifier
  collisions_eq :
    run.collisions.toList = collisionsAmong config.identifierOf classes

theorem start_reflects (config : Config) : Reflects (start config) config [] where
  config_eq := rfl
  slots_eq := by
    simp [start, modules, slots, Elm.ModuleDraft.slot, Elm.ModuleDraft.new, draftOf]
  declarations_eq := by
    intro draft hdraft
    rcases List.mem_cons.1 hdraft with rfl | hother
    · rfl
    · obtain ⟨e, -, rfl⟩ := List.mem_map.1 hother
      rfl
  owner_eq := by
    intro identifier
    simp [start]
  collisions_eq := rfl

namespace Reflects

variable {run : Run} {config : Config} {classes : List String}

/-- Every module lists the collected classes. -/
theorem keys_eq (h : Reflects run config classes) {draft : Elm.ModuleDraft}
    (hdraft : draft ∈ run.modules) : draft.declarations.keys = classes := by
  rw [ClassTable.keys, h.declarations_eq draft hdraft, fst_declarationsOf]

theorem main_keys_eq (h : Reflects run config classes) :
    run.main.declarations.keys = classes :=
  h.keys_eq List.mem_cons_self

theorem nodup (h : Reflects run config classes) : classes.Nodup := by
  rw [← h.main_keys_eq]
  exact ClassTable.nodup_keys run.main.declarations

theorem identifierOf_eq (h : Reflects run config classes) (cls : String) :
    run.identifierOf cls = config.identifierOf cls := by
  rw [identifierOf, h.config_eq, Config.identifierOf]

/-- Every module declares the identifiers of the collected classes. -/
theorem identifiers_eq (h : Reflects run config classes) {draft : Elm.ModuleDraft}
    (hdraft : draft ∈ run.modules) :
    draft.identifiers = classes.map config.identifierOf := by
  simp [Elm.ModuleDraft.identifiers, ClassTable.values, h.declarations_eq draft hdraft,
    declarationsOf]

/-- Two runs of one configuration have their modules in the same slots, each with the
entries of the classes that its own run has collected. -/
theorem modules_forall₂ {other : Run} {otherClasses : List String}
    (h : Reflects run config classes) (hother : Reflects other config otherClasses) :
    List.Forall₂ (fun draft twin => draft.slot = twin.slot ∧
      draft.declarations.toList = declarationsOf config draft.format classes ∧
      twin.declarations.toList = declarationsOf config draft.format otherClasses)
      run.modules other.modules := by
  have hslots : List.Forall₂ (fun draft twin => draft.slot = twin.slot)
      run.modules other.modules := by
    have heq := h.slots_eq.trans hother.slots_eq.symm
    rwa [← List.forall₂_eq_eq_eq, List.forall₂_map_left_iff,
      List.forall₂_map_right_iff] at heq
  rw [List.forall₂_iff_zip] at hslots ⊢
  refine ⟨hslots.1, fun {draft twin} hpair => ?_⟩
  obtain ⟨hdraft, htwin⟩ := List.of_mem_zip hpair
  have hslot := hslots.2 hpair
  have hformat : draft.format = twin.format := congrArg Prod.snd hslot
  refine ⟨hslot, h.declarations_eq draft hdraft, ?_⟩
  rw [hformat]
  exact hother.declarations_eq twin htwin

/-- The look-ups among the owners and in the main module find out whether a class
is new and whether an earlier class has its identifier. -/
theorem collisionOf?_eq (h : Reflects run config classes) (cls : String) :
    run.collisionOf? cls (config.identifierOf cls) =
      if cls ∈ classes then none else collisionWith? config.identifierOf classes cls := by
  have hcontains : run.main.declarations.contains cls = true ↔ cls ∈ classes := by
    rw [ClassTable.contains_iff_mem_keys, h.main_keys_eq]
  unfold collisionOf? collisionWith?
  rw [h.owner_eq]
  cases hfind : classes.find? fun c => config.identifierOf c = config.identifierOf cls with
  | none => simp
  | some owner =>
      by_cases hmem : cls ∈ classes
      · simp [hcontains.2 hmem, hmem]
      · have howner : owner ≠ cls := by
          rintro rfl
          exact hmem (List.mem_of_find?_eq_some hfind)
        have hnew : ¬ run.main.declarations.contains cls = true := fun hc =>
          hmem (hcontains.1 hc)
        simp [howner, hnew, hmem]

/-- A declaration of a class adds it to the entries of a module, or finds it
there. -/
theorem toList_declare (draft : Elm.ModuleDraft)
    (h : draft.declarations.toList = declarationsOf config draft.format classes)
    (cls : String) :
    (draft.declare cls (config.identifierOf cls)).declarations.toList =
      declarationsOf config draft.format (withClass classes cls) := by
  have hkeys : draft.declarations.keys = classes := by
    rw [ClassTable.keys, h, fst_declarationsOf]
  unfold withClass Elm.ModuleDraft.declare
  by_cases hmem : cls ∈ classes
  · rw [if_pos hmem, ← h]
    apply ClassTable.toList_insert_of_mem_toList
    rw [h]
    exact List.mem_map.2 ⟨cls, hmem, rfl⟩
  · rw [if_neg hmem, ClassTable.toList_insert_of_notMem _ _ (hkeys ▸ hmem), h]
    simp [declarationsOf, Elm.Declaration.ofClass]

/-- The first owner of an identifier stays its owner. -/
private theorem find?_withClass (cls identifier : String) :
    ((withClass classes cls).find? fun c => config.identifierOf c = identifier) =
      if config.identifierOf cls = identifier ∧
          (classes.find? fun c => config.identifierOf c = identifier) = none then some cls
      else classes.find? fun c => config.identifierOf c = identifier := by
  unfold withClass
  by_cases hmem : cls ∈ classes
  · have hne : ¬ (config.identifierOf cls = identifier ∧
        (classes.find? fun c => config.identifierOf c = identifier) = none) := by
      rintro ⟨rfl, hnone⟩
      simp only [List.find?_eq_none, decide_eq_true_eq] at hnone
      exact hnone cls hmem rfl
    rw [if_pos hmem, if_neg hne]
  · rw [if_neg hmem, List.find?_append]
    by_cases hid : config.identifierOf cls = identifier
    · cases hfind : classes.find? fun c => config.identifierOf c = identifier with
      | none => simp [hid]
      | some owner => simp
    · simp [hid]

/-- **One class preserves the invariant**, whether it is new or not. -/
theorem addClass (h : Reflects run config classes) (cls : String) :
    Reflects (run.addClass cls).value config (withClass classes cls) := by
  have hmodules : (run.addClass cls).value.modules =
      run.modules.map (·.declare cls (config.identifierOf cls)) := by
    simp [Run.addClass, declare, modules, h.identifierOf_eq]
  refine
    { config_eq := h.config_eq
      slots_eq := ?_
      declarations_eq := ?_
      owner_eq := ?_
      collisions_eq := ?_ }
  · rw [hmodules, List.map_map, ← h.slots_eq]
    rfl
  · intro draft hdraft
    rw [hmodules] at hdraft
    obtain ⟨before, hbefore, rfl⟩ := List.mem_map.1 hdraft
    exact toList_declare before (h.declarations_eq before hbefore) cls
  · intro identifier
    have howner := h.owner_eq (config.identifierOf cls)
    simp only [Run.addClass, declare, h.identifierOf_eq]
    rw [Std.HashMap.getElem?_insertIfNew, find?_withClass, h.owner_eq]
    by_cases hid : config.identifierOf cls = identifier
    · subst hid
      simp [Std.HashMap.mem_iff_isSome_getElem?, howner]
    · simp [hid]
  · simp only [Run.addClass, declare, h.identifierOf_eq, h.collisionOf?_eq,
      Array.toList_appendList]
    unfold withClass
    by_cases hmem : cls ∈ classes
    · simp [hmem, h.collisions_eq]
    · simp [hmem, h.collisions_eq, collisionsAmong_concat]

/-! ## A whole run -/

/-- One selector preserves the invariant, skipped or not. -/
theorem feed {history : List String} (h : Reflects run config (classesOf history))
    (selector : String) :
    Reflects (run.feed selector).value.2 config (classesOf (history ++ [selector])) := by
  cases hclass : classOf? selector with
  | none =>
      rw [feed_of_classOf?_eq_none run hclass, classesOf_concat_of_eq_none history hclass]
      exact h
  | some cls =>
      rw [feed_of_classOf?_eq_some run hclass, classesOf_concat history hclass]
      exact h.addClass cls

/-- **A run reflects the classes of everything that it was fed.** -/
theorem feedAll {history : List String} (h : Reflects run config (classesOf history))
    (selectors : List String) :
    Reflects (run.feedAll selectors).value config (classesOf (history ++ selectors)) := by
  induction selectors generalizing run history with
  | nil =>
      rw [List.append_nil]
      exact h
  | cons selector rest ih =>
      have hrest := ih (h.feed selector)
      rw [List.append_assoc, List.singleton_append] at hrest
      exact hrest

end Reflects

/-- What a new run reflects after selectors. -/
theorem feedAll_reflects (config : Config) (selectors : List String) :
    Reflects ((start config).feedAll selectors).value config (classesOf selectors) := by
  have hstart : Reflects (start config) config (classesOf []) := start_reflects config
  exact hstart.feedAll selectors

/-- What a new run reflects after calls. -/
theorem performAll_reflects [StylesheetLibrary] (config : Config) (calls : List Call) :
    Reflects ((start config).performAll calls).value.2 config
      (classesOf (calls.flatMap Call.selectors)) := by
  rw [performAll_eq, Logged.value_map]
  exact feedAll_reflects config _

/-! ## Warnings

A step appends a collision to the state and reports the same collision, so that
the log and the state agree without any invariant. -/

/-- The events that matter to the author of a style sheet. -/
def warnings (events : List LogEvent) : List LogEvent :=
  events.filter fun event => event.level = .warn

theorem warnings_append (first second : List LogEvent) :
    warnings (first ++ second) = warnings first ++ warnings second :=
  List.filter_append first second

/-- A collision is reported as a warning. -/
theorem warnings_collisionEvents (collisions : List Collision) :
    warnings (collisions.map collisionEvent) = collisions.map collisionEvent := by
  rw [warnings, List.filter_eq_self]
  intro event hevent
  obtain ⟨c, -, rfl⟩ := List.mem_map.1 hevent
  rfl

/-- A skipped selector is no reason for a warning. -/
theorem warnings_skipEvent (selector : String) : warnings [skipEvent selector] = [] := by
  unfold skipEvent
  split <;> rfl

/-- One selector warns of the collision that it adds. -/
theorem warnings_feed (run : Run) (selector : String) :
    run.collisions.toList.map collisionEvent ++ warnings (run.feed selector).events =
      (run.feed selector).value.2.collisions.toList.map collisionEvent := by
  cases hclass : classOf? selector with
  | none =>
      rw [feed_of_classOf?_eq_none run hclass, warnings_skipEvent, List.append_nil]
  | some cls =>
      rw [feed_of_classOf?_eq_some run hclass, Logged.events_map, Logged.value_map]
      simp only [addClass, declare, warnings_collisionEvents, Array.toList_appendList,
        List.map_append]

/-- Selectors warn of the collisions that they add. -/
theorem warnings_feedAll (run : Run) (selectors : List String) :
    run.collisions.toList.map collisionEvent ++ warnings (run.feedAll selectors).events =
      (run.feedAll selectors).value.collisions.toList.map collisionEvent := by
  induction selectors generalizing run with
  | nil => simp [feedAll_nil, warnings]
  | cons selector rest ih =>
      rw [feedAll_cons, Logged.events_bind, Logged.value_bind, warnings_append,
        ← List.append_assoc, warnings_feed]
      exact ih (run.feed selector).value.2

/-- The warnings of calls on a new run are the collisions that they have led to. -/
theorem warnings_performAll [StylesheetLibrary] (config : Config) (calls : List Call) :
    warnings ((start config).performAll calls).events =
      ((start config).performAll calls).value.2.collisions.toList.map collisionEvent := by
  rw [performAll_eq, Logged.events_map, Logged.value_map]
  exact warnings_feedAll (start config) (calls.flatMap Call.selectors)

/-! ## Any calls on a new run -/

/-- **The closed form of a run.** After any calls, in any order and with style
sheets among them that fail, the run has a main module and one module for each
format in ascending order of the tags, and every one of them declares the
distinct classes of the selectors fed, in the order of their first occurrence.
A call is answered with the class of its selector exactly if the selector
contributes one, and a style sheet whose selectors cannot be collected is
answered with the reason and leaves the run as it was. -/
theorem performAll_modules [StylesheetLibrary] (config : Config) (calls : List Call) :
    let outcome := ((start config).performAll calls).value
    let classes := classesOf (calls.flatMap Call.selectors)
    outcome.2.config = config ∧
      outcome.2.modules.map Elm.ModuleDraft.slot = slots config ∧
      config.formats.entries.Pairwise (·.1 < ·.1) ∧
      classes.Nodup ∧
      (∀ draft ∈ outcome.2.modules,
        draft.declarations.toList = declarationsOf config draft.format classes) ∧
      outcome.1 = calls.map Call.answer ∧
      ∀ (run : Run) (style : String) (error : StylesheetError),
        Stylesheet.collectSelectors style = .error error →
          run.perform (.stylesheet style) = pure (.failed error, run) := by
  intro outcome classes
  have houtcome : outcome = (calls.map Call.answer,
      ((start config).feedAll (calls.flatMap Call.selectors)).value) := by
    simp only [outcome, performAll_eq, Logged.value_map]
  have hreflects : Reflects outcome.2 config classes := by
    rw [houtcome]
    exact feedAll_reflects config _
  refine ⟨hreflects.config_eq, hreflects.slots_eq, config.formats.ascending,
    hreflects.nodup, hreflects.declarations_eq, ?_, ?_⟩
  · rw [houtcome]
  · intro run style error hstyle
    simp only [perform, feedStylesheet, hstyle]
    rfl

/-- **Collisions are reported exactly.** After any calls, the collisions are
those of the main module's classes, in their order: one for each class whose
identifier an earlier class has, with the earliest such class as its owner. So
no class is reported twice, there are as many collisions as classes less
distinct identifiers, there are none exactly if no module declares an identifier
twice, and the warnings of the run are the collisions in the same order. -/
theorem performAll_collisions [StylesheetLibrary] (config : Config) (calls : List Call) :
    let outcome := (start config).performAll calls
    let run := outcome.value.2
    let classes := run.main.declarations.keys
    run.collisions.toList = collisionsAmong config.identifierOf classes ∧
      (run.collisions.toList.map Collision.secondClass).Nodup ∧
      run.collisions.size + (classes.map config.identifierOf).eraseDups.length =
        classes.length ∧
      (run.collisions = #[] ↔ ∀ draft ∈ run.modules, draft.identifiers.Nodup) ∧
      warnings outcome.events = run.collisions.toList.map collisionEvent := by
  intro outcome run classes
  have houtcome : outcome = (fun fed => (calls.map Call.answer, fed)) <$>
      (start config).feedAll (calls.flatMap Call.selectors) := performAll_eq _ calls
  have hrun : run = ((start config).feedAll (calls.flatMap Call.selectors)).value := by
    simp only [run, houtcome, Logged.value_map]
  have hreflects : Reflects run config classes := by
    have h := feedAll_reflects config (calls.flatMap Call.selectors)
    rw [← hrun] at h
    rwa [← h.main_keys_eq] at h
  have hcollisions := hreflects.collisions_eq
  refine ⟨hcollisions, ?_, ?_, ?_, ?_⟩
  · rw [hcollisions]
    exact (secondClasses_sublist config.identifierOf classes).nodup hreflects.nodup
  · rw [← Array.length_toList, hcollisions]
    exact length_collisionsAmong config.identifierOf classes
  · have hidentifiers : (∀ draft ∈ run.modules, draft.identifiers.Nodup) ↔
        (classes.map config.identifierOf).Nodup := by
      constructor
      · intro hall
        have hmain : run.main ∈ run.modules := List.mem_cons_self
        rw [← hreflects.identifiers_eq hmain]
        exact hall run.main hmain
      · intro hnodup draft hdraft
        rwa [hreflects.identifiers_eq hdraft]
    rw [hidentifiers, ← collisionsAmong_eq_nil_iff, ← hcollisions, Array.toList_eq_nil_iff]
  · have hwarnings := warnings_feedAll (start config) (calls.flatMap Call.selectors)
    rw [← hrun] at hwarnings
    rw [houtcome, Logged.events_map, ← hwarnings]
    rfl

end Run

end ElmClasses
