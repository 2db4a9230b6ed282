import ElmClasses.Css.Stylesheet
import ElmClasses.Proofs.Run.Formats

/-!
# Runs that go on

A run that is fed more selectors rewrites its tables on every one of them: a class that
comes again is inserted again into every module, under the identifier that it had, and
the owner of the identifier is looked up again. None of that can be seen. What is stored
for a class is a function of the class, so that inserting it again stores what is there,
and a class collides only when it comes first.

Both facts are part of the invariant `Reflects`: a run is determined by the list of its
classes, and that list only grows at its end (`isPrefix_classesOf_append`). So the modules and the
collisions of the longer run begin with those of the shorter one, and a continuation that
brings no class leaves everything as it was.

## Main results

* `Reflects.extends_of_isPrefix`: a run with further classes extends the run without them.
* `performAll_append`: what a continuation keeps, and when it changes nothing.
-/

namespace ElmClasses.Run

/-- A run after it went on. Its modules stand in the slots in which they stood and have
further declarations behind those that they had; so do its collisions. -/
structure Extends (before after : Run) : Prop where
  modules_grow : List.Forall₂ (fun draft grown => draft.slot = grown.slot ∧
    draft.declarations.toList <+: grown.declarations.toList) before.modules after.modules
  collisions_grow : before.collisions.toList <+: after.collisions.toList

namespace Reflects

variable {before after : Run} {config : Config} {classes more : List String}

/-- **A run with further classes extends the run without them.** -/
theorem extends_of_isPrefix (h : Reflects before config classes)
    (hafter : Reflects after config more) (hmore : classes <+: more) :
    Extends before after where
  modules_grow := by
    apply (h.modules_forall₂ hafter).imp
    rintro draft grown ⟨hslot, hdraft, hgrown⟩
    rw [hdraft, hgrown]
    exact ⟨hslot, hmore.map _⟩
  collisions_grow := by
    rw [h.collisions_eq, hafter.collisions_eq]
    exact isPrefix_collisionsAmong config.identifierOf hmore

/-- Two runs with the same classes have found the same collisions. -/
theorem collisions_eq_of_same (h : Reflects before config classes)
    (hafter : Reflects after config classes) : after.collisions = before.collisions := by
  apply Array.toList_inj.1
  rw [hafter.collisions_eq, h.collisions_eq]

end Reflects

/-- **A run only appends.** Let calls be followed by further ones. In every module the
declarations after the first calls are the first declarations after all of them, and so
are the collisions. If each selector of the further calls is skipped or has the class of
a selector that came before, then they change neither the finished modules nor the
collisions, and nothing more is warned of. -/
theorem performAll_append [StylesheetLibrary] (config : Config) (calls later : List Call) :
    let before := (start config).performAll calls
    let after := (start config).performAll (calls ++ later)
    Extends before.value.2 after.value.2 ∧
      ((∀ selector ∈ later.flatMap Call.selectors, ∀ cls, classOf? selector = some cls →
          ∃ earlier ∈ calls.flatMap Call.selectors, classOf? earlier = some cls) →
        after.value.2.finish = before.value.2.finish ∧
          after.value.2.collisions = before.value.2.collisions ∧
          warnings after.events = warnings before.events) := by
  intro before after
  let selectors := calls.flatMap Call.selectors
  let further := later.flatMap Call.selectors
  have hbefore : Reflects before.value.2 config (classesOf selectors) :=
    performAll_reflects config calls
  have hafter : Reflects after.value.2 config (classesOf (selectors ++ further)) := by
    have h := performAll_reflects config (calls ++ later)
    rwa [List.flatMap_append] at h
  have hmore := isPrefix_classesOf_append selectors further
  refine ⟨hbefore.extends_of_isPrefix hafter hmore, fun hseen => ?_⟩
  have hsame : classesOf (selectors ++ further) = classesOf selectors :=
    classesOf_append_of_seen fun selector hselector cls hclass =>
      mem_classesOf.2 (hseen selector hselector cls hclass)
  rw [hsame] at hafter
  have hcollisions := hbefore.collisions_eq_of_same hafter
  refine ⟨?_, hcollisions, ?_⟩
  · rw [hafter.finish_eq, hbefore.finish_eq]
  · rw [warnings_performAll, warnings_performAll]
    exact congrArg (fun collisions => collisions.toList.map collisionEvent) hcollisions

/-- The class that lost its identifier comes again, then the one that owns it, and a
selector that is skipped. -/
theorem performAll_append_widths :
    let calls : List Call := [.selector ".w-1\\/2", .rules [".w-1over2", "a"]]
    let later : List Call := [.rules [".w-1over2:hover", ".w-1\\/2"], .selector "a"]
    let before := (start Config.default).performAll calls
    let after := (start Config.default).performAll (calls ++ later)
    (∀ selector ∈ later.flatMap Call.selectors, ∀ cls, classOf? selector = some cls →
        ∃ earlier ∈ calls.flatMap Call.selectors, classOf? earlier = some cls) ∧
      after.value.2.finish = before.value.2.finish ∧
      warnings after.events = warnings before.events ∧
      before.value.2.collisions.toList = [⟨"w_1over2", "w-1/2", "w-1over2"⟩] := by
  intro calls later before after
  have hseen : ∀ selector ∈ later.flatMap Call.selectors, ∀ cls,
      classOf? selector = some cls →
        ∃ earlier ∈ calls.flatMap Call.selectors, classOf? earlier = some cls := by
    intro selector hselector cls hclass
    have hclasses : ∀ selector ∈ later.flatMap Call.selectors,
        ∀ cls ∈ (classOf? selector).toList, cls ∈ classesOf (calls.flatMap Call.selectors) := by
      decide +kernel
    exact mem_classesOf.1 (hclasses selector hselector cls (by simp [hclass]))
  obtain ⟨hfinish, -, hwarnings⟩ := (performAll_append Config.default calls later).2 hseen
  refine ⟨hseen, hfinish, hwarnings, ?_⟩
  rw [(performAll_reflects Config.default calls).collisions_eq]
  decide +kernel

end ElmClasses.Run
