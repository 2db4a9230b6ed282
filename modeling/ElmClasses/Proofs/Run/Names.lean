import Mathlib.Data.List.Nodup
import ElmClasses.Css.Stylesheet
import ElmClasses.Proofs.Elm.NameStyles
import ElmClasses.Proofs.Elm.UtilityNames
import ElmClasses.Proofs.Run.ClosedForm
import ElmClasses.Proofs.Run.SelectorOrder

/-!
# Runs and the names of classes

The classes of a run do not depend on how names are made, only their identifiers do, and with them
the collisions.

Where all classes are plain, snake style tells at least those apart that camel style tells apart.
So a run in snake style collides nowhere where the same run in camel style does not: the
classes that it reports are reported in camel style too, in the same order, and all classes
that take part in a collision take part in one there.

Snake names without a prefix tell utility classes apart. A run keeps its classes in a
list without repetitions, so the names of that list do not repeat either if all its
members are utility classes, and then there is nothing to report: neither a collision
nor, since nothing else makes a run warn, a warning.

## Main results

* `snakeStyle_collisions`: what the collisions of the same calls in both styles have in common.
* `utilityClasses_collisionFree`: no two utility classes collide, whatever calls bring
  them into a run.
-/

namespace ElmClasses.Run

open Elm (IsPlainClass)

/-- Classes that share a finer identifier share a coarser one. -/
theorem Shares.of_coarser {finer coarser : String → String} {classes : List String}
    (h : ∀ cls ∈ classes, ∀ other ∈ classes, finer cls = finer other →
      coarser cls = coarser other) {identifier cls : String}
    (hshares : Shares finer classes identifier cls) :
    Shares coarser classes (coarser cls) cls := by
  obtain ⟨hcls, rfl, other, hother, hne, hsame⟩ := hshares
  exact ⟨hcls, rfl, other, hother, hne, h other hother cls hcls hsame⟩

/-- **Snake style is never coarser than camel style.** With any prefix, two plain classes
with one snake name have one camel name. So where all classes of a run are plain, snake
style brings no collision that camel style does not have. -/
theorem snakeStyle_collisions [StylesheetLibrary] (config : Config) :
    let snake : Config := { config with nameStyle := .snake }
    let camel : Config := { config with nameStyle := .camel }
    (∀ cls other : String, IsPlainClass cls → IsPlainClass other →
      snake.identifierOf cls = snake.identifierOf other →
        camel.identifierOf cls = camel.identifierOf other) ∧
    ∀ calls : List Call,
      (∀ cls ∈ classesOf (calls.flatMap Call.selectors), IsPlainClass cls) →
      let inSnake := ((start snake).performAll calls).value.2.collisions
      let inCamel := ((start camel).performAll calls).value.2.collisions
      (inSnake.toList.map Collision.secondClass).Sublist
          (inCamel.toList.map Collision.secondClass) ∧
        (∀ identifier cls, TakesPart inSnake.toList identifier cls →
          TakesPart inCamel.toList (camel.identifierOf cls) cls) ∧
        (inCamel = #[] → inSnake = #[]) := by
  intro snake camel
  have hnames : ∀ cls other : String, IsPlainClass cls → IsPlainClass other →
      snake.identifierOf cls = snake.identifierOf other →
        camel.identifierOf cls = camel.identifierOf other :=
    fun cls other hcls hother => Elm.valueName_camel_eq hcls hother
  refine ⟨hnames, fun calls hplain => ?_⟩
  have hsnake := performAll_reflects snake calls
  have hcamel := performAll_reflects camel calls
  have hcoarser := fun cls hcls other hother =>
    hnames cls other (hplain cls hcls) (hplain other hother)
  have hsublist := secondClasses_sublist_of_coarser hcoarser
  rw [← hsnake.collisions_eq, ← hcamel.collisions_eq] at hsublist
  refine ⟨hsublist, fun identifier cls hpart => ?_, fun hnone => ?_⟩
  · rw [hsnake.collisions_eq, takesPart_collisionsAmong_iff _ hsnake.nodup] at hpart
    rw [hcamel.collisions_eq, takesPart_collisionsAmong_iff _ hcamel.nodup]
    exact hpart.of_coarser hcoarser
  · rw [hnone] at hsublist
    exact Array.toList_eq_nil_iff.1 (List.map_eq_nil_iff.1 (List.sublist_nil.1 hsublist))

/-- A digit and the word that goes before it collide in both styles; a third class joins
them in camel style. A class alone collides in neither. -/
theorem snakeStyle_collisions_digits :
    let camel : Config := { Config.default with nameStyle := .camel }
    let calls : List Call :=
      [.rules [".\\32 xl\\:p-4", ".n-2xl\\:p-4"], .selector ".n-2xl-p-4"]
    let alone : List Call := [.selector ".-mx-1"]
    let inSnake := ((start Config.default).performAll calls).value.2.collisions
    let inCamel := ((start camel).performAll calls).value.2.collisions
    inSnake.toList = [⟨"n_2xl__p_4", "2xl:p-4", "n-2xl:p-4"⟩] ∧
      camel.identifierOf "2xl:p-4" = camel.identifierOf "n-2xl:p-4" ∧
      ["n-2xl:p-4"].Sublist (inCamel.toList.map Collision.secondClass) ∧
      TakesPart inCamel.toList "n2xlP4" "2xl:p-4" ∧
      ((start Config.default).performAll alone).value.2.collisions = #[] := by
  intro camel calls alone inSnake inCamel
  obtain ⟨hnames, hruns⟩ := snakeStyle_collisions Config.default
  have hdigit : IsPlainClass "2xl:p-4" := Text.forall_mem_of_all (by decide)
  have hword : IsPlainClass "n-2xl:p-4" := Text.forall_mem_of_all (by decide)
  have hhyphens : IsPlainClass "n-2xl-p-4" := Text.forall_mem_of_all (by decide)
  have hclasses : ∀ cls ∈ classesOf (calls.flatMap Call.selectors), IsPlainClass cls := by
    have hcalls : classesOf (calls.flatMap Call.selectors) =
        ["2xl:p-4", "n-2xl:p-4", "n-2xl-p-4"] := by decide +kernel
    rw [hcalls, List.forall_mem_cons, List.forall_mem_cons, List.forall_mem_singleton]
    exact ⟨hdigit, hword, hhyphens⟩
  have halone : ∀ cls ∈ classesOf (alone.flatMap Call.selectors), IsPlainClass cls := by
    have hcalls : classesOf (alone.flatMap Call.selectors) = ["-mx-1"] := by decide +kernel
    rw [hcalls, List.forall_mem_singleton]
    exact Text.forall_mem_of_all (by decide)
  have hsnake : inSnake.toList = [⟨"n_2xl__p_4", "2xl:p-4", "n-2xl:p-4"⟩] := by
    rw [(performAll_reflects Config.default calls).collisions_eq]
    decide +kernel
  have hsingle : ((start camel).performAll alone).value.2.collisions = #[] := by
    rw [← Array.toList_eq_nil_iff, (performAll_reflects camel alone).collisions_eq]
    decide +kernel
  obtain ⟨hsublist, hparts, -⟩ := hruns calls hclasses
  obtain ⟨-, -, hnone⟩ := hruns alone halone
  refine ⟨hsnake, ?_, ?_, ?_, hnone hsingle⟩
  · exact hnames "2xl:p-4" "n-2xl:p-4" hdigit hword (by decide +kernel)
  · have hseconds : inSnake.toList.map Collision.secondClass = ["n-2xl:p-4"] := by rw [hsnake]; rfl
    rw [← hseconds]
    exact hsublist
  · have hpart : TakesPart inSnake.toList "n_2xl__p_4" "2xl:p-4" := by
      rw [hsnake]
      decide
    have hname : camel.identifierOf "2xl:p-4" = "n2xlP4" := by decide +kernel
    rw [← hname]
    exact hparts _ _ hpart

open Elm (IsUtilityShaped)

/-- Injective naming on the classes of a run leaves nothing to report. -/
theorem collisions_eq_empty [StylesheetLibrary] {config : Config} (calls : List Call)
    (h : ∀ cls ∈ classesOf (calls.flatMap Call.selectors),
      ∀ other ∈ classesOf (calls.flatMap Call.selectors),
        config.identifierOf cls = config.identifierOf other → cls = other) :
    let outcome := (start config).performAll calls
    outcome.value.2.collisions = #[] ∧ warnings outcome.events = [] := by
  intro outcome
  let selectors := calls.flatMap Call.selectors
  have hvalue : outcome.value.2 = ((start config).feedAll selectors).value := by
    simp only [outcome, selectors, performAll_eq, Logged.value_map]
  have hevents : outcome.events = ((start config).feedAll selectors).events := by
    simp only [outcome, selectors, performAll_eq, Logged.events_map]
  have hreflects := feedAll_reflects config selectors
  have hnone : ((start config).feedAll selectors).value.collisions = #[] := by
    rw [← Array.toList_eq_nil_iff, hreflects.collisions_eq, collisionsAmong_eq_nil_iff]
    exact List.Nodup.map_on h hreflects.nodup
  have hwarnings := warnings_feedAll (start config) selectors
  rw [hnone] at hwarnings
  rw [hvalue, hevents]
  exact ⟨hnone, (List.append_eq_nil_iff.1 hwarnings).2⟩

/-- **Utility classes never collide** under snake naming without a prefix: distinct ones
have distinct identifiers, so a run whose classes are all of that shape reports nothing. -/
theorem utilityClasses_collisionFree [StylesheetLibrary] {config : Config}
    (hstyle : config.nameStyle = .snake) (hplain : config.utilityPrefix = "") :
    (∀ cls other : String, IsUtilityShaped cls → IsUtilityShaped other → cls ≠ other →
      config.identifierOf cls ≠ config.identifierOf other) ∧
    ∀ calls : List Call,
      (∀ cls ∈ classesOf (calls.flatMap Call.selectors), IsUtilityShaped cls) →
      let outcome := (start config).performAll calls
      outcome.value.2.collisions = #[] ∧ warnings outcome.events = [] := by
  have hinjective : ∀ {cls other : String}, IsUtilityShaped cls → IsUtilityShaped other →
      config.identifierOf cls = config.identifierOf other → cls = other := by
    intro cls other hcls hother h
    rw [Config.identifierOf, Config.identifierOf, hstyle, hplain] at h
    exact Elm.eq_of_valueName_eq hcls hother h
  refine ⟨fun cls other hcls hother hne h => hne (hinjective hcls hother h), fun calls hcalls => ?_⟩
  exact collisions_eq_empty calls fun cls hcls other hother =>
    hinjective (hcalls cls hcls) (hcalls other hother)

/-- A class with a segment, a sign and a dot, and one with a slash; the second one is fed
twice. -/
theorem utilityClasses_collisionFree_margins :
    Config.default.identifierOf "sm:-m-1.5" ≠ Config.default.identifierOf "w-1/2" ∧
    ((start Config.default).performAll
      [.selector ".sm\\:-m-1\\.5", .rules [".w-1\\/2", ".w-1\\/2:hover"]]).value.2.collisions =
        #[] := by
  let run (text : List Char) (h : text ≠ [] ∧ text.all Elm.isRunChar = true ∧
      ¬ Elm.slashText <:+: text) : Elm.WordRun := ⟨text, h.1, List.all_eq_true.1 h.2.1, h.2.2⟩
  have hmargin : IsUtilityShaped "sm:-m-1.5" :=
    ⟨{ first := ⟨false, ⟨[run ['s', 'm'] (by decide)], by decide, by decide, by decide⟩, []⟩
       later := [⟨true, ⟨[run ['m'] (by decide)], by decide, by decide, by decide⟩,
        [(.hyphen, ⟨[run ['1'] (by decide)], by decide, by decide, by decide⟩),
         (.dot, ⟨[run ['5'] (by decide)], by decide, by decide, by decide⟩)]⟩]
       start := fun _ => by decide }, by decide⟩
  have hwidth : IsUtilityShaped "w-1/2" :=
    ⟨{ first := ⟨false, ⟨[run ['w'] (by decide)], by decide, by decide, by decide⟩,
        [(.hyphen, ⟨[run ['1'] (by decide), run ['2'] (by decide)],
          by decide, by decide, by decide⟩)]⟩
       later := []
       start := fun _ => by decide }, by decide⟩
  have hsnake : Config.default.nameStyle = .snake := rfl
  obtain ⟨hnames, hruns⟩ := utilityClasses_collisionFree hsnake rfl
  refine ⟨hnames _ _ hmargin hwidth (by decide), (hruns _ ?_).1⟩
  have hclasses : classesOf [".sm\\:-m-1\\.5", ".w-1\\/2", ".w-1\\/2:hover"] =
      ["sm:-m-1.5", "w-1/2"] := by decide +kernel
  show ∀ cls ∈ classesOf [".sm\\:-m-1\\.5", ".w-1\\/2", ".w-1\\/2:hover"], IsUtilityShaped cls
  rw [hclasses, List.forall_mem_cons, List.forall_mem_singleton]
  exact ⟨hmargin, hwidth⟩

end ElmClasses.Run
