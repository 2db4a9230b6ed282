import ElmClasses.Run

/-!
# Calls on a run

A run is driven from outside by three kinds of calls: feed one selector, feed
several, or feed the selectors of a style sheet. This module gives the calls a
type, performs lists of them in order, and then takes them away again: whatever
the calls were, a run has been fed one list of selectors, and all that remains
of the calls themselves are their answers. A style sheet whose selectors cannot be
collected contributes none to that list.

So a theorem about every interleaving of calls is a theorem about `feedAll`,
and a theorem about `feedAll` is an induction whose step is `feed`. The step has
two cases only, and `classOf?` decides between them: a selector either brings a
class, which `addClass` collects, or it is skipped and leaves the run alone.

## Main results

* `feed_of_classOf?_eq_some`, `feed_of_classOf?_eq_none`: the two cases of a step.
* `performAll_eq`: performing calls is feeding their selectors.
-/

namespace ElmClasses.Run

/-- The class that a selector contributes to a run, if it is not skipped. -/
def classOf? (selector : String) : Option String :=
  if ClassName.isClassSelector selector = true ∧ ClassName.ofSelector selector ≠ "" then
    some (ClassName.ofSelector selector)
  else none

/-- The event that reports a skipped selector. -/
def skipEvent (selector : String) : LogEvent :=
  if ClassName.isClassSelector selector then .withoutClassName selector
  else .notClassSelector selector

/-- A selector that has a class is a matter of `addClass`. -/
theorem feed_of_classOf?_eq_some (run : Run) {selector cls : String}
    (h : classOf? selector = some cls) :
    run.feed selector = (fun added => (some cls, added)) <$> run.addClass cls := by
  unfold classOf? at h
  split at h
  · next hadmitted =>
      cases h
      simp only [feed, hadmitted.1, hadmitted.2, if_true, if_false, map_eq_pure_bind]
  · cases h

/-- A selector without a class is reported and leaves the run alone. -/
theorem feed_of_classOf?_eq_none (run : Run) {selector : String}
    (h : classOf? selector = none) :
    run.feed selector = ⟨(none, run), [skipEvent selector]⟩ := by
  unfold classOf? at h
  split at h
  · cases h
  · next hskipped =>
      by_cases hclass : ClassName.isClassSelector selector = true
      · have hempty : ClassName.ofSelector selector = "" :=
          Decidable.byContradiction fun hne => hskipped ⟨hclass, hne⟩
        simp only [feed, skipEvent, hclass, hempty, if_true]
        rfl
      · simp only [feed, skipEvent, hclass]
        rfl

/-- The answer to a selector does not depend on the run. -/
theorem feed_answer (run : Run) (selector : String) :
    (run.feed selector).value.1 = classOf? selector := by
  cases h : classOf? selector with
  | none => rw [feed_of_classOf?_eq_none run h]
  | some cls => rw [feed_of_classOf?_eq_some run h, Logged.value_map]

theorem feedAll_nil (run : Run) : run.feedAll [] = pure run := rfl

theorem feedAll_cons (run : Run) (selector : String) (rest : List String) :
    run.feedAll (selector :: rest) =
      run.feed selector >>= fun fed => fed.2.feedAll rest := rfl

/-- Feeding two lists of selectors is feeding one behind the other. -/
theorem feedAll_append (run : Run) (first second : List String) :
    run.feedAll (first ++ second) =
      run.feedAll first >>= fun fed => fed.feedAll second := by
  induction first generalizing run with
  | nil => rw [List.nil_append, feedAll_nil, pure_bind]
  | cons selector rest ih =>
      rw [List.cons_append, feedAll_cons, feedAll_cons, bind_assoc]
      simp only [ih]

/-! ## Calls -/

/-- What can be asked of a run. -/
inductive Call where
  /-- Feed one selector. -/
  | selector (selector : String)
  /-- Feed the selectors of several rules. -/
  | rules (selectors : List String)
  /-- Feed the selectors of a style sheet. -/
  | stylesheet (style : String)

/-- What a run answers to a call. -/
inductive Answer where
  /-- The class of a selector that was fed, unless it was skipped. -/
  | fed (cls : Option String)
  /-- The rules or the style sheet were fed. -/
  | done
  /-- The selectors of the style sheet could not be collected. -/
  | failed (error : StylesheetError)
deriving DecidableEq, Repr

section Performing

variable [StylesheetLibrary]

/-- Do what a call asks for. A style sheet whose selectors cannot be collected leaves
the run as it was. -/
def perform (run : Run) : Call → Logged (Answer × Run)
  | .selector selector => do
    let (cls, run) ← run.feed selector
    pure (.fed cls, run)
  | .rules selectors => do
    let run ← run.feedAll selectors
    pure (.done, run)
  | .stylesheet style =>
    match run.feedStylesheet style with
    | .error error => pure (.failed error, run)
    | .ok fed => do
      let run ← fed
      pure (.done, run)

/-- Do what calls ask for, one after another, and collect the answers. -/
def performAll (run : Run) : List Call → Logged (List Answer × Run)
  | [] => pure ([], run)
  | call :: rest => do
    let (answer, run) ← run.perform call
    let (answers, run) ← run.performAll rest
    pure (answer :: answers, run)

namespace Call

/-- The selectors that a call feeds to a run. -/
def selectors : Call → List String
  | .selector text => [text]
  | .rules texts => texts
  | .stylesheet style =>
    match Stylesheet.collectSelectors style with
    | .error _ => []
    | .ok texts => texts

/-- The answer to a call, whatever the run. -/
def answer : Call → Answer
  | .selector text => .fed (classOf? text)
  | .rules _ => .done
  | .stylesheet style =>
    match Stylesheet.collectSelectors style with
    | .error error => .failed error
    | .ok _ => .done

end Call

/-- A call feeds its selectors and gives its answer. -/
theorem perform_eq (run : Run) (call : Call) :
    run.perform call =
      (fun fed => (call.answer, fed)) <$> run.feedAll call.selectors := by
  cases call with
  | selector selector =>
      have hanswer := feed_answer run selector
      rw [Call.selectors, feedAll_cons, map_eq_pure_bind, bind_assoc]
      simp only [feedAll_nil, pure_bind]
      rw [Call.answer, ← hanswer]
      rfl
  | rules selectors => rw [perform, Call.selectors, map_eq_pure_bind]; rfl
  | stylesheet style =>
      cases hstyle : Stylesheet.collectSelectors style with
      | error error =>
          simp only [perform, feedStylesheet, Call.selectors, Call.answer, hstyle]
          rfl
      | ok selectors =>
          simp only [perform, feedStylesheet, Call.selectors, Call.answer, hstyle,
            map_eq_pure_bind]
          rfl

/-- **Calls in any interleaving come down to one list of selectors.** -/
theorem performAll_eq (run : Run) (calls : List Call) :
    run.performAll calls =
      (fun fed => (calls.map Call.answer, fed)) <$>
        run.feedAll (calls.flatMap Call.selectors) := by
  induction calls generalizing run with
  | nil => rfl
  | cons call rest ih =>
      rw [performAll, perform_eq, List.flatMap_cons, feedAll_append]
      simp only [ih, map_eq_pure_bind, bind_assoc, pure_bind, List.map_cons]

end Performing

end ElmClasses.Run
