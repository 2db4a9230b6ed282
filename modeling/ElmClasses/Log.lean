import ElmClasses.FileSystem
import ElmClasses.Json
import ElmClasses.Path
import ElmClasses.Text.Quoted

/-!
# Log

Nothing that an author configures makes the generator fail; what it does not understand it
reports and replaces by a default. A report is a `LogEvent`, which says what happened and to what,
and a computation that may report is a `Logged` value: its result with the events in the order in
which they happened. The wording of an event is `LogEvent.text`.
-/

namespace ElmClasses

/-- How much an event matters. -/
inductive LogLevel where
  | error
  | warn
  | info
  | debug
deriving DecidableEq, Repr

/-- What can be reported. -/
inductive LogEvent where
  | unknownNameStyle (name : String)
  | formatNotObject (tag : String)
  | formatWithoutResultType (tag : String)
  | importsNotArray (tag : String) (value : Json)
  | optionsNotObject (value : Json)
  | optionNotString (key : String) (value : Json)
  | formatsNotObject (value : Json)
  | collision (firstClass secondClass identifier : String)
  | notClassSelector (selector : String)
  | withoutClassName (selector : String)
  | saved (path : Path)
  | notSaved (path : Path) (error : DiskError)
deriving Repr

namespace LogEvent

open Text

/-- The level of an event. -/
def level : LogEvent → LogLevel
  | .notClassSelector _ | .withoutClassName _ => .debug
  | .saved _ => .info
  | .notSaved .. => .error
  | _ => .warn

/-- The wording of an event. -/
def text : LogEvent → String
  | .unknownNameStyle name =>
    "Unknown nameStyle " ++ quoted name ++ ", falling back to snake"
  | .formatNotObject tag => "Format " ++ quoted tag ++ " is not an object, using defaults"
  | .formatWithoutResultType tag =>
    "Format " ++ quoted tag ++ " has no resultType, generating String constants"
  | .importsNotArray tag value =>
    "Format " ++ quoted tag ++ " has non-array imports: " ++ value.compact
  | .optionsNotObject value =>
    "Options should be an object, got " ++ value.compact ++ "; using defaults"
  | .optionNotString key value =>
    "Option " ++ quoted key ++ " should be a string, got " ++ value.compact ++ "; ignoring"
  | .formatsNotObject value =>
    "Option \"formats\" should be an object, got " ++ value.compact
  | .collision firstClass secondClass identifier =>
    "Classes " ++ quoted firstClass ++ " and " ++ quoted secondClass ++ " both map to " ++
      quoted identifier
  | .notClassSelector selector => "Skipping non-class selector " ++ quoted selector
  | .withoutClassName selector => "Skipping selector without class name " ++ quoted selector
  | .saved path => path.text ++ " was saved!"
  | .notSaved path error => "Failed to save " ++ path.text ++ ": " ++ error.message

end LogEvent

/-- A value with the events reported on the way to it. -/
structure Logged (α : Type) where
  value : α
  events : List LogEvent

namespace Logged

/-- The bind keeps the events of both computations in order. -/
instance : Monad Logged where
  pure value := ⟨value, []⟩
  bind x f := ⟨(f x.value).value, x.events ++ (f x.value).events⟩

/-- Report one event. -/
def report (event : LogEvent) : Logged Unit := ⟨(), [event]⟩

@[simp] theorem value_pure {α : Type} (x : α) : (pure x : Logged α).value = x := rfl

@[simp] theorem events_pure {α : Type} (x : α) : (pure x : Logged α).events = [] := rfl

@[simp] theorem value_bind {α β : Type} (x : Logged α) (f : α → Logged β) :
    (x >>= f).value = (f x.value).value := rfl

@[simp] theorem events_bind {α β : Type} (x : Logged α) (f : α → Logged β) :
    (x >>= f).events = x.events ++ (f x.value).events := rfl

@[simp] theorem value_map {α β : Type} (f : α → β) (x : Logged α) :
    (f <$> x).value = f x.value := rfl

@[simp] theorem events_map {α β : Type} (f : α → β) (x : Logged α) :
    (f <$> x).events = x.events := List.append_nil x.events

@[simp] theorem events_report (event : LogEvent) : (report event).events = [event] := rfl

private theorem id_map_eq {α : Type} (x : Logged α) : id <$> x = x := by
  show (⟨x.value, x.events ++ []⟩ : Logged α) = x
  rw [List.append_nil]

private theorem bind_assoc_eq {α β γ : Type} (x : Logged α) (f : α → Logged β)
    (g : β → Logged γ) : x >>= f >>= g = x >>= fun a => f a >>= g := by
  show (⟨_, _⟩ : Logged γ) = ⟨_, _⟩
  simp only [value_bind, events_bind, List.append_assoc]

instance : LawfulMonad Logged :=
  LawfulMonad.mk' Logged id_map_eq (fun _ _ => rfl) bind_assoc_eq

end Logged

end ElmClasses
