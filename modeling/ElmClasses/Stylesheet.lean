/-!
# Style sheets

What a run takes from a style sheet is the text of the selectors of its style rules, in source
order, each style rule before the rules that it holds. Which texts are style sheets, what they
consist of and how selectors are printed is not decided here but by a library, and all that is known
of it is a `StylesheetLibrary`: it parses a text into rules, it brings a visitor to them, and it
prints selectors.

The visitor is the generator's own. At a style rule it notes the selectors first and then goes on to
the rules inside; any other rule it only passes through. If the library cannot parse the text or
cannot print some selectors, there are no selectors at all.
-/

namespace ElmClasses

/-- A rule of a style sheet, as far as a visitor looks: the selectors that stand in front of it, if
it is a style rule, and the rules in it. -/
inductive StylesheetRule (Selectors : Type) where
  | style (selectors : Selectors) (inner : List (StylesheetRule Selectors))
  /-- A rule of any other kind, such as `@media`. -/
  | other (inner : List (StylesheetRule Selectors))
deriving Repr

/-- The rules in a rule. -/
def StylesheetRule.inner {Selectors : Type} :
    StylesheetRule Selectors → List (StylesheetRule Selectors)
  | .style _ inner | .other inner => inner

/-- A library that reads style sheets. -/
class StylesheetLibrary where
  /-- What the library makes of the selectors in front of a style rule. -/
  Selectors : Type
  /-- The rules of a style sheet, or the reason why a text is none. -/
  parse : String → Except String (List (StylesheetRule Selectors))
  /-- The text of selectors, unless they cannot be printed. -/
  print? : Selectors → Option String
  /-- The order in which a visitor comes to rules that stand side by side. -/
  visited : List (StylesheetRule Selectors) → List (StylesheetRule Selectors)
  /-- A visitor comes only to rules that are there. -/
  mem_of_mem_visited : ∀ {rule : StylesheetRule Selectors}
    {rules : List (StylesheetRule Selectors)}, rule ∈ visited rules → rule ∈ rules

/-- Why the selectors of a style sheet could not be collected. -/
inductive StylesheetError where
  /-- The text does not parse, for the reason that the library gives. -/
  | malformed (reason : String)
  /-- The library cannot print some selectors. -/
  | unprintable
deriving DecidableEq, Repr

/-- The message of an error. -/
def StylesheetError.message : StylesheetError → String
  | .malformed reason => "Failed to parse stylesheet: " ++ reason
  | .unprintable => "Failed to print selector as css"

namespace Stylesheet

open StylesheetLibrary

variable [StylesheetLibrary]

/-- Note the selectors of a rule behind those found before, if it is a style rule. -/
def noteSelectors (found : Array String) :
    StylesheetRule Selectors → Except StylesheetError (Array String)
  | .style selectors _ =>
    match print? selectors with
    | some text => .ok (found.push text)
    | none => .error .unprintable
  | .other _ => .ok found

theorem sizeOf_lt_of_mem_visited {rule inner : StylesheetRule Selectors}
    (h : inner ∈ visited rule.inner) : sizeOf inner < sizeOf rule := by
  have hinner := List.sizeOf_lt_of_mem (mem_of_mem_visited h)
  cases rule with
  | style selectors rules | other rules =>
      simp only [StylesheetRule.inner] at hinner
      grind

/-- Visit a rule: note its own selectors, and then visit the rules in it. -/
def visitRule (found : Array String) (rule : StylesheetRule Selectors) :
    Except StylesheetError (Array String) := do
  let found ← noteSelectors found rule
  (visited rule.inner).attach.foldlM (fun found inner => visitRule found inner.1) found
termination_by sizeOf rule
decreasing_by exact sizeOf_lt_of_mem_visited inner.2

/-- Visit rules that stand side by side. -/
def visitRules (found : Array String) (rules : List (StylesheetRule Selectors)) :
    Except StylesheetError (Array String) :=
  (visited rules).foldlM visitRule found

theorem visitRule_eq (found : Array String) (rule : StylesheetRule Selectors) :
    visitRule found rule =
      noteSelectors found rule >>= fun found => visitRules found rule.inner := by
  rw [visitRule]
  simp only [visitRules, List.foldlM_subtype, List.unattach_attach]

/-- The selectors of all style rules of a style sheet, in the order in which a visitor comes to the
rules. -/
def collectSelectors (style : String) : Except StylesheetError (List String) :=
  match parse style with
  | .error reason => .error (.malformed reason)
  | .ok rules => Array.toList <$> visitRules #[] rules

end Stylesheet

end ElmClasses
