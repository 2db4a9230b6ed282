import ElmClasses.Css.Name
import ElmClasses.Text.CharClass

/-!
# Class names

A utility style sheet holds rules such as `.hover\:underline:hover`. The class that an author
writes in markup is `hover:underline`: the escapes of the selector are undone, and the pseudo
selectors that the style sheet put behind the class are dropped. Variant colons inside the class
name stay.

`ofSelector` looks only at the first compound selector. Everything from the first pseudo-element
on is dropped, and then native pseudo-classes are dropped from the end as long as one stands
there; the first segment always stays. So a variant such as `hover:` in front of the utility
survives although `hover` is the name of a native pseudo-class.

## Main results

* `readEscape_length`: what is left behind an escape is shorter than what was before it.
-/

namespace ElmClasses.ClassName

/-!
## Spelled characters

In a selector a character can be spelled as itself or as an escape: a backslash before any
character that is not a hexadecimal digit, or a backslash with one to six hexadecimal digits and
at most one blank after them. An escaped character is never structure: an escaped colon does not
start a pseudo-class and an escaped `>` is not a combinator. So the text of a selector is first
read into `SpelledChar`s, which remember whether a character was escaped, and the decisions on
structure look at those.

`firstCompound` reads the first compound selector. It stops before a blank, a combinator or a
comma outside of parentheses; an escape always yields exactly one spelled character
(`readEscape`), and a backslash at the very end yields none.
-/

open Css Text

/-- A character of a selector, and whether an escape spelled it. -/
structure SpelledChar where
  char : Char
  escaped : Bool
deriving DecidableEq, Repr

/-- Whether a spelled character is the given structural character. -/
def SpelledChar.isRaw (u : SpelledChar) (c : Char) : Bool :=
  !u.escaped && u.char == c

/-- The parenthesis depth behind a raw character; a closing parenthesis without an opening one is
ignored. -/
def depthAfter (depth : Nat) (c : Char) : Nat :=
  if c = '(' then depth + 1 else if c = ')' then depth - 1 else depth

/-- The parenthesis depth behind a spelled character. -/
def SpelledChar.depthAfter (u : SpelledChar) (depth : Nat) : Nat :=
  if u.escaped then depth else ClassName.depthAfter depth u.char

/-- Drop one blank. -/
def dropBlank : List Char → List Char
  | [] => []
  | c :: cs => if isBlank c then cs else c :: cs

/-- Read what follows a backslash: the escaped character and the text behind the escape. -/
def readEscape : List Char → Option (Char × List Char)
  | [] => none
  | c :: cs =>
    match hexValue? c with
    | none => some (c, cs)
    | some digit =>
      let (code, rest) := readHex 5 digit cs
      some (escapedChar code, dropBlank rest)

theorem dropBlank_length (cs : List Char) : (dropBlank cs).length ≤ cs.length := by
  cases cs with
  | nil => exact Nat.le_refl _
  | cons c cs =>
    simp only [dropBlank]
    split
    · exact Nat.le_succ _
    · exact Nat.le_refl _

/-- What is left behind an escape is shorter than what was before it. -/
theorem readEscape_length {cs rest : List Char} {c : Char}
    (h : readEscape cs = some (c, rest)) : rest.length < cs.length := by
  cases cs with
  | nil => simp [readEscape] at h
  | cons d ds =>
    simp only [readEscape] at h
    split at h
    · obtain ⟨_, rfl⟩ := Prod.mk.inj (Option.some.inj h)
      exact Nat.lt_succ_self _
    · obtain ⟨_, rfl⟩ := Prod.mk.inj (Option.some.inj h)
      exact Nat.lt_succ_of_le (Nat.le_trans (dropBlank_length _) (readHex_length _ _ _))

/-- Characters that end a compound selector outside of parentheses: blanks, combinators and the
comma of a selector list. -/
def endsCompound (c : Char) : Bool :=
  isBlank c || c == '>' || c == '+' || c == '~' || c == ','

/-- Read a compound selector from parenthesis depth `depth` on. -/
def readCompound (depth : Nat) : List Char → List SpelledChar
  | [] => []
  | c :: cs =>
    if c = '\\' then
      match h : readEscape cs with
      | none => []
      | some (e, rest) =>
        have := readEscape_length h
        ⟨e, true⟩ :: readCompound depth rest
    else if depth = 0 ∧ endsCompound c = true then []
    else ⟨c, false⟩ :: readCompound (depthAfter depth c) cs
termination_by cs => cs.length

/-- The spelled characters of the first compound selector of a text. -/
def firstCompound (selector : List Char) : List SpelledChar :=
  readCompound 0 selector

/-!
## Segments of a compound selector

A colon outside of parentheses that no escape spelled divides a compound selector. What stands
before the first colon and what follows each one is a `Segment`; a segment behind two colons in a
row is a pseudo-element. A utility class may itself be divided by raw colons (`.hover:underline`),
so a segment is taken for a pseudo selector only if it is one by its form or by its name.

Splitting loses nothing: the texts of the segments, each later one behind its one or two colons,
spell the compound selector again.
-/

/-- A stretch of a compound selector between dividing colons. -/
structure Segment where
  text : List Char
  /-- Two colons stand before the segment. -/
  pseudoElement : Bool
  /-- The segment has an opening parenthesis that no escape spelled. -/
  functional : Bool
deriving DecidableEq, Repr

namespace Segment

/-- A segment without text. -/
def empty (pseudoElement : Bool) : Segment :=
  ⟨[], pseudoElement, false⟩

/-- Put a spelled character before the text of a segment. -/
def cons (u : SpelledChar) (s : Segment) : Segment :=
  { s with text := u.char :: s.text, functional := u.isRaw '(' || s.functional }

end Segment

/-- The segment that is open at parenthesis depth `depth`, and the segments after it. The open
segment is marked as a pseudo-element if `pseudoElement` says so. -/
def segmentsFrom (pseudoElement : Bool) (depth : Nat) :
    List SpelledChar → Segment × List Segment
  | [] => (Segment.empty pseudoElement, [])
  | u :: us =>
    if u.isRaw ':' = true ∧ depth = 0 then
      match us with
      | v :: vs =>
        if v.isRaw ':' then
          let (opened, later) := segmentsFrom true 0 vs
          (Segment.empty pseudoElement, opened :: later)
        else
          let (opened, later) := segmentsFrom false 0 (v :: vs)
          (Segment.empty pseudoElement, opened :: later)
      | [] => (Segment.empty pseudoElement, [Segment.empty false])
    else
      let (opened, later) := segmentsFrom pseudoElement (u.depthAfter depth) us
      (opened.cons u, later)

/-- The first segment of a compound selector, and the segments behind its colons. -/
def segments (units : List SpelledChar) : Segment × List Segment :=
  segmentsFrom false 0 units

/-- Pseudo-classes, and pseudo-elements of the older spelling with one colon, that style sheets
put behind a class name. -/
def nativePseudoNames : List String := [
  "active", "after", "any-link", "autofill", "backdrop", "before", "checked", "default",
  "disabled", "empty", "enabled", "first-child", "first-letter", "first-line", "first-of-type",
  "focus", "focus-visible", "focus-within", "fullscreen", "hover", "in-range", "indeterminate",
  "invalid", "last-child", "last-of-type", "link", "marker", "only-child", "only-of-type",
  "optional", "out-of-range", "placeholder", "placeholder-shown", "read-only", "read-write",
  "required", "root", "selection", "target", "valid", "visited"]

/-- What the names of browser-specific pseudo selectors start with. -/
def vendorPrefixes : List String := ["-webkit-", "-moz-", "-ms-", "-o-"]

/-- A segment that belongs to the style sheet and not to the class name in front of it. -/
def Segment.isNativePseudo (s : Segment) : Bool :=
  s.pseudoElement || s.functional ||
  nativePseudoNames.any (fun name => s.text == name.toList) ||
  vendorPrefixes.any (fun vendor => vendor.toList.isPrefixOf s.text)

/-- Whether the first simple selector of a text is a class. -/
def isClassSelectorText (selector : List Char) : Bool :=
  match selector.dropWhile isBlank with
  | c :: _ => c == '.'
  | [] => false

/-- A list without the longest tail whose members all satisfy `p`. -/
def dropTrailing {α : Type} (p : α → Bool) (xs : List α) : List α :=
  (xs.reverse.dropWhile p).reverse

/-- The segments behind the first that belong to the class name. -/
def variantSegments (later : List Segment) : List Segment :=
  dropTrailing Segment.isNativePseudo (later.takeWhile (!·.pseudoElement))

/-- The text of segments divided by single colons. -/
def joinSegments (first : Segment) (later : List Segment) : List Char :=
  first.text ++ later.flatMap fun s => ':' :: s.text

/-- The text behind leading blanks and one leading dot. -/
def afterDot (selector : List Char) : List Char :=
  match selector.dropWhile isBlank with
  | '.' :: rest => rest
  | rest => rest

/-- The class name that a selector text starts with, without its pseudo selectors. -/
def ofSelectorText (selector : List Char) : List Char :=
  let (first, later) := segments (firstCompound (afterDot selector))
  joinSegments first (variantSegments later)

/-- Whether the first simple selector is a class. -/
def isClassSelector (selector : String) : Bool :=
  isClassSelectorText selector.toList

/-- The class name that a selector starts with, unescaped and without its pseudo selectors. -/
def ofSelector (selector : String) : String :=
  String.ofList (ofSelectorText selector.toList)

end ElmClasses.ClassName
