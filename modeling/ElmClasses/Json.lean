import ElmClasses.Dictionary
import ElmClasses.Text.CharClass

/-!
# JSON values

Options reach the library as loosely typed values: whatever an author wrote into a build script or
into the metadata of a package. A `Json` value holds them as they are, and the modules that read
options decide what to make of a value of the wrong type. The fields of an object stand in any
order; a reader asks for one by name, and of two fields with one name the first counts.

Messages show a value as compact text: on one line, without blanks, with the fields of an object in
ascending order of their names, so that objects with equal fields have one text. Strings escape the
quote, the backslash and the control characters below the space, and nothing else.
-/

namespace ElmClasses

/-- A JSON value. The number `number m p` is `m / 10 ^ p`. -/
inductive Json where
  | null
  | bool (value : Bool)
  | number (mantissa : Int) (places : Nat)
  | string (value : String)
  | array (items : List Json)
  | object (fields : List (String × Json))
deriving Inhabited, Repr

namespace Json

/-- The text of a string value. -/
def string? : Json → Option String
  | .string value => some value
  | _ => none

/-- The fields of an object. -/
def object? : Json → Option (List (String × Json))
  | .object fields => some fields
  | _ => none

/-- A field of an object; other values have no fields. -/
def field? (value : Json) (name : String) : Option Json :=
  value.object?.bind (·.lookup name)

end Json

/-- The first of several names that is the name of a field, with the value of that field. Options
have more than one spelling, and the first spelling that is present decides. -/
def firstField? (names : List String) (fields : List (String × Json)) :
    Option (String × Json) :=
  names.findSome? fun name => (fields.lookup name).map (name, ·)

end ElmClasses

namespace ElmClasses.Json

open Text

/-- One character of a JSON string. -/
def escapedChar (c : Char) : List Char :=
  if c = '"' then ['\\', '"']
  else if c = '\\' then ['\\', '\\']
  else if c = '\x08' then ['\\', 'b']
  else if c = '\t' then ['\\', 't']
  else if c = '\n' then ['\\', 'n']
  else if c = '\x0c' then ['\\', 'f']
  else if c = '\r' then ['\\', 'r']
  else if c.toNat < 0x10 then ['\\', 'u', '0', '0', '0'] ++ hexText c.toNat
  else if c.toNat < 0x20 then ['\\', 'u', '0', '0'] ++ hexText c.toNat
  else [c]

/-- A text as a JSON string. -/
def stringText (value : String) : List Char :=
  '"' :: value.toList.flatMap escapedChar ++ ['"']

/-- The digits of `mantissa / 10 ^ places`: a fraction has at least one digit and no needless
zeros at its end. -/
def numberText (mantissa : Int) (places : Nat) : List Char :=
  let sign := if mantissa < 0 then ['-'] else []
  let digits := Nat.toDigits 10 mantissa.natAbs
  if places = 0 then sign ++ digits
  else
    let padded := List.replicate (places + 1 - digits.length) '0' ++ digits
    let whole := padded.take (padded.length - places)
    let fraction := padded.drop (padded.length - places)
    let shown := (fraction.reverse.dropWhile (· == '0')).reverse
    sign ++ whole ++ '.' :: (if shown = [] then ['0'] else shown)

mutual

/-- The compact text of a value, as a list of characters. -/
def compactText : Json → List Char
  | .null => ['n', 'u', 'l', 'l']
  | .bool true => ['t', 'r', 'u', 'e']
  | .bool false => ['f', 'a', 'l', 's', 'e']
  | .number mantissa places => numberText mantissa places
  | .string value => stringText value
  | .array items => '[' :: [','].intercalate (itemTexts items) ++ [']']
  | .object fields =>
    let entries := (Dictionary.ofList (fieldTexts fields)).entries
    '\x7b' :: [','].intercalate (entries.map fun e => stringText e.1 ++ ':' :: e.2) ++ ['\x7d']

/-- The compact texts of the items of an array. -/
def itemTexts : List Json → List (List Char)
  | [] => []
  | item :: items => compactText item :: itemTexts items

/-- The names of fields, each with the compact text of its value. -/
def fieldTexts : List (String × Json) → List (String × List Char)
  | [] => []
  | (name, value) :: fields => (name, compactText value) :: fieldTexts fields

end

/-- The compact text of a value. -/
def compact (value : Json) : String :=
  String.ofList value.compactText

end ElmClasses.Json
