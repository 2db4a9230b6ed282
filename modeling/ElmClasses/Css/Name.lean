import ElmClasses.Text.CharClass

/-!
# Names in style sheets

A name is a run of letters, digits, hyphens, underscores, characters above ASCII and escapes. An
identifier is a name that does not start like a number. `readName` reads the longest name at the
start of a text and undoes its escapes, so that names are compared and printed by what they mean
and not by how they were spelled.

A backslash with hexadecimal digits spells a character by its code point, and a backslash before
any other character spells that character. The digits are read here for style sheets and for single
selectors alike, the whole escape as style sheets have it: one white space character behind the
digits belongs to the escape, and an escape that the end of the text cuts off spells the replacement
character.

## Main results

* `readEscape_length`: what is left behind an escape is no longer than what was before it.
* `readName_length_of_startsIdentifier`: where an identifier starts, reading takes at least one
  character.
-/

namespace ElmClasses.Css

open Text

/-- The character of a hexadecimal escape: the replacement character U+FFFD stands for NUL,
surrogates and what lies beyond Unicode. -/
def escapedChar (code : Nat) : Char :=
  if h : code.isValidChar then
    if code = 0 then '\uFFFD' else Char.ofNatAux code h
  else '\uFFFD'

/-- Read at most `limit` more hexadecimal digits behind those that gave `value`. -/
def readHex : (limit value : Nat) → List Char → Nat × List Char
  | limit + 1, value, c :: cs =>
    match hexValue? c with
    | some digit => readHex limit (value * 16 + digit) cs
    | none => (value, c :: cs)
  | _, value, cs => (value, cs)

theorem readHex_length (limit value : Nat) (cs : List Char) :
    (readHex limit value cs).2.length ≤ cs.length := by
  fun_induction readHex limit value cs with
  | case1 _ _ _ _ _ _ ih => exact Nat.le_succ_of_le ih
  | case2 => exact Nat.le_refl _
  | case3 => exact Nat.le_refl _

/-- Characters that end a line. -/
def isNewline (c : Char) : Bool :=
  c == '\n' || c == '\r' || c == '\x0c'

/-- White space of style sheets: space, tab and line ends. -/
def isWhitespace (c : Char) : Bool :=
  c == ' ' || c == '\t' || isNewline c

/-- Drop one white space character; a carriage return with a line feed counts as one. -/
def dropWhitespace : List Char → List Char
  | '\r' :: '\n' :: cs => cs
  | c :: cs => if isWhitespace c then cs else c :: cs
  | [] => []

theorem dropWhitespace_length (cs : List Char) : (dropWhitespace cs).length ≤ cs.length := by
  fun_cases dropWhitespace cs with
  | case1 rest => exact Nat.le_add_right _ 2
  | case2 c rest => exact Nat.le_succ _
  | case3 => exact Nat.le_refl _
  | case4 => exact Nat.le_refl _

/-- Read what follows a backslash: the escaped character and the text behind the escape. -/
def readEscape : List Char → Char × List Char
  | [] => ('\uFFFD', [])
  | c :: cs =>
    match hexValue? c with
    | some digit =>
      let (code, rest) := readHex 5 digit cs
      (escapedChar code, dropWhitespace rest)
    | none => (if c = '\x00' then '\uFFFD' else c, cs)

/-- What is left behind an escape is no longer than what was before it. -/
theorem readEscape_length (cs : List Char) : (readEscape cs).2.length ≤ cs.length := by
  cases cs with
  | nil => exact Nat.le_refl _
  | cons c cs =>
    simp only [readEscape]
    split
    · exact Nat.le_succ_of_le (Nat.le_trans (dropWhitespace_length _) (readHex_length _ _ _))
    · exact Nat.le_succ _

/-- A name in a style sheet, with its escapes undone. -/
abbrev Name := List Char

/-- Whether two names are equal up to the case of ASCII letters. -/
def Name.equalsIgnoringCase (a b : Name) : Bool :=
  a.map Char.toLower == b.map Char.toLower

/-- Letters, the underscore and everything above ASCII; NUL, which is read as the replacement
character, counts too. -/
def isNameStart (c : Char) : Bool :=
  c.isAlpha || c == '_' || c == '\x00' || 0x80 ≤ c.toNat

/-- Characters that continue a name without a backslash. -/
def isNameChar (c : Char) : Bool :=
  isNameStart c || c.isDigit || c == '-'

/-- Whether a text, of which a backslash was read, continues with a line end. -/
def startsWithNewline : List Char → Bool
  | c :: _ => isNewline c
  | [] => false

/-- Whether a text starts with an identifier. -/
def startsIdentifier : List Char → Bool
  | '\\' :: cs => !startsWithNewline cs
  | '-' :: '\\' :: cs => !startsWithNewline cs
  | '-' :: c :: _ => isNameStart c || c == '-'
  | c :: _ => isNameStart c
  | [] => false

/-- Read the longest name at the start of a text. -/
def readName : List Char → Name × List Char
  | [] => ([], [])
  | c :: cs =>
    if c = '\\' then
      if startsWithNewline cs then ([], c :: cs)
      else
        have := readEscape_length cs
        let (name, rest) := readName (readEscape cs).2
        ((readEscape cs).1 :: name, rest)
    else if isNameChar c then
      let (name, rest) := readName cs
      ((if c = '\x00' then '\uFFFD' else c) :: name, rest)
    else ([], c :: cs)
termination_by cs => cs.length

theorem readName_length (cs : List Char) : (readName cs).2.length ≤ cs.length := by
  fun_induction readName cs with
  | case1 => exact Nat.le_refl _
  | case2 => exact Nat.le_refl _
  | case3 cs _ hlength name rest hread ih =>
    rw [hread] at ih
    exact Nat.le_succ_of_le (Nat.le_trans ih hlength)
  | case4 c cs _ _ name rest hread ih =>
    rw [hread] at ih
    exact Nat.le_succ_of_le ih
  | case5 => exact Nat.le_refl _

/-- Where an identifier starts, reading a name takes at least one character. -/
theorem readName_length_of_startsIdentifier {c : Char} {cs : List Char}
    (h : startsIdentifier (c :: cs) = true) :
    (readName (c :: cs)).2.length ≤ cs.length := by
  rw [readName]
  by_cases hc : c = '\\'
  · subst hc
    have hline : ¬ startsWithNewline cs = true := by simpa [startsIdentifier] using h
    rw [if_pos rfl, if_neg hline]
    exact Nat.le_trans (readName_length _) (readEscape_length cs)
  · have hchar : isNameChar c = true := by
      unfold startsIdentifier at h
      unfold isNameChar
      split at h <;> simp_all
    rw [if_neg hc, if_pos hchar]
    exact readName_length cs

/-!
## Keywords and identifiers

A name that the language itself gives a meaning is a keyword there, in whatever letter case it is
written. Authors choose the other names. A name of theirs may not be one of the keywords that every
property takes, and may be asked to start with two hyphens.

A name may hold any character, but in a style sheet most ASCII characters have to be escaped in
it. `serialized` writes a name as an identifier that reads back as that name: letters, digits, the
underscore and the hyphen stand for themselves, and so does everything above ASCII; control
characters, and a digit where an identifier cannot start with one, are written by their code point
in hexadecimal with a space behind; any other character gets a backslash. NUL cannot be written
and becomes the replacement character.
-/

namespace Name

/-- A name with its ASCII letters in lower case. -/
def lowered (name : Name) : Name :=
  name.map Char.toLower

/-- Whether a name is one of a list of lower case keywords, in any letter case. -/
def isOneOf (name : Name) (keywords : List String) : Bool :=
  keywords.any (·.toList == name.lowered)

/-- The values that every property takes. -/
def universalValues : List String := ["initial", "inherit", "unset", "revert", "revert-layer"]

/-- Whether a name may be chosen by an author. -/
def isCustom (name : Name) : Bool :=
  !name.isOneOf universalValues && !name.isOneOf ["default"]

/-- Whether a name starts with two hyphens. -/
def isDashed : Name → Bool
  | '-' :: '-' :: _ => true
  | _ => false

end Name

/-- ASCII characters that stand for themselves behind the start of an identifier. -/
def isAsciiNameChar (c : Char) : Bool :=
  c.isAlphanum || c == '_' || c == '-'

/-- A character spelled by its code point. -/
def hexEscape (c : Char) : List Char :=
  '\\' :: hexText c.toNat ++ [' ']

/-- One character of a name, behind the start of an identifier. -/
def serializedChar (c : Char) : List Char :=
  if isAsciiNameChar c then [c]
  else if c = '\x00' then ['\uFFFD']
  else if 0x80 ≤ c.toNat then [c]
  else if c.toNat < 0x20 || c.toNat == 0x7F then hexEscape c
  else ['\\', c]

/-- A name behind the start of an identifier. -/
def serializedRest (name : Name) : List Char :=
  name.flatMap serializedChar

/-- A name whose first character may not be a digit. -/
def serializedStart : Name → List Char
  | [] => []
  | c :: cs => if c.isDigit then hexEscape c ++ serializedRest cs else serializedRest (c :: cs)

/-- A name as an identifier. -/
def serialized : Name → List Char
  | ['-'] => ['\\', '-']
  | '-' :: '-' :: cs => '-' :: '-' :: serializedRest cs
  | '-' :: cs => '-' :: serializedStart cs
  | name => serializedStart name

/-- One character of a string between double quotes. -/
def stringChar (c : Char) : List Char :=
  if c = '"' || c = '\\' then ['\\', c]
  else if c = '\x00' then ['\uFFFD']
  else if c.toNat < 0x20 || c.toNat == 0x7F then hexEscape c
  else [c]

/-- A text as a string between double quotes. -/
def serializedString (text : List Char) : List Char :=
  '"' :: text.flatMap stringChar ++ ['"']

end ElmClasses.Css
