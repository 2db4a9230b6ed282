import ElmClasses.Css.Name

/-!
# Tokens of style sheets

A style sheet is read as a sequence of tokens: names, strings, numbers, punctuation and brackets.
Comments are no tokens. The start of a function `name(` counts as an opening bracket, and so does
`url(` if a quoted string follows; an unquoted address is one token as a whole. Strings cut off by
a line end, and malformed addresses, are tokens too, but spoil whatever they stand in.

A numeral is an optional sign, digits, an optional fraction and an optional decimal exponent. It is
kept as it was written. A numeral without fraction and exponent is an integer.
-/

namespace ElmClasses.Css

/-- A numeral as it was written. -/
abbrev Numeral := List Char

/-- Whether a text starts with a digit. -/
def startsWithDigit : List Char → Bool
  | c :: _ => c.isDigit
  | [] => false

/-- Whether a text starts with a numeral, its sign left out. -/
def startsUnsigned : List Char → Bool
  | '.' :: cs => startsWithDigit cs
  | cs => startsWithDigit cs

/-- Whether a text starts with a numeral. -/
def startsNumeral : List Char → Bool
  | '+' :: cs => startsUnsigned cs
  | '-' :: cs => startsUnsigned cs
  | cs => startsUnsigned cs

/-- The number of characters of a fraction at the start of a text. -/
def fractionLength : List Char → Nat
  | '.' :: cs => if startsWithDigit cs then 1 + (cs.takeWhile Char.isDigit).length else 0
  | _ => 0

/-- The number of characters of a decimal exponent at the start of a text. -/
def exponentLength : List Char → Nat
  | e :: cs =>
    if e = 'e' || e = 'E' then
      match cs with
      | s :: ds =>
        if s.isDigit then 1 + (cs.takeWhile Char.isDigit).length
        else if (s = '+' || s = '-') && startsWithDigit ds then
          2 + (ds.takeWhile Char.isDigit).length
        else 0
      | [] => 0
    else 0
  | [] => 0

/-- The number of characters of the numeral at the start of a text. -/
def numeralLength (cs : List Char) : Nat :=
  let sign := match cs with
    | '+' :: _ | '-' :: _ => 1
    | _ => 0
  let whole := ((cs.drop sign).takeWhile Char.isDigit).length
  let fraction := fractionLength (cs.drop (sign + whole))
  sign + whole + fraction + exponentLength (cs.drop (sign + whole + fraction))

namespace Numeral

/-- Whether a numeral has a sign. -/
def isSigned : Numeral → Bool
  | '+' :: _ | '-' :: _ => true
  | _ => false

/-- The value of digits. -/
def digitsValue (digits : List Char) : Nat :=
  digits.foldl (fun value c => value * 10 + (c.toNat - '0'.toNat)) 0

/-- The value of a text that consists of digits. -/
def natural? (text : List Char) : Option Nat :=
  if !text.isEmpty && text.all Char.isDigit then some (digitsValue text) else none

/-- The value of a numeral without fraction and exponent. -/
def integer? : Numeral → Option Int
  | '-' :: digits => (natural? digits).map fun value => -(value : Int)
  | '+' :: digits => (natural? digits).map Int.ofNat
  | digits => (natural? digits).map Int.ofNat

end Numeral

/-- The three kinds of brackets. -/
inductive Bracket where
  | paren
  | square
  | curly
deriving DecidableEq, Repr

/-- What opens a block. -/
inductive Opening where
  | bracket (kind : Bracket)
  | function (name : Name)
deriving DecidableEq, Repr

/-- The kind of bracket that closes a block. -/
def Opening.kind : Opening → Bracket
  | .bracket kind => kind
  | .function _ => .paren

/-- A token of a style sheet. -/
inductive Token where
  | ident (name : Name)
  | atKeyword (name : Name)
  /-- A name behind a number sign; an identifier if the name could stand on its own. -/
  | hash (name : Name) (isIdentifier : Bool)
  | string (text : List Char)
  | badString
  | url
  | badUrl
  | number (numeral : Numeral)
  | percentage (numeral : Numeral)
  /-- A number with a unit behind it. -/
  | dimension (numeral : Numeral) (unit : Name)
  /-- A comparison of attribute selectors: the character, with an equals sign behind it. -/
  | comparison (c : Char)
  | delim (c : Char)
  | whitespace
  | colon
  | semicolon
  | comma
  /-- The opening of a markup comment. -/
  | commentOpen
  /-- The close of a markup comment. -/
  | commentClose
  | opening (o : Opening)
  | closing (kind : Bracket)
deriving DecidableEq, Repr

/-- Tokens that no rule can hold: cut off strings, malformed addresses, and brackets that close
nothing. -/
def Token.isSpoiled : Token → Bool
  | .badString | .badUrl | .closing _ => true
  | _ => false

/-!
## Reading tokens

`tokens` reads a whole text. No text is refused, since a character that starts nothing else is a
delimiter, and each step takes at least one character (`readToken_length`). What is cut off by the
end of the text, be it a string, an address or a comment, ends there.
-/

/-- Read a string up to its closing quote. A line end cuts it off, unless a backslash stands
before the line end. -/
def readString (quote : Char) : List Char → Option (List Char) × List Char
  | [] => (some [], [])
  | c :: cs =>
    if c = quote then (some [], cs)
    else if isNewline c then (none, c :: cs)
    else if c = '\\' then
      if cs = [] then (some [], [])
      else if startsWithNewline cs then
        have := dropWhitespace_length cs
        readString quote (dropWhitespace cs)
      else
        have := readEscape_length cs
        let (text, rest) := readString quote (readEscape cs).2
        (text.map ((readEscape cs).1 :: ·), rest)
    else
      let (text, rest) := readString quote cs
      (text.map ((if c = '\x00' then '\uFFFD' else c) :: ·), rest)
termination_by cs => cs.length

theorem dropWhile_length (p : Char → Bool) (cs : List Char) :
    (cs.dropWhile p).length ≤ cs.length :=
  (List.dropWhile_sublist p).length_le

theorem readString_length (quote : Char) (cs : List Char) :
    (readString quote cs).2.length ≤ cs.length := by
  fun_induction readString quote cs with
  | case1 => exact Nat.le_refl _
  | case2 => exact Nat.le_succ _
  | case3 => exact Nat.le_refl _
  | case4 => exact Nat.zero_le _
  | case5 _ _ _ hlength _ _ ih => exact Nat.le_succ_of_le (Nat.le_trans ih hlength)
  | case6 cs _ _ hlength text rest hread _ _ ih =>
    rw [hread] at ih
    exact Nat.le_succ_of_le (Nat.le_trans ih hlength)
  | case7 c cs _ _ _ text rest hread ih =>
    rw [hread] at ih
    exact Nat.le_succ_of_le ih

/-- Characters that spoil an unquoted address. -/
def spoilsUrl (c : Char) : Bool :=
  c == '"' || c == '\'' || c == '(' || (c.toNat < 0x20 && c != '\x00') || c.toNat == 0x7F

/-- Skip a malformed address up to its closing parenthesis. -/
def skipBadUrl : List Char → List Char
  | [] => []
  | ')' :: cs => cs
  | '\\' :: ')' :: cs => skipBadUrl cs
  | '\\' :: '\\' :: cs => skipBadUrl cs
  | _ :: cs => skipBadUrl cs

theorem skipBadUrl_length (cs : List Char) : (skipBadUrl cs).length ≤ cs.length := by
  fun_induction skipBadUrl cs <;> simp only [List.length_cons, List.length_nil] <;> omega

/-- Read an unquoted address up to its closing parenthesis; the first part tells whether it is
well formed. White space may stand only at its end. -/
def readUrl : List Char → Bool × List Char
  | [] => (true, [])
  | c :: cs =>
    if c = ')' then (true, cs)
    else if isWhitespace c then
      match cs.dropWhile isWhitespace with
      | [] => (true, [])
      | ')' :: rest => (true, rest)
      | _ :: rest => (false, skipBadUrl rest)
    else if spoilsUrl c then (false, skipBadUrl cs)
    else if c = '\\' then
      if startsWithNewline cs then (false, skipBadUrl cs)
      else
        have := readEscape_length cs
        readUrl (readEscape cs).2
    else readUrl cs
termination_by cs => cs.length

theorem readUrl_length (cs : List Char) : (readUrl cs).2.length ≤ cs.length := by
  fun_induction readUrl cs with
  | case1 => exact Nat.le_refl _
  | case2 => exact Nat.le_succ _
  | case3 => exact Nat.zero_le _
  | case4 c cs _ _ rest hdrop =>
    have := dropWhile_length isWhitespace cs
    rw [hdrop] at this
    exact Nat.le_succ_of_le (Nat.le_of_succ_le this)
  | case5 c cs _ _ d rest _ hdrop =>
    have := dropWhile_length isWhitespace cs
    rw [hdrop] at this
    exact Nat.le_succ_of_le (Nat.le_trans (skipBadUrl_length _) (Nat.le_of_succ_le this))
  | case6 => exact Nat.le_succ_of_le (skipBadUrl_length _)
  | case7 => exact Nat.le_succ_of_le (skipBadUrl_length _)
  | case8 _ _ hlength _ _ _ ih => exact Nat.le_succ_of_le (Nat.le_trans ih hlength)
  | case9 _ _ _ _ _ _ ih => exact Nat.le_succ_of_le ih

/-- Whether a quoted string follows, behind white space. -/
def quoteFollows (cs : List Char) : Bool :=
  match cs.dropWhile isWhitespace with
  | c :: _ => c == '"' || c == '\''
  | [] => false

/-- Read the number that starts with the character `c`, with its percent sign or unit. -/
def readNumeric (c : Char) (cs : List Char) : Token × List Char :=
  let more := numeralLength (c :: cs) - 1
  let numeral := c :: cs.take more
  match cs.drop more with
  | '%' :: rest => (.percentage numeral, rest)
  | rest =>
    if startsIdentifier rest then
      let (unit, behind) := readName rest
      (.dimension numeral unit, behind)
    else (.number numeral, rest)

theorem readNumeric_length (c : Char) (cs : List Char) :
    (readNumeric c cs).2.length ≤ cs.length := by
  unfold readNumeric
  have hdrop : (cs.drop (numeralLength (c :: cs) - 1)).length ≤ cs.length :=
    (List.drop_sublist ..).length_le
  simp only
  split
  · next rest heq =>
    rw [heq] at hdrop
    exact Nat.le_of_succ_le hdrop
  · split
    · exact Nat.le_trans (readName_length _) hdrop
    · exact hdrop

/-- Skip a comment up to its end. -/
def skipComment : List Char → List Char
  | [] => []
  | '*' :: '/' :: cs => cs
  | _ :: cs => skipComment cs

theorem skipComment_length (cs : List Char) : (skipComment cs).length ≤ cs.length := by
  fun_induction skipComment cs <;> simp only [List.length_cons, List.length_nil] <;> omega

/-- Read an identifier, a function start or an unquoted address. -/
def readIdentifierLike (cs : List Char) : Token × List Char :=
  match readName cs with
  | (name, '(' :: rest) =>
    if name.equalsIgnoringCase ['u', 'r', 'l'] && !quoteFollows rest then
      let (wellFormed, behind) := readUrl (rest.dropWhile isWhitespace)
      (if wellFormed then .url else .badUrl, behind)
    else (.opening (.function name), rest)
  | (name, rest) => (.ident name, rest)

/-- Read what follows an opening quote. -/
def readQuoted (quote : Char) (cs : List Char) : Token × List Char :=
  match readString quote cs with
  | (some text, rest) => (.string text, rest)
  | (none, rest) => (.badString, rest)

/-- Read what follows a number sign. -/
def readHash (cs : List Char) : Token × List Char :=
  match readName cs with
  | ([], _) => (.delim '#', cs)
  | (name, rest) => (.hash name (startsIdentifier cs), rest)

/-- Read what follows an at sign. -/
def readAtKeyword (cs : List Char) : Token × List Char :=
  if startsIdentifier cs then
    let (name, rest) := readName cs
    (.atKeyword name, rest)
  else (.delim '@', cs)

/-- A token that was read, with the text behind it. -/
def found (read : Token × List Char) : Option Token × List Char :=
  (some read.1, read.2)

/-- Read a token that starts with a character of its own; a comment is none. -/
def readPunctuation (c : Char) (cs : List Char) : Option Token × List Char :=
  match c, cs with
  | '/', '*' :: rest => (none, skipComment rest)
  | '<', '!' :: '-' :: '-' :: rest => found (.commentOpen, rest)
  | '-', '-' :: '>' :: rest => found (.commentClose, rest)
  | '~', '=' :: rest | '|', '=' :: rest | '^', '=' :: rest | '$', '=' :: rest
  | '*', '=' :: rest => found (.comparison c, rest)
  | '"', rest | '\'', rest => found (readQuoted c rest)
  | '#', rest => found (readHash rest)
  | '@', rest => found (readAtKeyword rest)
  | ':', rest => found (.colon, rest)
  | ';', rest => found (.semicolon, rest)
  | ',', rest => found (.comma, rest)
  | '(', rest => found (.opening (.bracket .paren), rest)
  | '[', rest => found (.opening (.bracket .square), rest)
  | '\x7b', rest => found (.opening (.bracket .curly), rest)
  | ')', rest => found (.closing .paren, rest)
  | ']', rest => found (.closing .square, rest)
  | '\x7d', rest => found (.closing .curly, rest)
  | c, rest => found (.delim c, rest)

/-- Read the token, or the comment, that starts with the character `c`. -/
def readToken (c : Char) (cs : List Char) : Option Token × List Char :=
  if isWhitespace c then found (.whitespace, cs.dropWhile isWhitespace)
  else if startsNumeral (c :: cs) then found (readNumeric c cs)
  else if startsIdentifier (c :: cs) && !(c == '-' && ['-', '>'].isPrefixOf cs) then
    found (readIdentifierLike (c :: cs))
  else readPunctuation c cs

theorem readIdentifierLike_length {c : Char} {cs : List Char}
    (h : startsIdentifier (c :: cs) = true) :
    (readIdentifierLike (c :: cs)).2.length ≤ cs.length := by
  have hname := readName_length_of_startsIdentifier h
  unfold readIdentifierLike
  split
  · next name rest heq =>
    rw [heq] at hname
    have hrest : rest.length ≤ cs.length := Nat.le_of_succ_le hname
    split
    · exact Nat.le_trans (readUrl_length _) (Nat.le_trans (dropWhile_length _ _) hrest)
    · exact hrest
  · next name rest _ heq =>
    rw [heq] at hname
    exact hname

theorem readQuoted_length (quote : Char) (cs : List Char) :
    (readQuoted quote cs).2.length ≤ cs.length := by
  have h := readString_length quote cs
  unfold readQuoted
  split <;> simp_all

theorem readHash_length (cs : List Char) : (readHash cs).2.length ≤ cs.length := by
  have h := readName_length cs
  unfold readHash
  split <;> simp_all

theorem readAtKeyword_length (cs : List Char) : (readAtKeyword cs).2.length ≤ cs.length := by
  unfold readAtKeyword
  split
  · exact readName_length cs
  · exact Nat.le_refl _

theorem readPunctuation_length (c : Char) (cs : List Char) :
    (readPunctuation c cs).2.length ≤ cs.length := by
  unfold readPunctuation
  split <;> try (simp only [found, List.length_cons]; omega)
  · exact Nat.le_succ_of_le (skipComment_length _)
  · exact readQuoted_length _ _
  · exact readQuoted_length _ _
  · exact readHash_length _
  · exact readAtKeyword_length _

theorem readToken_length (c : Char) (cs : List Char) :
    (readToken c cs).2.length ≤ cs.length := by
  unfold readToken
  split
  · exact dropWhile_length _ _
  · split
    · exact readNumeric_length c cs
    · split
      · next h =>
        exact readIdentifierLike_length (Bool.and_eq_true_iff.1 h).1
      · exact readPunctuation_length c cs

/-- The tokens of a text. -/
def tokens : List Char → List Token
  | [] => []
  | c :: cs =>
    let step := readToken c cs
    have := readToken_length c cs
    step.1.toList ++ tokens step.2
termination_by cs => cs.length
decreasing_by exact Nat.lt_succ_of_le this

end ElmClasses.Css
