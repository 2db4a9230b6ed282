import ElmClasses.Css.Name
import ElmClasses.Css.Token
import ElmClasses.Proofs.ClassName.RoundTrip
import ElmClasses.Proofs.Text.Basic

/-!
# Serialized names are read back

A name is serialized character by character: a character stands for itself, is written
by its code point with a space behind, or has a backslash before it. Which form it gets
depends on where it stands, but how it is read does not. So the forms are first told
apart from the rule that picks them (`SerializedChar`, `SerializedName`), and each of
them is read as its character whatever follows.

A serialized name starts like an identifier and not like a number, which is what the
escapes at its start are for.

## Main results

* `readName_serialized`: a serialized name is read back, up to what ends it.
* `startsIdent_serialized`: it starts like an identifier and like no number.
-/

namespace ElmClasses.Css

open Text
open ClassName (escapedChar_toNat hexNumberFrom readHex_append readHex_of_digits)

/-- The forms in which a character other than NUL is written. -/
inductive SerializedChar (c : Char) : List Char → Prop where
  | itself (hname : isNameChar c = true) : SerializedChar c [c]
  | hex (hascii : c.toNat < 0x80) : SerializedChar c (hexEscape c)
  | backslash (hdigit : hexValue? c = none) (hline : isNewline c = false) :
      SerializedChar c ['\\', c]

/-- A text in which every character of a name is written in some form. -/
inductive SerializedName : Name → List Char → Prop where
  | nil : SerializedName [] []
  | cons {c : Char} {name piece text : List Char} (hnul : c ≠ '\x00')
      (hchar : SerializedChar c piece) (hname : SerializedName name text) :
      SerializedName (c :: name) (piece ++ text)

/-- Printable ASCII characters that no name holds are no digits and end no line. -/
theorem hexValue?_of_escaped {c : Char} (hascii : c.toNat < 0x80)
    (hname : isAsciiNameChar c = false) (hprintable : 0x20 ≤ c.toNat) :
    hexValue? c = none ∧ isNewline c = false := by
  have hall : isAsciiNameChar c = true ∨ c.toNat < 0x20 ∨
      hexValue? c = none ∧ isNewline c = false := by
    refine forall_ascii (P := fun c => isAsciiNameChar c = true ∨ c.toNat < 0x20 ∨
      hexValue? c = none ∧ isNewline c = false) ?_ hascii
    decide +kernel
  rcases hall with hchar | hcontrol | hplain
  · rw [hname] at hchar
    cases hchar
  · omega
  · exact hplain

theorem isNameChar_of_isAsciiNameChar {c : Char} (h : isAsciiNameChar c = true) :
    isNameChar c = true := by
  simp only [isAsciiNameChar, Char.isAlphanum, Bool.or_eq_true, beq_iff_eq] at h
  simp only [isNameChar, isNameStart, Bool.or_eq_true, beq_iff_eq]
  tauto

theorem isNameStart_of_not_ascii {c : Char} (h : 0x80 ≤ c.toNat) : isNameStart c = true := by
  simp [isNameStart, h]

theorem serializedChar_spec {c : Char} (hnul : c ≠ '\x00') :
    SerializedChar c (serializedChar c) := by
  unfold serializedChar
  split
  · next hname => exact .itself (isNameChar_of_isAsciiNameChar hname)
  · next hname =>
      split
      · next hhigh =>
          refine .itself ?_
          rw [isNameChar, isNameStart_of_not_ascii hhigh]
          rfl
      · next hlow =>
          have hascii : c.toNat < 0x80 := Nat.lt_of_not_le hlow
          split
          · exact .hex hascii
          · next hcontrol =>
              simp only [Bool.or_eq_true, decide_eq_true_eq, not_or, Nat.not_lt] at hcontrol
              obtain ⟨hdigit, hline⟩ :=
                hexValue?_of_escaped hascii (Bool.eq_false_iff.2 hname) hcontrol.1
              exact .backslash hdigit hline

theorem serializedRest_spec {name : Name} (h : '\x00' ∉ name) :
    SerializedName name (serializedRest name) := by
  induction name with
  | nil => exact .nil
  | cons c cs ih =>
      obtain ⟨hc, hcs⟩ := List.ne_and_not_mem_of_not_mem_cons h
      exact .cons (Ne.symm hc) (serializedChar_spec (Ne.symm hc)) (ih hcs)

theorem toNat_lt_of_isDigit {c : Char} (h : c.isDigit = true) : c.toNat < 0x80 := by
  simp only [Char.isDigit, Bool.and_eq_true, decide_eq_true_eq, ge_iff_le,
    UInt32.le_iff_toNat_le] at h
  have hnat : c.toNat = c.val.toNat := rfl
  have hnine : '9'.val.toNat = 57 := rfl
  omega

theorem serializedStart_spec {name : Name} (h : '\x00' ∉ name) :
    SerializedName name (serializedStart name) := by
  cases name with
  | nil => exact .nil
  | cons c cs =>
      obtain ⟨hc, hcs⟩ := List.ne_and_not_mem_of_not_mem_cons h
      rw [serializedStart]
      split
      · next hdigit =>
          exact .cons (Ne.symm hc) (.hex (toNat_lt_of_isDigit hdigit)) (serializedRest_spec hcs)
      · exact serializedRest_spec h

/-- A serialized name writes each character of the name in some form. -/
theorem serialized_spec {name : Name} (h : '\x00' ∉ name) :
    SerializedName name (serialized name) := by
  unfold serialized
  split
  · exact .cons (by decide) (.backslash (by decide) (by decide)) .nil
  · next cs => exact serializedRest_spec h
  · next cs _ _ =>
      have hcs : '\x00' ∉ cs := fun hmem => h (List.mem_cons_of_mem _ hmem)
      exact .cons (by decide) (.itself (by decide)) (serializedStart_spec hcs)
  · exact serializedStart_spec h

theorem serialized_cons {c : Char} (hminus : c ≠ '-') (cs : Name) :
    serialized (c :: cs) = serializedStart (c :: cs) := by
  simp [serialized, hminus]

theorem serialized_hyphen {c : Char} (hminus : c ≠ '-') (cs : Name) :
    serialized ('-' :: c :: cs) = '-' :: serializedStart (c :: cs) := by
  simp [serialized, hminus]

theorem serializedRest_append (name more : Name) :
    serializedRest (name ++ more) = serializedRest name ++ serializedRest more :=
  List.flatMap_append

/-- Only a digit in front is written in another way than behind the start. -/
theorem serializedStart_append (name : Name) {more : Name}
    (hmore : ∀ c ∈ more.head?, c.isDigit = false) :
    serializedStart (name ++ more) = serializedStart name ++ serializedRest more := by
  cases name with
  | nil =>
      cases more with
      | nil => rfl
      | cons c cs => simp [serializedStart, hmore c rfl]
  | cons c cs =>
      rw [List.cons_append, serializedStart, serializedStart]
      split
      · rw [serializedRest_append, List.append_assoc]
      · exact serializedRest_append (c :: cs) more

theorem serializedChar_of_not_ascii {c : Char} (h : 0x80 ≤ c.toNat) : serializedChar c = [c] := by
  have hnul : c ≠ '\x00' := by
    rintro rfl
    exact absurd h (by decide)
  simp [serializedChar, hnul, h]

/-- In front of a character above ASCII a name is serialized by itself, and that
character is printed as it is. -/
theorem serialized_append_cons {name : Name} (hnul : '\x00' ∉ name) {c : Char}
    (hc : 0x80 ≤ c.toNat) (cs : Name) :
    ∃ text, SerializedName name text ∧
      serialized (name ++ c :: cs) = text ++ c :: serializedRest cs := by
  have hdigit : ∀ d ∈ (c :: cs).head?, d.isDigit = false := by
    intro d hd
    obtain rfl : c = d := Option.some.inj hd
    exact Bool.eq_false_iff.2 fun h => absurd (toNat_lt_of_isDigit h) (Nat.not_lt.2 hc)
  have hrest : serializedRest (c :: cs) = c :: serializedRest cs := by
    rw [serializedRest, List.flatMap_cons, serializedChar_of_not_ascii hc]
    rfl
  have hminus : c ≠ '-' := by
    rintro rfl
    exact absurd hc (by decide)
  rw [← hrest]
  rcases name with _ | ⟨d, _ | ⟨e, es⟩⟩
  · refine ⟨[], .nil, ?_⟩
    rw [List.nil_append, serialized_cons hminus]
    exact serializedStart_append [] hdigit
  · by_cases hd : d = '-'
    · subst hd
      refine ⟨['-'], .cons (by decide) (.itself (by decide)) .nil, ?_⟩
      rw [List.singleton_append, serialized_hyphen hminus]
      exact congrArg ('-' :: ·) (serializedStart_append [] hdigit)
    · refine ⟨_, serializedStart_spec hnul, ?_⟩
      rw [List.singleton_append, serialized_cons hd]
      exact serializedStart_append [d] hdigit
  · obtain ⟨hd, htail⟩ := List.ne_and_not_mem_of_not_mem_cons hnul
    by_cases hd' : d = '-'
    · subst hd'
      by_cases he : e = '-'
      · subst he
        exact ⟨_, serializedRest_spec hnul, serializedRest_append ('-' :: '-' :: es) (c :: cs)⟩
      · refine ⟨_, .cons (by decide) (.itself (by decide)) (serializedStart_spec htail), ?_⟩
        rw [List.cons_append, List.cons_append, serialized_hyphen he]
        exact congrArg ('-' :: ·) (serializedStart_append (e :: es) hdigit)
    · refine ⟨_, serializedStart_spec hnul, ?_⟩
      rw [List.cons_append, serialized_cons hd']
      exact serializedStart_append (d :: e :: es) hdigit

/-! ## Reading -/

/-- The hexadecimal text of an ASCII code point is digits, and few enough for an escape. -/
theorem hexText_spec {n : Nat} (h : n < 0x80) :
    (∃ d ds, hexText n = d :: ds ∧ (hexValue? d).isSome) ∧ (hexText n).length ≤ 6 ∧
      (∀ d ∈ hexText n, (hexValue? d).isSome) ∧ hexNumberFrom 0 (hexText n) = n := by
  have hall : ∀ n < 0x80, hexText n ≠ [] ∧ (hexText n).length ≤ 6 ∧
      (hexText n).all (fun d => (hexValue? d).isSome) = true ∧
        hexNumberFrom 0 (hexText n) = n := by
    decide +kernel
  obtain ⟨hne, hlength, hall, hnumber⟩ := hall n h
  have hdigits := List.all_eq_true.1 hall
  obtain ⟨d, ds, hcons⟩ := List.exists_cons_of_ne_nil hne
  exact ⟨⟨d, ds, hcons, hdigits d (hcons ▸ List.mem_cons_self)⟩, hlength, hdigits, hnumber⟩

/-- No hexadecimal digit ends a line. -/
theorem isNewline_of_hexValue? {c : Char} (h : (hexValue? c).isSome) : isNewline c = false := by
  rw [Bool.eq_false_iff]
  intro hline
  have hcases : (c = '\n' ∨ c = '\r') ∨ c = '\x0c' := by
    simpa only [isNewline, Bool.or_eq_true, beq_iff_eq] using hline
  rcases hcases with (rfl | rfl) | rfl <;> exact absurd h (by decide)

/-- A hexadecimal escape is read as its character, together with the space behind it. -/
theorem readEscape_hexText {c : Char} (hascii : c.toNat < 0x80) (hnul : c ≠ '\x00')
    (rest : List Char) : readEscape (hexText c.toNat ++ ' ' :: rest) = (c, rest) := by
  obtain ⟨⟨d, ds, hcons, hd⟩, hlength, hdigits, hnumber⟩ := hexText_spec hascii
  obtain ⟨digit, hdigit⟩ := Option.isSome_iff_exists.1 hd
  rw [hcons] at hlength hdigits hnumber
  have hlater : ∀ e ∈ ds, (hexValue? e).isSome := fun e he =>
    hdigits e (List.mem_cons_of_mem d he)
  have hspace : ∀ e ∈ (' ' :: rest).head?, hexValue? e = none := by
    intro e he
    obtain rfl : ' ' = e := Option.some.inj he
    decide
  have hread : readHex 5 digit (ds ++ ' ' :: rest) = (c.toNat, ' ' :: rest) := by
    have hvalue : hexNumberFrom digit ds = c.toNat := by
      simpa [hexNumberFrom, hdigit] using hnumber
    have hshort : ds.length ≤ 5 := Nat.le_of_lt_succ hlength
    rw [readHex_append (.inr (.inr hspace)), readHex_of_digits digit hlater hshort, hvalue]
    rfl
  rw [hcons, List.cons_append]
  simp only [readEscape, hdigit, hread, escapedChar_toNat hnul]
  rfl

theorem readName_escape {text : List Char} (h : startsWithNewline text = false) :
    readName ('\\' :: text) = ((readEscape text).1 :: (readName (readEscape text).2).1,
      (readName (readEscape text).2).2) := by
  rw [readName, if_pos rfl, if_neg (by simp [h])]

/-- Each form of a character is read as that character, whatever follows. -/
theorem SerializedChar.read {c : Char} {piece : List Char} (h : SerializedChar c piece)
    (hnul : c ≠ '\x00') (rest : List Char) :
    readName (piece ++ rest) = (c :: (readName rest).1, (readName rest).2) := by
  cases h with
  | itself hname =>
      have hne : c ≠ '\\' := by
        rintro rfl
        exact absurd hname (by decide)
      rw [List.singleton_append, readName, if_neg hne, if_pos hname, if_neg hnul]
  | hex hascii =>
      obtain ⟨⟨d, ds, hcons, hd⟩, -⟩ := hexText_spec hascii
      have hline : startsWithNewline (hexText c.toNat ++ ' ' :: rest) = false := by
        rw [hcons]
        exact isNewline_of_hexValue? hd
      rw [hexEscape, List.cons_append, List.cons_append, List.append_assoc,
        List.singleton_append, readName_escape hline, readEscape_hexText hascii hnul]
  | backslash hdigit hline =>
      have hstart : startsWithNewline (c :: rest) = false := hline
      have hread : readEscape (c :: rest) = (c, rest) := by
        simp [readEscape, hdigit, hnul]
      rw [List.cons_append, List.singleton_append, readName_escape hstart, hread]

/-- Whether a text ends a name in front of it. -/
def EndsName (text : List Char) : Prop :=
  ∀ c ∈ text.head?, c ≠ '\\' ∧ isNameChar c = false

theorem readName_of_endsName {text : List Char} (h : EndsName text) :
    readName text = ([], text) := by
  cases text with
  | nil => rw [readName]
  | cons c cs =>
      obtain ⟨hne, hname⟩ := h c rfl
      rw [readName, if_neg hne, hname, if_neg Bool.false_ne_true]

theorem SerializedName.read {name : Name} {text more : List Char} (h : SerializedName name text)
    (hmore : EndsName more) : readName (text ++ more) = (name, more) := by
  induction h with
  | nil => exact readName_of_endsName hmore
  | cons hnul hchar _ ih => rw [List.append_assoc, hchar.read hnul, ih]

/-- **A serialized name is read back**, up to what ends it. -/
theorem readName_serialized {name : Name} {more : List Char} (h : '\x00' ∉ name)
    (hmore : EndsName more) : readName (serialized name ++ more) = (name, more) :=
  (serialized_spec h).read hmore

/-! ## How serialized names start -/

/-- A text that starts like an identifier, and like no number and no mark of a comment. -/
structure StartsIdent (text : List Char) : Prop where
  identifier : startsIdentifier text = true
  numeral : startsNumeral text = false
  digit : startsWithDigit text = false
  comment : ['-', '-', '>'].isPrefixOf text = false
  blank : ∀ c ∈ text.head?, isWhitespace c = false

/-- A text that starts with an escape, or a letter or what counts as one. -/
inductive StartsLetter : List Char → Prop where
  | letter {c : Char} {text : List Char} (hstart : isNameStart c = true) :
      StartsLetter (c :: text)
  | escape {text : List Char} (hline : startsWithNewline text = false) :
      StartsLetter ('\\' :: text)

theorem isDigit_of_isNameStart {c : Char} (h : isNameStart c = true) : c.isDigit = false := by
  rw [Bool.eq_false_iff]
  intro hdigit
  have hboth : isNameStart c = false ∨ c.isDigit = false :=
    forall_ascii (P := fun c => isNameStart c = false ∨ c.isDigit = false)
      (by decide +kernel) (toNat_lt_of_isDigit hdigit)
  rcases hboth with hstart | hno
  · rw [h] at hstart
    cases hstart
  · rw [hdigit] at hno
    cases hno

theorem ne_of_isNameStart {c d : Char} (h : isNameStart c = true) (hd : isNameStart d = false) :
    c ≠ d := by
  rintro rfl
  rw [h] at hd
  cases hd

theorem startsUnsigned_cons {c : Char} (hdot : c ≠ '.') (text : List Char) :
    startsUnsigned (c :: text) = c.isDigit := by
  unfold startsUnsigned
  split
  · next heq => exact absurd (List.cons.inj heq).1 hdot
  · rfl

theorem startsNumeral_cons {c : Char} (hplus : c ≠ '+') (hminus : c ≠ '-') (text : List Char) :
    startsNumeral (c :: text) = startsUnsigned (c :: text) := by
  unfold startsNumeral
  split
  · next heq => exact absurd (List.cons.inj heq).1 hplus
  · next heq => exact absurd (List.cons.inj heq).1 hminus
  · rfl

theorem startsIdentifier_cons {c : Char} (hescape : c ≠ '\\') (hminus : c ≠ '-')
    (text : List Char) : startsIdentifier (c :: text) = isNameStart c := by
  unfold startsIdentifier
  split
  · next heq => exact absurd (List.cons.inj heq).1 hescape
  · next heq => exact absurd (List.cons.inj heq).1 hminus
  · next heq => exact absurd (List.cons.inj heq).1 hminus
  · next heq => rw [(List.cons.inj heq).1]
  · next heq => cases heq

theorem startsIdentifier_hyphen {c : Char} (hescape : c ≠ '\\') (text : List Char) :
    startsIdentifier ('-' :: c :: text) = (isNameStart c || c == '-') := by
  simp [startsIdentifier]

theorem isWhitespace_of_isNameStart {c : Char} (h : isNameStart c = true) :
    isWhitespace c = false := by
  have hne : ∀ d, isNameStart d = false → c ≠ d := fun d => ne_of_isNameStart h
  simp [isWhitespace, isNewline, hne ' ' (by decide), hne '\t' (by decide),
    hne '\n' (by decide), hne '\r' (by decide), hne '\x0c' (by decide)]

/-- What starts with a letter or an escape is an identifier, with a hyphen before it too. -/
theorem StartsLetter.startsIdent {text : List Char} (h : StartsLetter text) :
    StartsIdent text ∧ StartsIdent ('-' :: text) := by
  have hblank : ∀ c ∈ ('-' :: text).head?, isWhitespace c = false := by
    intro c hc
    obtain rfl : '-' = c := Option.some.inj hc
    decide
  cases h with
  | @letter c text hstart =>
      have hne : ∀ d, isNameStart d = false → c ≠ d := fun d => ne_of_isNameStart hstart
      have hminus := hne '-' (by decide)
      have hescape := hne '\\' (by decide)
      have hdigit := isDigit_of_isNameStart hstart
      have hunsigned : startsUnsigned (c :: text) = false := by
        rw [startsUnsigned_cons (hne '.' (by decide)), hdigit]
      refine ⟨⟨?_, ?_, hdigit, ?_, ?_⟩, ⟨?_, hunsigned, rfl, ?_, hblank⟩⟩
      · rw [startsIdentifier_cons hescape hminus, hstart]
      · rw [startsNumeral_cons (hne '+' (by decide)) hminus, hunsigned]
      · simp [List.isPrefixOf, hminus.symm]
      · intro d hd
        obtain rfl : c = d := Option.some.inj hd
        exact isWhitespace_of_isNameStart hstart
      · rw [startsIdentifier_hyphen hescape, hstart, Bool.true_or]
      · simp [List.isPrefixOf, hminus.symm]
  | @escape text hline =>
      have hidentifier : (!startsWithNewline text) = true := by rw [hline]; rfl
      refine ⟨⟨hidentifier, rfl, rfl, rfl, ?_⟩, ⟨hidentifier, rfl, rfl, rfl, hblank⟩⟩
      intro d hd
      obtain rfl : '\\' = d := Option.some.inj hd
      decide

theorem startsLetter_hexEscape {c : Char} (hascii : c.toNat < 0x80) (rest : List Char) :
    StartsLetter (hexEscape c ++ rest) := by
  obtain ⟨⟨d, ds, hcons, hd⟩, -⟩ := hexText_spec hascii
  have hline : startsWithNewline (hexText c.toNat ++ [' '] ++ rest) = false := by
    rw [hcons]
    exact isNewline_of_hexValue? hd
  exact .escape hline

/-- The form of a character starts a letter or an escape, if the character itself does. -/
theorem SerializedChar.startsLetter {c : Char} {piece : List Char} (h : SerializedChar c piece)
    (hstart : isNameChar c = true → isNameStart c = true) (rest : List Char) :
    StartsLetter (piece ++ rest) := by
  cases h with
  | itself hname => exact .letter (hstart hname)
  | hex hascii => exact startsLetter_hexEscape hascii rest
  | backslash hdigit hline => exact .escape hline

/-- Where the start of a serialized name is no hyphen, it is a letter or an escape. -/
theorem startsLetter_serializedStart {c : Char} (hnul : c ≠ '\x00') (hminus : c ≠ '-')
    (cs more : List Char) : StartsLetter (serializedStart (c :: cs) ++ more) := by
  rw [serializedStart]
  split
  · next hdigit =>
      rw [List.append_assoc]
      exact startsLetter_hexEscape (toNat_lt_of_isDigit hdigit) _
  · next hdigit =>
      rw [serializedRest, List.flatMap_cons, List.append_assoc]
      refine (serializedChar_spec hnul).startsLetter (fun hname => ?_) _
      simpa [isNameChar, hdigit, hminus] using hname

/-- A character that no name holds does not start a serialized one. -/
theorem SerializedName.head?_ne {name : Name} {text more : List Char} {d : Char}
    (h : SerializedName name text) (hd : isNameChar d = false ∧ d ≠ '\\')
    (hmore : d ∉ more.head?) : d ∉ (text ++ more).head? := by
  cases h with
  | nil => exact hmore
  | @cons c name piece text hnul hchar hname =>
      intro hhead
      rw [List.append_assoc] at hhead
      cases hchar with
      | itself hname =>
          obtain rfl : c = d := Option.some.inj hhead
          rw [hd.1] at hname
          cases hname
      | hex hascii => exact hd.2 (Option.some.inj hhead).symm
      | backslash hdigit hline => exact hd.2 (Option.some.inj hhead).symm

/-- **A serialized name starts like an identifier**, whatever is in the name. -/
theorem startsIdent_serialized {name : Name} {more : List Char} (hne : name ≠ [])
    (hnul : '\x00' ∉ name) (hmore : '>' ∉ more.head?) :
    StartsIdent (serialized name ++ more) := by
  obtain ⟨c, cs, rfl⟩ := List.exists_cons_of_ne_nil hne
  obtain ⟨hc, hcs⟩ := List.ne_and_not_mem_of_not_mem_cons hnul
  by_cases hminus : c = '-'
  · subst hminus
    cases cs with
    | nil =>
        have hletter : StartsLetter ('\\' :: '-' :: more) := .escape rfl
        exact hletter.startsIdent.1
    | cons d ds =>
        obtain ⟨hd, hds⟩ := List.ne_and_not_mem_of_not_mem_cons hcs
        by_cases hdminus : d = '-'
        · subst hdminus
          have hcomment : ['-', '-', '>'].isPrefixOf ('-' :: '-' :: (serializedRest ds ++ more)) =
              false := by
            have hhead := (serializedRest_spec hds).head?_ne (d := '>') (by decide) hmore
            cases hrest : serializedRest ds ++ more with
            | nil => rfl
            | cons e es =>
                have he : '>' ≠ e := fun heq => hhead (by rw [hrest, heq]; rfl)
                simp [List.isPrefixOf, he]
          have hidentifier : startsIdentifier ('-' :: '-' :: (serializedRest ds ++ more)) = true :=
            startsIdentifier_hyphen (by decide) _
          refine ⟨hidentifier, rfl, rfl, hcomment, fun e he => ?_⟩
          obtain rfl : '-' = e := Option.some.inj he
          decide
        · rw [serialized_hyphen hdminus]
          exact (startsLetter_serializedStart (Ne.symm hd) hdminus ds more).startsIdent.2
  · rw [serialized_cons hminus]
    exact (startsLetter_serializedStart (Ne.symm hc) hminus cs more).startsIdent.1

end ElmClasses.Css
