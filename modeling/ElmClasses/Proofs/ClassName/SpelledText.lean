import Mathlib.Algebra.Group.Nat.Defs
import Mathlib.Tactic.Tauto
import ElmClasses.ClassName

/-!
# Reading a selector in two passes

`readCompound` undoes escapes and looks for the end of the compound selector in
one go. To reason about texts put behind one another it is better to separate
the two: `spelledChars` undoes the escapes of the whole text, and `cutCompound`
cuts the result where a compound selector ends. `readCompound_eq` says that the
two passes one after the other are the one that runs.

The second pass works on a plain list and has no look-ahead. The first has some:
a hexadecimal escape at the end of a text may go on into the text behind it, and
a backslash at the very end does. `openEscape?` finds such an escape and
`Separated` says that what follows leaves it alone. Texts that are separated are
read independently of each other (`spelledChars_append`), which is the only
fact on escapes that the rest of the development uses.

## Main results

* `readCompound_eq`: both passes together read a compound selector.
* `spelledChars_append`: separated texts are read one behind the other.
* `cutCompound_append`: a compound selector that does not end within its first
  part goes on with the second.
-/

namespace ElmClasses.ClassName

open Text
open Css (readHex escapedChar)

/-- The number that further hexadecimal digits make of `value`. -/
def hexNumberFrom (value : Nat) (digits : List Char) : Nat :=
  digits.foldl (fun n c => n * 16 + (hexValue? c).getD 0) value

/-- Digits within the limit are all read. -/
theorem readHex_of_digits {limit : Nat} (value : Nat) {digits : List Char}
    (hdigits : ∀ c ∈ digits, (hexValue? c).isSome) (hlength : digits.length ≤ limit) :
    readHex limit value digits = (hexNumberFrom value digits, []) := by
  induction digits generalizing limit value with
  | nil => cases limit <;> rfl
  | cons c cs ih =>
      obtain ⟨digit, hdigit⟩ := Option.isSome_iff_exists.1 (hdigits c List.mem_cons_self)
      cases limit with
      | zero => simp at hlength
      | succ limit =>
          have hlimit : cs.length ≤ limit := Nat.le_of_succ_le_succ hlength
          have htail := ih (value * 16 + digit)
            (fun d hd => hdigits d (List.mem_cons_of_mem c hd)) hlimit
          simpa [readHex, hdigit, hexNumberFrom] using htail

/-- What follows is not read if the limit is used up, or if something that is no
digit comes before it or first in it. -/
theorem readHex_append {limit value : Nat} {cs more : List Char}
    (h : limit ≤ cs.length ∨ (∃ c ∈ cs, hexValue? c = none) ∨
      ∀ c ∈ more.head?, hexValue? c = none) :
    readHex limit value (cs ++ more) =
      ((readHex limit value cs).1, (readHex limit value cs).2 ++ more) := by
  induction cs generalizing limit value with
  | nil =>
      cases limit with
      | zero => rfl
      | succ limit =>
          cases more with
          | nil => rfl
          | cons c more =>
              have hc : hexValue? c = none := by simpa using h
              simp [readHex, hc]
  | cons c cs ih =>
      cases limit with
      | zero => rfl
      | succ limit =>
          cases hc : hexValue? c with
          | none => simp [readHex, hc]
          | some digit =>
              have htail : limit ≤ cs.length ∨ (∃ c ∈ cs, hexValue? c = none) ∨
                  ∀ c ∈ more.head?, hexValue? c = none := by
                simpa [hc] using h
              simp [readHex, hc, ih htail]

/-- Something is left if there is more than the limit or something that is no
digit. -/
theorem readHex_snd_ne_nil {limit value : Nat} {cs : List Char}
    (h : limit < cs.length ∨ ∃ c ∈ cs, hexValue? c = none) :
    (readHex limit value cs).2 ≠ [] := by
  induction cs generalizing limit value with
  | nil => simp at h
  | cons c cs ih =>
      cases limit with
      | zero => simp [readHex]
      | succ limit =>
          cases hc : hexValue? c with
          | none => simp [readHex, hc]
          | some digit =>
              have htail : limit < cs.length ∨ ∃ c ∈ cs, hexValue? c = none := by
                simpa [hc] using h
              simpa [readHex, hc] using ih htail

/-- What digits there are, and their values. -/
theorem hexValue?_cases {c : Char} {n : Nat} (h : hexValue? c = some n) :
    (48 ≤ c.toNat ∧ c.toNat ≤ 57 ∧ n = c.toNat - 48) ∨
      (97 ≤ c.toNat ∧ c.toNat ≤ 102 ∧ n = c.toNat - 97 + 10) ∨
      (65 ≤ c.toNat ∧ c.toNat ≤ 70 ∧ n = c.toNat - 65 + 10) := by
  unfold hexValue? at h
  simp only [Char.le_def, Bool.and_eq_true, decide_eq_true_eq] at h
  split at h
  · next hc => exact .inl ⟨hc.1, hc.2, (Option.some.inj h).symm⟩
  · split at h
    · next hc => exact .inr (.inl ⟨hc.1, hc.2, (Option.some.inj h).symm⟩)
    · split at h
      · next hc => exact .inr (.inr ⟨hc.1, hc.2, (Option.some.inj h).symm⟩)
      · cases h

/-- Digits lie between `0` and `f`. -/
theorem hexValue?_bounds {c : Char} {n : Nat} (h : hexValue? c = some n) :
    48 ≤ c.toNat ∧ c.toNat ≤ 102 := by
  have hcases := hexValue?_cases h
  omega

theorem hexValue?_lt {c : Char} {n : Nat} (h : hexValue? c = some n) : n < 16 := by
  have hcases := hexValue?_cases h
  omega

/-- A blank is no digit. -/
theorem hexValue?_of_isBlank {c : Char} (h : isBlank c = true) : hexValue? c = none := by
  rw [Option.eq_none_iff_forall_ne_some]
  intro n hn
  have hbounds := hexValue?_bounds hn
  simp only [isBlank] at h
  split at h
  · simp only [Bool.or_eq_true, Bool.and_eq_true, beq_iff_eq, decide_eq_true_eq] at h
    omega
  · omega

/-- Whether more text could belong to an escape of which `cs` has followed the
backslash: nothing has, or only hexadecimal digits within their limit. Behind six
of them a blank could still follow. -/
def isOpenEscape (cs : List Char) : Bool :=
  decide (cs.length ≤ 6) && cs.all fun c => (hexValue? c).isSome

theorem isOpenEscape_iff (cs : List Char) :
    isOpenEscape cs = true ↔ cs.length ≤ 6 ∧ ∀ c ∈ cs, (hexValue? c).isSome := by
  simp [isOpenEscape]

theorem isOpenEscape_eq_false_iff (cs : List Char) :
    isOpenEscape cs = false ↔ 6 < cs.length ∨ ∃ c ∈ cs, hexValue? c = none := by
  simp [isOpenEscape, Decidable.imp_iff_not_or]

theorem dropBlank_eq_self {cs : List Char} (h : ∀ c ∈ cs.head?, isBlank c = false) :
    dropBlank cs = cs := by
  cases cs with
  | nil => rfl
  | cons c cs =>
      have hc : isBlank c = false := h c rfl
      simp [dropBlank, hc]

theorem dropBlank_append {cs : List Char} (h : cs ≠ []) (more : List Char) :
    dropBlank (cs ++ more) = dropBlank cs ++ more := by
  cases cs with
  | nil => exact absurd rfl h
  | cons c cs =>
      simp only [List.cons_append, dropBlank]
      split <;> rfl

/-- A run of digits that no digit continues is read as the character that it
spells, together with one blank. -/
theorem readEscape_digits {digits more : List Char} (hne : digits ≠ [])
    (hopen : isOpenEscape digits = true)
    (hmore : digits.length < 6 → ∀ c ∈ more.head?, hexValue? c = none) :
    readEscape (digits ++ more) =
      some (escapedChar (hexNumberFrom 0 digits), dropBlank more) := by
  obtain ⟨hlength, hdigits⟩ := (isOpenEscape_iff digits).1 hopen
  cases digits with
  | nil => exact absurd rfl hne
  | cons c cs =>
      obtain ⟨digit, hdigit⟩ := Option.isSome_iff_exists.1 (hdigits c List.mem_cons_self)
      have hcs : readHex 5 digit cs = (hexNumberFrom digit cs, []) :=
        readHex_of_digits digit (fun d hd => hdigits d (List.mem_cons_of_mem c hd))
          (Nat.le_of_succ_le_succ hlength)
      have hread : readHex 5 digit (cs ++ more) = (hexNumberFrom digit cs, more) := by
        rw [readHex_append, hcs]
        · rfl
        · rcases Nat.lt_or_ge cs.length 5 with hlt | hge
          · exact .inr (.inr (hmore (Nat.succ_lt_succ hlt)))
          · exact .inl hge
      have hnumber : hexNumberFrom 0 (c :: cs) = hexNumberFrom digit cs := by
        simp [hexNumberFrom, hdigit]
      rw [List.cons_append, hnumber]
      simp only [readEscape, hdigit, hread]

/-- An escape that is not open is read alike in front of any text. -/
theorem readEscape_append {cs rest : List Char} {e : Char}
    (h : readEscape cs = some (e, rest)) (hclosed : isOpenEscape cs = false)
    (more : List Char) : readEscape (cs ++ more) = some (e, rest ++ more) := by
  cases cs with
  | nil => simp [readEscape] at h
  | cons c cs =>
      cases hc : hexValue? c with
      | none =>
          obtain ⟨rfl, rfl⟩ : c = e ∧ cs = rest := by simpa [readEscape, hc] using h
          simp [readEscape, hc]
      | some digit =>
          obtain ⟨rfl, rfl⟩ : escapedChar (readHex 5 digit cs).1 = e ∧
              dropBlank (readHex 5 digit cs).2 = rest := by
            simpa [readEscape, hc] using h
          have hstop : 5 < cs.length ∨ ∃ d ∈ cs, hexValue? d = none := by
            rcases (isOpenEscape_eq_false_iff _).1 hclosed with hlt | ⟨d, hd, hnone⟩
            · exact .inl (Nat.lt_of_succ_lt_succ hlt)
            · rcases List.mem_cons.1 hd with rfl | hd
              · rw [hc] at hnone
                cases hnone
              · exact .inr ⟨d, hd, hnone⟩
          have hread : readHex 5 digit (cs ++ more) =
              ((readHex 5 digit cs).1, (readHex 5 digit cs).2 ++ more) :=
            readHex_append (hstop.imp Nat.le_of_lt .inl)
          simp only [List.cons_append, readEscape, hc, hread,
            dropBlank_append (readHex_snd_ne_nil hstop)]

/-! ## The first pass: undoing escapes -/

/-- The spelled characters of a whole text. A backslash at the very end spells
nothing. -/
def spelledChars : List Char → List SpelledChar
  | [] => []
  | c :: cs =>
    if c = '\\' then
      match h : readEscape cs with
      | none => []
      | some (e, rest) =>
        have := readEscape_length h
        ⟨e, true⟩ :: spelledChars rest
    else ⟨c, false⟩ :: spelledChars cs
termination_by cs => cs.length

@[simp] theorem spelledChars_nil : spelledChars [] = [] := by
  rw [spelledChars]

theorem spelledChars_raw {c : Char} (h : c ≠ '\\') (cs : List Char) :
    spelledChars (c :: cs) = ⟨c, false⟩ :: spelledChars cs := by
  rw [spelledChars, if_neg h]

theorem spelledChars_backslash {cs : List Char} (h : readEscape cs = none) :
    spelledChars ('\\' :: cs) = [] := by
  rw [spelledChars, if_pos rfl]
  split
  · rfl
  · next hsome => rw [h] at hsome; cases hsome

theorem spelledChars_escape {cs rest : List Char} {e : Char}
    (h : readEscape cs = some (e, rest)) :
    spelledChars ('\\' :: cs) = ⟨e, true⟩ :: spelledChars rest := by
  rw [spelledChars, if_pos rfl]
  split
  · next hnone => rw [h] at hnone; cases hnone
  · next hsome =>
      obtain ⟨rfl, rfl⟩ : e = _ ∧ rest = _ := by
        simpa using h.symm.trans hsome
      rfl

/-- What has followed the backslash of an escape that a text ends in and that
more text could belong to, if the text ends so. -/
def openEscape? : List Char → Option (List Char)
  | [] => none
  | c :: cs =>
    if c = '\\' then
      if isOpenEscape cs then some cs
      else
        match h : readEscape cs with
        | none => none
        | some (_, rest) =>
          have := readEscape_length h
          openEscape? rest
    else openEscape? cs
termination_by cs => cs.length

theorem openEscape?_raw {c : Char} (h : c ≠ '\\') (cs : List Char) :
    openEscape? (c :: cs) = openEscape? cs := by
  rw [openEscape?, if_neg h]

theorem openEscape?_of_open {cs : List Char} (h : isOpenEscape cs = true) :
    openEscape? ('\\' :: cs) = some cs := by
  rw [openEscape?, if_pos rfl, if_pos h]

theorem openEscape?_escape {cs rest : List Char} {e : Char} (h : isOpenEscape cs = false)
    (hread : readEscape cs = some (e, rest)) :
    openEscape? ('\\' :: cs) = openEscape? rest := by
  rw [openEscape?, if_pos rfl, h, if_neg Bool.false_ne_true]
  split
  · next hnone => rw [hread] at hnone; cases hnone
  · next hsome =>
      obtain ⟨-, rfl⟩ : e = _ ∧ rest = _ := by
        simpa using hread.symm.trans hsome
      rfl

/-- The second text is no continuation of an escape that the first one ends in. -/
def Separated (text more : List Char) : Prop :=
  ∀ digits, openEscape? text = some digits →
    digits ≠ [] ∧
      ∀ c ∈ more.head?, isBlank c = false ∧ (digits.length < 6 → hexValue? c = none)

/-- **Separated texts are read one behind the other.** -/
theorem spelledChars_append {text more : List Char} (h : Separated text more) :
    spelledChars (text ++ more) = spelledChars text ++ spelledChars more := by
  induction text using openEscape?.induct with
  | case1 => simp
  | case2 cs hopen =>
      obtain ⟨hne, hclear⟩ := h cs (openEscape?_of_open hopen)
      have hread : readEscape cs = some (escapedChar (hexNumberFrom 0 cs), []) := by
        have hdigits := readEscape_digits hne hopen fun _ c (hc : c ∈ [].head?) => by cases hc
        rwa [List.append_nil] at hdigits
      have hmore : readEscape (cs ++ more) =
          some (escapedChar (hexNumberFrom 0 cs), more) := by
        rw [readEscape_digits hne hopen fun hlt c hc => (hclear c hc).2 hlt,
          dropBlank_eq_self fun c hc => (hclear c hc).1]
      rw [List.cons_append, spelledChars_escape hmore, spelledChars_escape hread,
        spelledChars_nil]
      rfl
  | case3 cs hopen hread =>
      cases cs with
      | nil => exact absurd rfl hopen
      | cons c cs =>
          simp only [readEscape] at hread
          split at hread <;> cases hread
  | case4 cs hopen e rest hread _ ih =>
      have hclosed : isOpenEscape cs = false := by simpa using hopen
      have hmore := readEscape_append hread hclosed more
      have hrest : Separated rest more := by
        intro digits hdigits
        exact h digits ((openEscape?_escape hclosed hread).trans hdigits)
      rw [List.cons_append, spelledChars_escape hmore, spelledChars_escape hread, ih hrest]
      rfl
  | case5 c cs hc ih =>
      have hrest : Separated cs more := by
        intro digits hdigits
        exact h digits ((openEscape?_raw hc cs).trans hdigits)
      rw [List.cons_append, spelledChars_raw hc, spelledChars_raw hc, ih hrest]
      rfl

/-- The characters of a text, each spelled by itself. -/
def rawChars (text : List Char) : List SpelledChar :=
  text.map fun c => ⟨c, false⟩

theorem spelledChars_raw_append {text : List Char} (h : ∀ c ∈ text, c ≠ '\\')
    (rest : List Char) : spelledChars (text ++ rest) = rawChars text ++ spelledChars rest := by
  induction text with
  | nil => rfl
  | cons c cs ih =>
      rw [List.cons_append, spelledChars_raw (h c List.mem_cons_self),
        ih fun d hd => h d (List.mem_cons_of_mem c hd)]
      rfl

theorem openEscape?_raw_append {text : List Char} (h : ∀ c ∈ text, c ≠ '\\')
    (rest : List Char) : openEscape? (text ++ rest) = openEscape? rest := by
  induction text with
  | nil => rfl
  | cons c cs ih =>
      rw [List.cons_append, openEscape?_raw (h c List.mem_cons_self),
        ih fun d hd => h d (List.mem_cons_of_mem c hd)]

/-! ## The second pass: finding the end -/

/-- The parenthesis depth behind spelled characters. -/
def depthBehind (depth : Nat) (units : List SpelledChar) : Nat :=
  units.foldl (fun depth u => u.depthAfter depth) depth

@[simp] theorem depthBehind_nil (depth : Nat) : depthBehind depth [] = depth := rfl

@[simp] theorem depthBehind_cons (depth : Nat) (u : SpelledChar) (us : List SpelledChar) :
    depthBehind depth (u :: us) = depthBehind (u.depthAfter depth) us := rfl

theorem depthBehind_append (depth : Nat) (us vs : List SpelledChar) :
    depthBehind depth (us ++ vs) = depthBehind (depthBehind depth us) vs :=
  List.foldl_append

theorem depthBehind_rawChars (depth : Nat) {text : List Char}
    (h : ∀ c ∈ text, c ≠ '(' ∧ c ≠ ')') : depthBehind depth (rawChars text) = depth := by
  induction text with
  | nil => rfl
  | cons c cs ih =>
      obtain ⟨hopen, hclose⟩ := h c List.mem_cons_self
      have hafter : (⟨c, false⟩ : SpelledChar).depthAfter depth = depth := by
        simp [SpelledChar.depthAfter, depthAfter, hopen, hclose]
      rw [rawChars, List.map_cons, depthBehind_cons, hafter]
      exact ih fun d hd => h d (List.mem_cons_of_mem c hd)

/-- The spelled characters before the first one that ends a compound selector. -/
def cutCompound (depth : Nat) : List SpelledChar → List SpelledChar
  | [] => []
  | u :: us =>
    if depth = 0 ∧ u.escaped = false ∧ endsCompound u.char = true then []
    else u :: cutCompound (u.depthAfter depth) us

theorem readCompound_escape (depth : Nat) {cs rest : List Char} {e : Char}
    (h : readEscape cs = some (e, rest)) :
    readCompound depth ('\\' :: cs) = ⟨e, true⟩ :: readCompound depth rest := by
  rw [readCompound, if_pos rfl]
  split
  · next hnone => rw [h] at hnone; cases hnone
  · next hsome =>
      obtain ⟨rfl, rfl⟩ : e = _ ∧ rest = _ := by
        simpa using h.symm.trans hsome
      rfl

/-- **Both passes together read a compound selector.** -/
theorem readCompound_eq (depth : Nat) (text : List Char) :
    readCompound depth text = cutCompound depth (spelledChars text) := by
  induction depth, text using readCompound.induct with
  | case1 depth => simp [readCompound, cutCompound]
  | case2 depth cs hread =>
      rw [readCompound, if_pos rfl, spelledChars_backslash hread, cutCompound]
      split
      · rfl
      · next hsome => rw [hread] at hsome; cases hsome
  | case3 depth cs e rest hread _ ih =>
      have hcut : cutCompound depth (⟨e, true⟩ :: spelledChars rest) =
          ⟨e, true⟩ :: cutCompound depth (spelledChars rest) := by
        simp [cutCompound, SpelledChar.depthAfter]
      rw [readCompound_escape depth hread, spelledChars_escape hread, hcut, ih]
  | case4 depth c cs hc hends =>
      simp [readCompound, hc, hends, spelledChars_raw hc, cutCompound]
  | case5 depth c cs hc hends ih =>
      have hgoes : ¬ (depth = 0 ∧ (⟨c, false⟩ : SpelledChar).escaped = false ∧
          endsCompound c = true) := fun h => hends ⟨h.1, h.2.2⟩
      rw [readCompound, if_neg hc, if_neg hends, spelledChars_raw hc, cutCompound,
        if_neg hgoes, ih]
      rfl

/-- Where a compound selector ends within its first part, the second part does
not matter, and otherwise it goes on there. -/
theorem cutCompound_append (depth : Nat) (us vs : List SpelledChar) :
    cutCompound depth (us ++ vs) =
      if cutCompound depth us = us then us ++ cutCompound (depthBehind depth us) vs
      else cutCompound depth us := by
  induction us generalizing depth with
  | nil => simp [cutCompound]
  | cons u us ih =>
      rw [List.cons_append, cutCompound, cutCompound]
      by_cases hends : depth = 0 ∧ u.escaped = false ∧ endsCompound u.char = true
      · simp [hends]
      · rw [if_neg hends, if_neg hends, ih]
        by_cases hwhole : cutCompound (u.depthAfter depth) us = us
        · simp [hwhole]
        · simp [hwhole]

/-- Spelled characters of which none ends a compound selector and none divides it,
from a parenthesis depth on. Inside of parentheses that is so of all. -/
def Unbroken (depth : Nat) : List SpelledChar → Prop
  | [] => True
  | u :: us =>
    (depth = 0 → u.escaped = true ∨ (endsCompound u.char = false ∧ u.char ≠ ':')) ∧
      Unbroken (u.depthAfter depth) us

/-- A compound selector does not end within unbroken characters. -/
theorem cutCompound_of_unbroken {depth : Nat} {us : List SpelledChar}
    (h : Unbroken depth us) : cutCompound depth us = us := by
  induction us generalizing depth with
  | nil => rfl
  | cons u us ih =>
      have hgoes : ¬ (depth = 0 ∧ u.escaped = false ∧ endsCompound u.char = true) := by
        rintro ⟨hdepth, hraw, hends⟩
        rcases h.1 hdepth with hescaped | ⟨hplain, -⟩
        · rw [hraw] at hescaped
          cases hescaped
        · rw [hplain] at hends
          cases hends
      rw [cutCompound, if_neg hgoes, ih h.2]

/-- A compound selector that is unbroken so far goes on. -/
theorem cutCompound_append_of_unbroken {depth : Nat} {us : List SpelledChar}
    (h : Unbroken depth us) (vs : List SpelledChar) :
    cutCompound depth (us ++ vs) = us ++ cutCompound (depthBehind depth us) vs := by
  rw [cutCompound_append, if_pos (cutCompound_of_unbroken h)]

theorem unbroken_append {depth : Nat} {us vs : List SpelledChar} (hus : Unbroken depth us)
    (hvs : Unbroken (depthBehind depth us) vs) : Unbroken depth (us ++ vs) := by
  induction us generalizing depth with
  | nil => exact hvs
  | cons u us ih => exact ⟨hus.1, ih hus.2 hvs⟩

/-- A character that can stand for itself anywhere in a class name: it is no
blank, and none of the characters that mean something in a selector. -/
def isPlain (c : Char) : Bool :=
  !isBlank c && !(['\\', '(', ')', ':', '>', '+', '~', ','].contains c)

theorem isPlain_iff (c : Char) :
    isPlain c = true ↔ c ≠ '\\' ∧ c ≠ '(' ∧ c ≠ ')' ∧ c ≠ ':' ∧ endsCompound c = false := by
  simp only [isPlain, endsCompound, Bool.and_eq_true, Bool.not_eq_true', List.contains_eq_mem,
    List.mem_cons, List.not_mem_nil, or_false, decide_eq_false_iff_not, not_or,
    Bool.or_eq_false_iff, beq_eq_false_iff_ne, ne_eq]
  tauto

/-- A spelled character that is no structure. -/
def SpelledChar.IsLiteral (u : SpelledChar) : Prop :=
  u.escaped = true ∨ isPlain u.char = true

theorem SpelledChar.IsLiteral.isRaw_eq_false {u : SpelledChar} (h : u.IsLiteral) {c : Char}
    (hc : isPlain c = false) : u.isRaw c = false := by
  rcases h with hescaped | hplain
  · simp [isRaw, hescaped]
  · have hne : u.char ≠ c := by
      rintro rfl
      rw [hplain] at hc
      cases hc
    simp [isRaw, hne]

theorem SpelledChar.IsLiteral.depthAfter_eq {u : SpelledChar} (h : u.IsLiteral)
    (depth : Nat) : u.depthAfter depth = depth := by
  rcases h with hescaped | hplain
  · simp [depthAfter, hescaped]
  · obtain ⟨-, hopen, hclose, -⟩ := (isPlain_iff u.char).1 hplain
    simp [depthAfter, ClassName.depthAfter, hopen, hclose]

theorem depthBehind_of_literal (depth : Nat) {us : List SpelledChar}
    (h : ∀ u ∈ us, u.IsLiteral) : depthBehind depth us = depth := by
  induction us with
  | nil => rfl
  | cons u us ih =>
      rw [depthBehind_cons, (h u List.mem_cons_self).depthAfter_eq]
      exact ih fun v hv => h v (List.mem_cons_of_mem u hv)

theorem unbroken_of_literal (depth : Nat) {us : List SpelledChar}
    (h : ∀ u ∈ us, u.IsLiteral) : Unbroken depth us := by
  induction us with
  | nil => trivial
  | cons u us ih =>
      have hu := h u List.mem_cons_self
      refine ⟨fun _ => hu.imp_right fun hplain => ?_, ?_⟩
      · obtain ⟨-, -, -, hcolon, hends⟩ := (isPlain_iff u.char).1 hplain
        exact ⟨hends, hcolon⟩
      · rw [hu.depthAfter_eq]
        exact ih fun v hv => h v (List.mem_cons_of_mem u hv)

theorem rawChars_literal {text : List Char} (h : ∀ c ∈ text, isPlain c = true) :
    ∀ u ∈ rawChars text, u.IsLiteral := by
  intro u hu
  obtain ⟨c, hc, rfl⟩ := List.mem_map.1 hu
  exact .inr (h c hc)

theorem spelledChars_plain_append {text : List Char} (h : ∀ c ∈ text, isPlain c = true)
    (rest : List Char) : spelledChars (text ++ rest) = rawChars text ++ spelledChars rest :=
  spelledChars_raw_append (fun c hc => ((isPlain_iff c).1 (h c hc)).1) rest

end ElmClasses.ClassName
