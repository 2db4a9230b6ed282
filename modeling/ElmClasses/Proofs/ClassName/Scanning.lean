import ElmClasses.Proofs.ClassName.SpelledText

/-!
# Where the reading of a compound selector ends

`readCompound` decides in one go where an escape ends, what it spells, and where the compound
selector ends. Here each of these decisions is stated by itself, as a relation that does not say
how to find the answer.

`Takes` says what the first spelled character of a text is and what follows it. An escape is a
backslash with a character that is no hexadecimal digit, or with the longest run of at most six
digits (`IsHexRun`) and one blank behind it if there is one. Digits spell the character with that
code, and U+FFFD if no character but NUL has it (`IsCharOfCode`).

`Scans` takes one spelled character after another as long as none ends a compound selector, and
may stop anywhere. `IsLongestScan` says that a scan stopped only where it had to, at the end, in
front of a lone backslash at the end or in front of a character that ends a compound selector,
and that it went as far as any other.

## Main results

* `exists_readHex_eq`, `readHex_le`: which digits are read, and how large their number gets.
* `readEscape_eq_some_iff`: an escape is read as `Takes` says.
* `exists_isLongestScan`: a compound selector is read by a longest scan.
* `firstCompound_isLongestScan`: the same for a whole text, with what escapes spell.
-/

namespace ElmClasses.ClassName

open Text
open Css (readHex escapedChar)

/-- The numbers of Unicode characters but for NUL. -/
def IsScalar (code : Nat) : Prop :=
  0 < code ∧ (code < 0xD800 ∨ 0xDFFF < code ∧ code ≤ 0x10FFFF)

/-- The character that a hexadecimal escape with a code spells. -/
structure IsCharOfCode (code : Nat) (c : Char) : Prop where
  scalar : IsScalar code → c.toNat = code
  other : ¬ IsScalar code → c = '\uFFFD'

theorem isScalar_iff (code : Nat) : IsScalar code ↔ code.isValidChar ∧ code ≠ 0 := by
  unfold IsScalar Nat.isValidChar
  omega

theorem isCharOfCode_escapedChar (code : Nat) : IsCharOfCode code (escapedChar code) where
  scalar h := by
    obtain ⟨hvalid, hne⟩ := (isScalar_iff code).1 h
    rw [escapedChar, dif_pos hvalid, if_neg hne]
    rfl
  other h := by
    rw [isScalar_iff, not_and, not_not] at h
    by_cases hvalid : code.isValidChar
    · rw [escapedChar, dif_pos hvalid, if_pos (h hvalid)]
    · rw [escapedChar, dif_neg hvalid]

theorem isCharOfCode_iff (code : Nat) (c : Char) :
    IsCharOfCode code c ↔ c = escapedChar code := by
  constructor
  · intro h
    by_cases hscalar : IsScalar code
    · apply Char.toNat_inj.1
      rw [h.scalar hscalar, (isCharOfCode_escapedChar code).scalar hscalar]
    · rw [h.other hscalar, (isCharOfCode_escapedChar code).other hscalar]
  · rintro rfl
    exact isCharOfCode_escapedChar code

theorem IsCharOfCode.ne_nul {code : Nat} {c : Char} (h : IsCharOfCode code c) : c ≠ '\x00' := by
  rintro rfl
  by_cases hscalar : IsScalar code
  · have hzero : 0 = code := h.scalar hscalar
    exact Nat.ne_of_lt hscalar.1 hzero
  · exact absurd (h.other hscalar) (by decide)

/-- `digits` is the longest run of at most `limit` hexadecimal digits before `rest`. -/
structure IsHexRun (limit : Nat) (digits rest : List Char) : Prop where
  isDigit : ∀ c ∈ digits, (hexValue? c).isSome
  length_le : digits.length ≤ limit
  longest : digits.length < limit → ∀ c ∈ rest.head?, hexValue? c = none

theorem IsHexRun.cons {limit : Nat} {c : Char} {digits rest : List Char}
    (hc : (hexValue? c).isSome) (h : IsHexRun limit digits rest) :
    IsHexRun (limit + 1) (c :: digits) rest where
  isDigit := List.forall_mem_cons.2 ⟨hc, h.isDigit⟩
  length_le := Nat.succ_le_succ h.length_le
  longest hlt := h.longest (Nat.lt_of_succ_lt_succ hlt)

/-- **Digits are read as far as they go**, and their number is the one they write. -/
theorem exists_readHex_eq (limit value : Nat) (cs : List Char) :
    ∃ digits rest, cs = digits ++ rest ∧ IsHexRun limit digits rest ∧
      readHex limit value cs = (hexNumberFrom value digits, rest) := by
  fun_induction readHex limit value cs with
  | case1 limit value c cs digit hdigit ih =>
      obtain ⟨digits, rest, rfl, hrun, hread⟩ := ih
      refine ⟨c :: digits, rest, rfl, hrun.cons (by simp [hdigit]), ?_⟩
      rw [hread]
      simp [hexNumberFrom, hdigit]
  | case2 limit value c cs hnone =>
      exact ⟨[], c :: cs, rfl, ⟨by simp, Nat.zero_le _, by simp [hnone]⟩, rfl⟩
  | case3 limit value cs hother =>
      refine ⟨[], cs, rfl, ⟨by simp, Nat.zero_le _, ?_⟩, rfl⟩
      intro hlt c hc
      cases limit with
      | zero => cases hlt
      | succ limit =>
          cases cs with
          | nil => cases hc
          | cons d ds => exact (hother limit d ds rfl rfl).elim

/-- Every digit makes a number at most sixteen times as large. -/
theorem hexNumberFrom_lt {value k : Nat} (hvalue : value < 16 ^ k) (digits : List Char) :
    hexNumberFrom value digits < 16 ^ (k + digits.length) := by
  induction digits generalizing value k with
  | nil => exact hvalue
  | cons c cs ih =>
      have hdigit : (hexValue? c).getD 0 < 16 := by
        cases hc : hexValue? c with
        | none => decide
        | some n => exact hexValue?_lt hc
      have hstep : value * 16 + (hexValue? c).getD 0 < 16 ^ (k + 1) := by
        rw [Nat.pow_succ]
        omega
      have htail := ih hstep
      rwa [Nat.add_assoc, Nat.add_comm 1] at htail

/-- **The digits of an escape never overflow.** After each of them their number has at most six
digits. -/
theorem readHex_le {limit : Nat} (hlimit : limit ≤ 5) {c : Char} {digit : Nat}
    (hdigit : hexValue? c = some digit) (cs : List Char) :
    (readHex limit digit cs).1 ≤ 0xFFFFFF := by
  obtain ⟨digits, rest, -, hrun, hread⟩ := exists_readHex_eq limit digit cs
  have hlt : hexNumberFrom digit digits < 16 ^ (1 + digits.length) :=
    hexNumberFrom_lt (hexValue?_lt hdigit) digits
  have hlength : 1 + digits.length ≤ 6 := by
    have := hrun.length_le
    omega
  have hpow : 16 ^ (1 + digits.length) ≤ 16 ^ 6 := Nat.pow_le_pow_right (by decide) hlength
  rw [hread]
  exact Nat.le_of_lt_succ (Nat.lt_of_lt_of_le hlt hpow)

/-! ## The first spelled character -/

/-- The text starts with a spelled character, and what follows it is left. -/
inductive Takes : List Char → SpelledChar → List Char → Prop
  | itself {c : Char} {rest : List Char} (hc : c ≠ '\\') : Takes (c :: rest) ⟨c, false⟩ rest
  | backslash {c : Char} {rest : List Char} (hc : hexValue? c = none) :
      Takes ('\\' :: c :: rest) ⟨c, true⟩ rest
  | number {digits rest : List Char} {c : Char} (hne : digits ≠ [])
      (hrun : IsHexRun 6 digits rest) (hrest : ∀ b ∈ rest.head?, isBlank b = false)
      (hcode : IsCharOfCode (hexNumberFrom 0 digits) c) :
      Takes ('\\' :: (digits ++ rest)) ⟨c, true⟩ rest
  | numberBlank {digits rest : List Char} {b c : Char} (hne : digits ≠ [])
      (hrun : IsHexRun 6 digits (b :: rest)) (hb : isBlank b = true)
      (hcode : IsCharOfCode (hexNumberFrom 0 digits) c) :
      Takes ('\\' :: (digits ++ b :: rest)) ⟨c, true⟩ rest

theorem readEscape_eq_none_iff (cs : List Char) : readEscape cs = none ↔ cs = [] := by
  cases cs with
  | nil => simp [readEscape]
  | cons c cs =>
      simp only [readEscape]
      split <;> simp

/-- A run of digits is read as the character with their code. -/
theorem IsHexRun.readEscape_eq {digits rest : List Char} (h : IsHexRun 6 digits rest)
    (hne : digits ≠ []) : readEscape (digits ++ rest) =
      some (escapedChar (hexNumberFrom 0 digits), dropBlank rest) :=
  readEscape_digits hne ((isOpenEscape_iff digits).2 ⟨h.length_le, h.isDigit⟩) h.longest

/-- Behind a run of digits one blank is dropped. -/
theorem IsHexRun.takes {digits more : List Char} (h : IsHexRun 6 digits more)
    (hne : digits ≠ []) : Takes ('\\' :: (digits ++ more))
      ⟨escapedChar (hexNumberFrom 0 digits), true⟩ (dropBlank more) := by
  have hcode := isCharOfCode_escapedChar (hexNumberFrom 0 digits)
  cases more with
  | nil => exact .number hne h (by simp) hcode
  | cons b bs =>
      cases hb : isBlank b with
      | true =>
          simp only [dropBlank, hb, if_true]
          exact .numberBlank hne h hb hcode
      | false =>
          have hrest : ∀ a ∈ (b :: bs).head?, isBlank a = false := by simp [hb]
          rw [dropBlank_eq_self hrest]
          exact .number hne h hrest hcode

/-- **An escape is read as the relation says**, and spells one character. -/
theorem readEscape_eq_some_iff (cs : List Char) (c : Char) (rest : List Char) :
    readEscape cs = some (c, rest) ↔ Takes ('\\' :: cs) ⟨c, true⟩ rest := by
  constructor
  · intro h
    cases cs with
    | nil => cases h
    | cons d ds =>
        cases hd : hexValue? d with
        | none =>
            obtain ⟨rfl, rfl⟩ : d = c ∧ ds = rest := by simpa [readEscape, hd] using h
            exact .backslash hd
        | some digit =>
            obtain ⟨digits, more, rfl, hrun, -⟩ := exists_readHex_eq 5 digit ds
            have hrun : IsHexRun 6 (d :: digits) more := hrun.cons (by simp [hd])
            have hne : d :: digits ≠ [] := List.cons_ne_nil d digits
            obtain ⟨rfl, rfl⟩ : escapedChar (hexNumberFrom 0 (d :: digits)) = c ∧
                dropBlank more = rest := by
              simpa using (hrun.readEscape_eq hne).symm.trans h
            exact hrun.takes hne
  · intro h
    cases h with
    | backslash hc => simp [readEscape, hc]
    | number hne hrun hrest hcode =>
        rw [hrun.readEscape_eq hne, (isCharOfCode_iff _ _).1 hcode, dropBlank_eq_self hrest]
    | numberBlank hne hrun hb hcode =>
        rw [hrun.readEscape_eq hne, (isCharOfCode_iff _ _).1 hcode]
        simp [dropBlank, hb]

theorem takes_raw_iff {c : Char} (hc : c ≠ '\\') (cs : List Char) (u : SpelledChar)
    (rest : List Char) : Takes (c :: cs) u rest ↔ u = ⟨c, false⟩ ∧ rest = cs := by
  constructor
  · intro h
    cases h with
    | itself => exact ⟨rfl, rfl⟩
    | backslash => exact absurd rfl hc
    | number => exact absurd rfl hc
    | numberBlank => exact absurd rfl hc
  · rintro ⟨rfl, rfl⟩
    exact .itself hc

theorem takes_backslash_iff (cs : List Char) (u : SpelledChar) (rest : List Char) :
    Takes ('\\' :: cs) u rest ↔ u.escaped = true ∧ readEscape cs = some (u.char, rest) := by
  obtain ⟨c, escaped⟩ := u
  cases escaped with
  | true => simp [readEscape_eq_some_iff]
  | false =>
      simp only [Bool.false_eq_true, false_and, iff_false]
      intro h
      cases h with
      | itself hc => exact hc rfl

namespace Takes

variable {text rest : List Char} {u : SpelledChar}

/-- A text starts with one spelled character at most. -/
theorem unique {v : SpelledChar} {behind : List Char} (h : Takes text u rest)
    (h' : Takes text v behind) : u = v ∧ rest = behind := by
  cases text with
  | nil => cases h
  | cons c cs =>
      by_cases hc : c = '\\'
      · subst hc
        obtain ⟨hu, hread⟩ := (takes_backslash_iff cs u rest).1 h
        obtain ⟨hv, hread'⟩ := (takes_backslash_iff cs v behind).1 h'
        obtain ⟨hchar, hrest⟩ : u.char = v.char ∧ rest = behind := by
          simpa using hread.symm.trans hread'
        obtain ⟨uc, ue⟩ := u
        obtain ⟨vc, ve⟩ := v
        subst hu hv hchar
        exact ⟨rfl, hrest⟩
      · obtain ⟨rfl, rfl⟩ := (takes_raw_iff hc cs u rest).1 h
        obtain ⟨rfl, rfl⟩ := (takes_raw_iff hc _ v behind).1 h'
        exact ⟨rfl, rfl⟩

theorem isSuffix (h : Takes text u rest) : rest <:+ text := by
  cases h with
  | itself => exact List.suffix_cons _ _
  | backslash => exact (List.suffix_cons _ _).trans (List.suffix_cons _ _)
  | number => exact (List.suffix_append _ _).trans (List.suffix_cons _ _)
  | numberBlank =>
      exact (List.suffix_cons _ _).trans ((List.suffix_append _ _).trans (List.suffix_cons _ _))

/-- No escape makes a NUL. -/
theorem nul_mem (h : Takes text u rest) (hu : u.char = '\x00') : '\x00' ∈ text := by
  cases h with
  | itself => simpa using Or.inl hu.symm
  | backslash => simpa using Or.inl hu.symm
  | number _ _ _ hcode => exact absurd hu hcode.ne_nul
  | numberBlank _ _ _ hcode => exact absurd hu hcode.ne_nul

end Takes

/-! ## Scans -/

/-- A spelled character ends a compound selector at a parenthesis depth. -/
def EndsAt (depth : Nat) (u : SpelledChar) : Prop :=
  depth = 0 ∧ u.escaped = false ∧ endsCompound u.char = true

/-- From a parenthesis depth on, the text starts with spelled characters of which none ends a
compound selector, and what follows them is left. -/
inductive Scans : Nat → List Char → List SpelledChar → List Char → Prop
  | done {depth : Nat} {text : List Char} : Scans depth text [] text
  | next {depth : Nat} {text behind rest : List Char} {u : SpelledChar}
      {us : List SpelledChar} (hu : Takes text u behind) (hgoes : ¬ EndsAt depth u)
      (hus : Scans (u.depthAfter depth) behind us rest) : Scans depth text (u :: us) rest

namespace Scans

variable {depth : Nat} {text rest : List Char} {us : List SpelledChar}

theorem isSuffix (h : Scans depth text us rest) : rest <:+ text := by
  induction h with
  | done => exact List.suffix_rfl
  | next hu _ _ ih => exact ih.trans hu.isSuffix

theorem nul_mem (h : Scans depth text us rest) {u : SpelledChar} (hu : u ∈ us)
    (hnul : u.char = '\x00') : '\x00' ∈ text := by
  induction h with
  | done => cases hu
  | next htakes _ _ ih =>
      rcases List.mem_cons.1 hu with rfl | hu
      · exact htakes.nul_mem hnul
      · exact htakes.isSuffix.subset (ih hu)

end Scans

/-- A scan cannot go on in front of a text: there is nothing, a lone backslash, or a character
that ends a compound selector. -/
def StopsAt (depth : Nat) (text : List Char) : Prop :=
  text = [] ∨ text = ['\\'] ∨ ∃ u behind, Takes text u behind ∧ EndsAt depth u

/-- A scan that went as far as it could. -/
structure IsLongestScan (depth : Nat) (text : List Char) (us : List SpelledChar)
    (rest : List Char) : Prop where
  scans : Scans depth text us rest
  stops : StopsAt (depthBehind depth us) rest
  /-- Every scan of the text is the start of this one. -/
  longest : ∀ vs behind, Scans depth text vs behind → vs <+: us ∧ rest <:+ behind

namespace IsLongestScan

variable {depth : Nat} {text : List Char}

theorem done (hstops : StopsAt depth text) : IsLongestScan depth text [] text where
  scans := .done
  stops := hstops
  longest := by
    intro vs behind hscan
    cases hscan with
    | done => exact ⟨List.prefix_rfl, List.suffix_rfl⟩
    | next hu hgoes =>
        rcases hstops with rfl | rfl | ⟨v, more, hv, hends⟩
        · cases hu
        · have hread := ((takes_backslash_iff [] _ _).1 hu).2
          cases hread
        · obtain ⟨rfl, -⟩ := hu.unique hv
          exact absurd hends hgoes

theorem next {rest behind : List Char} {u : SpelledChar} {us : List SpelledChar}
    (hu : Takes text u behind) (hgoes : ¬ EndsAt depth u)
    (h : IsLongestScan (u.depthAfter depth) behind us rest) :
    IsLongestScan depth text (u :: us) rest where
  scans := .next hu hgoes h.scans
  stops := h.stops
  longest := by
    intro vs more hscan
    cases hscan with
    | done => exact ⟨List.nil_prefix, h.scans.isSuffix.trans hu.isSuffix⟩
    | next hv _ hvs =>
        obtain ⟨rfl, rfl⟩ := hu.unique hv
        obtain ⟨hstart, hleft⟩ := h.longest _ _ hvs
        exact ⟨(List.prefix_cons_inj _).2 hstart, hleft⟩

end IsLongestScan

/-- **A compound selector is read by a longest scan.** -/
theorem exists_isLongestScan (depth : Nat) (text : List Char) :
    ∃ rest, IsLongestScan depth text (readCompound depth text) rest := by
  induction depth, text using readCompound.induct with
  | case1 depth =>
      rw [readCompound]
      exact ⟨[], .done (.inl rfl)⟩
  | case2 depth cs hread =>
      obtain rfl := (readEscape_eq_none_iff cs).1 hread
      refine ⟨['\\'], ?_⟩
      rw [readCompound]
      exact .done (.inr (.inl rfl))
  | case3 depth cs e behind hread _ ih =>
      obtain ⟨rest, hlongest⟩ := ih
      have htakes : Takes ('\\' :: cs) ⟨e, true⟩ behind := (readEscape_eq_some_iff _ _ _).1 hread
      have hgoes : ¬ EndsAt depth ⟨e, true⟩ := fun h => Bool.false_ne_true h.2.1.symm
      refine ⟨rest, ?_⟩
      rw [readCompound_escape depth hread]
      exact .next htakes hgoes hlongest
  | case4 depth c cs hc hends =>
      refine ⟨c :: cs, ?_⟩
      rw [readCompound, if_neg hc, if_pos hends]
      exact .done (.inr (.inr ⟨⟨c, false⟩, cs, .itself hc, hends.1, rfl, hends.2⟩))
  | case5 depth c cs hc hends ih =>
      obtain ⟨rest, hlongest⟩ := ih
      have hgoes : ¬ EndsAt depth ⟨c, false⟩ := fun h => hends ⟨h.1, h.2.2⟩
      refine ⟨rest, ?_⟩
      rw [readCompound, if_neg hc, if_neg hends]
      exact .next (.itself hc) hgoes hlongest

/-- **The first compound selector goes as far as it can, and every escape in it spells one
character.** Only where nothing follows a backslash there is no escape. With a smaller limit
`readHex` stops after fewer digits, so the bound is on the number that the digits of an escape
make and on every number on the way there. -/
theorem firstCompound_isLongestScan (text : List Char) :
    (∃ rest, IsLongestScan 0 text (firstCompound text) rest) ∧
      (∀ u ∈ firstCompound text, u.char = '\x00' → '\x00' ∈ text) ∧
      (∀ cs, readEscape cs = none ↔ cs = []) ∧
      (∀ cs c rest, readEscape cs = some (c, rest) ↔ Takes ('\\' :: cs) ⟨c, true⟩ rest) ∧
      ∀ limit ≤ 5, ∀ c digit cs, hexValue? c = some digit →
        (readHex limit digit cs).1 ≤ 0xFFFFFF := by
  obtain ⟨rest, hlongest⟩ := exists_isLongestScan 0 text
  exact ⟨⟨rest, hlongest⟩, fun u hu hnul => hlongest.scans.nul_mem hu hnul,
    readEscape_eq_none_iff, readEscape_eq_some_iff,
    fun limit hlimit c digit cs hdigit => readHex_le hlimit hdigit cs⟩

end ElmClasses.ClassName
