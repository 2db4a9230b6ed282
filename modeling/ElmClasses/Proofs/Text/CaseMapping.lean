import ElmClasses.Dictionary
import ElmClasses.Proofs.Text.Basic
import ElmClasses.Text.CharClass
import ElmClasses.Text.LetterCase

/-!
# What case mappings give

The case mappings and the character properties are tables of runs, made one by one from
the Unicode data. This module says how they fit together. What stands for a character in
lower case is a letter or a numeral, is no capital, and is a numeral only if the character
is one (`lowercase_cases`). What stands for a character in upper case is an ASCII capital
or lies beyond ASCII (`uppercase_cases`).

Neither is a matter of looking at every character. A case run moves all its members by one
distance, so its images form a run again, and one comparison of ends settles that a run
lies within another one or has nothing in common with it. The only runs that overlap
without common members take every second code point each, one the even and one the odd
ones. The tables come in blocks, and a run need not be compared with the runs of a block
that lies elsewhere (`covers_eq_false_of_isApart`).

## Main results

* `lowercase_cases`: what stands for a character in lower case.
* `uppercase_cases`: what stands for a character in upper case.
-/

namespace ElmClasses.Text

open LetterCase

namespace CharRun

/-- Whether a run without gaps covers everything from the first to the last member of
another one. -/
def isWithin (run other : CharRun) : Bool :=
  Nat.ble other.first run.first && Nat.ble run.last other.last && other.step == 1

/-- Whether two runs are told apart by their ends, or by being even and odd. -/
def isApart (run other : CharRun) : Bool :=
  Nat.blt run.last other.first || Nat.blt other.last run.first ||
    (run.step == 2 && (other.step == 2 || other.first == other.last) &&
      (run.first + other.first) % 2 == 1)

/-- Whether all members of a run are code points of characters. -/
def isScalar (run : CharRun) : Bool :=
  run.last < 0xD800 || (0xDFFF < run.first && run.last < 0x110000)

variable {run other : CharRun} {n : Nat}

theorem covers_iff :
    run.covers n = true ↔ run.first ≤ n ∧ n ≤ run.last ∧ (n - run.first) % run.step = 0 := by
  simp only [covers, Bool.and_eq_true, decide_eq_true_eq, beq_iff_eq, and_assoc]

theorem covers_of_isWithin (h : run.isWithin other = true) (hn : run.covers n = true) :
    other.covers n = true := by
  simp only [isWithin, Bool.and_eq_true, Nat.ble_eq, beq_iff_eq] at h
  obtain ⟨⟨hfirst, hlast⟩, hstep⟩ := h
  obtain ⟨hn, hn', -⟩ := covers_iff.1 hn
  exact covers_iff.2 ⟨by omega, by omega, by rw [hstep, Nat.mod_one]⟩

theorem covers_of_isApart (h : run.isApart other = true) (hn : run.covers n = true) :
    other.covers n = false := by
  rw [Bool.eq_false_iff]
  intro hother
  obtain ⟨hfirst, hlast, hstep⟩ := covers_iff.1 hn
  obtain ⟨hfirst', hlast', hstep'⟩ := covers_iff.1 hother
  simp only [isApart, Bool.or_eq_true, Bool.and_eq_true, Nat.blt_eq, beq_iff_eq] at h
  rcases h with (h | h) | ⟨⟨htwo, hother⟩, hodd⟩
  · omega
  · omega
  · rw [htwo] at hstep
    rcases hother with hother | hother
    · rw [hother] at hstep'
      omega
    · omega

theorem toNat_ofNat_of_isScalar (h : run.isScalar = true) (hn : run.covers n = true) :
    (Char.ofNat n).toNat = n := by
  simp only [isScalar, Bool.or_eq_true, Bool.and_eq_true, decide_eq_true_eq] at h
  obtain ⟨hfirst, hlast, -⟩ := covers_iff.1 hn
  have hvalid : n.isValidChar := by
    unfold Nat.isValidChar
    omega
  rw [Char.ofNat, dif_pos hvalid]
  rfl

end CharRun

namespace CaseRun

/-- Where a case run sends its members. -/
def images (run : CaseRun) : CharRun :=
  ⟨run.image, run.image + (run.last - run.first), run.step⟩

theorem covers_images {run : CaseRun} {n m : Nat} (h : run.imageOf? n = some m) :
    run.covers n = true ∧ run.images.covers m = true := by
  unfold imageOf? at h
  split at h
  · next hn =>
      obtain rfl := Option.some.inj h
      obtain ⟨hfirst, hlast, hstep⟩ := CharRun.covers_iff.1 hn
      refine ⟨hn, CharRun.covers_iff.2 ⟨?_, ?_, ?_⟩⟩
      · exact Nat.le_add_right _ _
      · show run.image + (n - run.first) ≤ run.image + (run.last - run.first)
        omega
      · show (run.image + (n - run.first) - run.image) % run.step = 0
        rwa [Nat.add_sub_cancel_left]
  · cases h

/-- A run of one member has one image. -/
theorem eq_image_of_covers {run : CaseRun} {n : Nat} (h : run.first = run.last)
    (hn : run.images.covers n = true) : n = run.image := by
  obtain ⟨hfirst, hlast, -⟩ := CharRun.covers_iff.1 hn
  simp only [images] at hfirst hlast
  omega

/-- Images beyond ASCII are the characters that their code points stand for. -/
theorem le_toNat_ofNat {run : CaseRun} {n : Nat} (h : ¬ run.image < 0x80)
    (hscalar : run.images.isScalar = true) (hn : run.images.covers n = true) :
    (Char.ofNat n).toNat = n ∧ 0x80 ≤ (Char.ofNat n).toNat := by
  have hcode := CharRun.toNat_ofNat_of_isScalar hscalar hn
  obtain ⟨hfirst, -⟩ := CharRun.covers_iff.1 hn
  simp only [images] at hfirst
  exact ⟨hcode, by omega⟩

end CaseRun

/-- A character is mapped by one of the runs, or is its own image. -/
theorem mapped_cases (runs : List CaseRun) (c : Char) :
    mapped runs c = c ∨
      ∃ run ∈ runs, ∃ n, run.imageOf? c.toNat = some n ∧ mapped runs c = Char.ofNat n := by
  unfold mapped
  split
  · next n hn =>
      obtain ⟨run, hrun, himage⟩ := List.exists_of_findSome?_eq_some hn
      exact .inr ⟨run, hrun, n, himage, rfl⟩
  · exact .inl rfl

/-! ## Tables -/

/-- A part of a table: the runs between two code points. -/
structure CharBlock where
  first : Nat
  last : Nat
  runs : List CharRun

namespace CharBlock

/-- The blocks that a table of code points beyond ASCII consists of. -/
def ofTable (low ext bmp smp indic high : List CharRun) : List CharBlock := [
  ⟨0x80, 0xFFF, low⟩, ⟨0x1000, 0x1FFF, ext⟩, ⟨0x2000, 0xFFFF, bmp⟩, ⟨0x10000, 0x10FFF, smp⟩,
  ⟨0x11000, 0x15FFF, indic⟩, ⟨0x16000, 0x10FFFF, high⟩]

/-- Whether some run of a table covers a code point. -/
def covers (blocks : List CharBlock) (n : Nat) : Bool :=
  blocks.any fun block => block.runs.any (·.covers n)

/-- Whether the runs of a block lie between its ends. -/
def isClosed (block : CharBlock) : Bool :=
  block.runs.all fun run => Nat.ble block.first run.first && Nat.ble run.last block.last

/-- Whether a run lies within one of a table. -/
def holds (blocks : List CharBlock) (run : CharRun) : Bool :=
  blocks.any fun block =>
    Nat.ble block.first run.first && Nat.ble run.first block.last && block.runs.any run.isWithin

/-- Whether a run is told apart from all runs of a table, by the ends of their block or by
their own. -/
def isApart (blocks : List CharBlock) (run : CharRun) : Bool :=
  blocks.all fun block =>
    Nat.blt run.last block.first || Nat.blt block.last run.first || block.runs.all run.isApart

variable {blocks : List CharBlock} {run : CharRun} {n : Nat}

theorem covers_of_holds (h : holds blocks run = true) (hn : run.covers n = true) :
    covers blocks n = true := by
  obtain ⟨block, hblock, hwithin⟩ := List.any_eq_true.1 h
  obtain ⟨other, hother, hwithin⟩ := List.any_eq_true.1 (Bool.and_eq_true _ _ ▸ hwithin).2
  refine List.any_eq_true.2 ⟨block, hblock, List.any_eq_true.2 ⟨other, hother, ?_⟩⟩
  exact CharRun.covers_of_isWithin hwithin hn

theorem covers_eq_false_of_isApart (hclosed : ∀ block ∈ blocks, block.isClosed = true)
    (h : isApart blocks run = true) (hn : run.covers n = true) : covers blocks n = false := by
  rw [covers, List.any_eq_false]
  intro block hblock hcovered
  obtain ⟨other, hother, hcovers⟩ := List.any_eq_true.1 hcovered
  have hends := List.all_eq_true.1 (hclosed block hblock) other hother
  simp only [Bool.and_eq_true, Nat.ble_eq] at hends
  obtain ⟨hfirst, hlast, -⟩ := CharRun.covers_iff.1 hn
  obtain ⟨hfirst', hlast', -⟩ := CharRun.covers_iff.1 hcovers
  have happart := List.all_eq_true.1 h block hblock
  simp only [Bool.or_eq_true, Nat.blt_eq] at happart
  rcases happart with (hbelow | habove) | hruns
  · omega
  · omega
  · rw [CharRun.covers_of_isApart (List.all_eq_true.1 hruns other hother) hn] at hcovers
    cases hcovers

end CharBlock

/-- The alphanumeric code points beyond ASCII. -/
def Alphanumeric.blocks : List CharBlock :=
  CharBlock.ofTable runsLow runsExt runsBmp runsSmp runsIndic runsHigh

/-- The numeric code points beyond ASCII. -/
def Numeric.blocks : List CharBlock :=
  CharBlock.ofTable runsLow runsExt runsBmp runsSmp runsIndic runsHigh

/-- The upper case code points beyond ASCII. -/
def Uppercase.blocks : List CharBlock :=
  CharBlock.ofTable runsLow runsExt runsBmp runsSmp runsIndic runsHigh

theorem Numeric.isClosed_of_mem : ∀ block ∈ blocks, block.isClosed = true :=
  List.all_eq_true.1 (by decide +kernel)

theorem Uppercase.isClosed_of_mem : ∀ block ∈ blocks, block.isClosed = true :=
  List.all_eq_true.1 (by decide +kernel)

section Tables

variable {c : Char} (h : 0x80 ≤ c.toNat)
include h

theorem isAlphanumeric_eq_covers :
    isAlphanumeric c = CharBlock.covers Alphanumeric.blocks c.toNat := by
  simp [isAlphanumeric, Nat.not_lt.2 h, CharBlock.covers, Alphanumeric.blocks,
    CharBlock.ofTable, Bool.or_assoc]

theorem isNumeric_eq_covers : isNumeric c = CharBlock.covers Numeric.blocks c.toNat := by
  simp [isNumeric, Nat.not_lt.2 h, CharBlock.covers, Numeric.blocks, CharBlock.ofTable,
    Bool.or_assoc]

theorem isUppercase_eq_covers :
    isUppercase c = CharBlock.covers Uppercase.blocks c.toNat := by
  simp [isUppercase, Nat.not_lt.2 h, CharBlock.covers, Uppercase.blocks, CharBlock.ofTable,
    Bool.or_assoc]

end Tables

/-! ## Lower case and upper case -/

/-- What can stand for a character in lower case. -/
structure IsLowerForm (c d : Char) : Prop where
  isAlphanumeric_eq : isAlphanumeric d = true
  isUppercase_eq : isUppercase d = false
  isNumeric_of : isNumeric d = true → isNumeric c = true

theorem IsLowerForm.of_isLower {c d : Char} (h : d.isLower = true) : IsLowerForm c d := by
  have hascii := toNat_lt_of_isLower h
  obtain ⟨hupper, hdigit⟩ := (case_of_ascii hascii).2.2.2.2 h
  refine ⟨?_, ?_, ?_⟩
  · have halpha : d.isAlpha = (d.isUpper || d.isLower) := rfl
    rw [isAlphanumeric_of_ascii hascii, Char.isAlphanum, halpha, h, Bool.or_true, Bool.true_or]
  · rwa [isUppercase_of_ascii hascii]
  · rw [isNumeric_of_ascii hascii, hdigit]
    exact fun hfalse => absurd hfalse Bool.false_ne_true

/-- Whether a run sends its members to what can stand for them in lower case: one of them
to an ASCII letter, or all of them to such characters beyond ASCII. -/
def CaseRun.isLowering (run : CaseRun) : Bool :=
  if run.image < 0x80 then run.first == run.last && (Char.ofNat run.image).isLower
  else
    run.images.isScalar && CharBlock.holds Alphanumeric.blocks run.images &&
      CharBlock.isApart Uppercase.blocks run.images &&
      (CharBlock.isApart Numeric.blocks run.images ||
        CharBlock.holds Numeric.blocks run.toCharRun)

theorem isLowering_of_mem {run : CaseRun} (h : run ∈ lowerRunsLow ++ lowerRunsHigh) :
    run.isLowering = true := by
  have hall : (lowerRunsLow ++ lowerRunsHigh).all CaseRun.isLowering = true := by
    decide +kernel
  exact List.all_eq_true.1 hall run h

theorem IsLowerForm.of_isLowering {run : CaseRun} (hrun : run.isLowering = true) {c : Char}
    (hc : 0x80 ≤ c.toNat) {n : Nat} (hn : run.imageOf? c.toNat = some n) :
    IsLowerForm c (Char.ofNat n) := by
  obtain ⟨hcovers, himage⟩ := CaseRun.covers_images hn
  unfold CaseRun.isLowering at hrun
  split at hrun
  · rw [Bool.and_eq_true, beq_iff_eq] at hrun
    rw [CaseRun.eq_image_of_covers hrun.1 himage]
    exact .of_isLower hrun.2
  · next hbeyond =>
      simp only [Bool.and_eq_true] at hrun
      obtain ⟨⟨⟨hscalar, halnum⟩, hupper⟩, hnumeric⟩ := hrun
      obtain ⟨hcode, hd⟩ := CaseRun.le_toNat_ofNat hbeyond hscalar himage
      refine ⟨?_, ?_, ?_⟩
      · rw [isAlphanumeric_eq_covers hd, hcode]
        exact CharBlock.covers_of_holds halnum himage
      · rw [isUppercase_eq_covers hd, hcode]
        exact CharBlock.covers_eq_false_of_isApart Uppercase.isClosed_of_mem hupper himage
      · rw [isNumeric_eq_covers hd, isNumeric_eq_covers hc, hcode]
        intro hcovered
        rcases Bool.or_eq_true _ _ ▸ hnumeric with hapart | hholds
        · rw [CharBlock.covers_eq_false_of_isApart Numeric.isClosed_of_mem hapart himage]
            at hcovered
          cases hcovered
        · exact CharBlock.covers_of_holds hholds hcovers

/-- **What stands for a character in lower case**: the character itself, or one lower case
form. Only `İ` has two characters there. -/
theorem lowercase_cases (c : Char) :
    lowercase c = [c] ∨ c = 'İ' ∨ ∃ d, lowercase c = [d] ∧ IsLowerForm c d := by
  by_cases hascii : c.toNat < 0x80
  · obtain ⟨hletter, hother, -⟩ := case_of_ascii hascii
    rw [lowercase_of_ascii hascii]
    cases hupper : c.isUpper with
    | true => exact .inr (.inr ⟨_, rfl, .of_isLower (hletter hupper)⟩)
    | false => exact .inl (by rw [hother hupper])
  · by_cases hdotted : c = 'İ'
    · exact .inr (.inl hdotted)
    · have hlower : lowercase c = [mapped (lowerRunsLow ++ lowerRunsHigh) c] := by
        simp only [lowercase, if_neg hascii, if_neg hdotted]
      rw [hlower]
      rcases mapped_cases (lowerRunsLow ++ lowerRunsHigh) c with hsame | ⟨run, hrun, n, hn, hmap⟩
      · exact .inl (by rw [hsame])
      · refine .inr (.inr ⟨_, rfl, ?_⟩)
        rw [hmap]
        exact .of_isLowering (isLowering_of_mem hrun) (Nat.not_lt.1 hascii) hn

/-- What can stand for a character in upper case, if it is another one. -/
def IsUpperForm (d : Char) : Prop :=
  d.isUpper = true ∨ 0x80 ≤ d.toNat

instance (d : Char) : Decidable (IsUpperForm d) :=
  inferInstanceAs (Decidable (_ ∨ _))

/-- Whether a run sends its members to what can stand for them in upper case. -/
def CaseRun.isRaising (run : CaseRun) : Bool :=
  if run.image < 0x80 then run.first == run.last && (Char.ofNat run.image).isUpper
  else run.images.isScalar

theorem isRaising_of_mem {run : CaseRun} (h : run ∈ upperRunsLow ++ upperRunsHigh) :
    run.isRaising = true := by
  have hall : (upperRunsLow ++ upperRunsHigh).all CaseRun.isRaising = true := by
    decide +kernel
  exact List.all_eq_true.1 hall run h

theorem IsUpperForm.of_isRaising {run : CaseRun} (hrun : run.isRaising = true) {m n : Nat}
    (hn : run.imageOf? m = some n) : IsUpperForm (Char.ofNat n) := by
  obtain ⟨-, himage⟩ := CaseRun.covers_images hn
  unfold CaseRun.isRaising at hrun
  split at hrun
  · rw [Bool.and_eq_true, beq_iff_eq] at hrun
    rw [CaseRun.eq_image_of_covers hrun.1 himage]
    exact .inl hrun.2
  · next hbeyond => exact .inr (CaseRun.le_toNat_ofNat hbeyond hrun himage).2

theorem upperExpansions_spec {c : Char} {expansion : List Char}
    (h : (c, expansion) ∈ upperExpansions) :
    expansion ≠ [] ∧ ∀ d ∈ expansion, IsUpperForm d := by
  have hall : upperExpansions.all (fun e =>
      e.2 != [] && e.2.all fun d => decide (IsUpperForm d)) = true := by
    decide +kernel
  have hentry := List.all_eq_true.1 hall _ h
  simp only [Bool.and_eq_true, bne_iff_ne] at hentry
  exact ⟨hentry.1, forall_mem_of_all hentry.2⟩

/-- **What stands for a character in upper case**: the character itself, or one or more
upper case forms. -/
theorem uppercase_cases (c : Char) :
    uppercase c = [c] ∨ uppercase c ≠ [] ∧ ∀ d ∈ uppercase c, IsUpperForm d := by
  by_cases hascii : c.toNat < 0x80
  · obtain ⟨-, -, hletter, hother, -⟩ := case_of_ascii hascii
    rw [uppercase_of_ascii hascii]
    cases hlower : c.isLower with
    | true => exact .inr ⟨by simp, List.forall_mem_singleton.2 (.inl (hletter hlower))⟩
    | false => exact .inl (by rw [hother hlower])
  · unfold uppercase
    rw [if_neg hascii]
    split
    · next expansion hexpansion =>
        exact .inr (upperExpansions_spec (mem_of_lookup_eq_some hexpansion))
    · rcases mapped_cases (upperRunsLow ++ upperRunsHigh) c with hsame | ⟨run, hrun, n, hn, hmap⟩
      · exact .inl (by rw [hsame])
      · refine .inr ⟨by simp, ?_⟩
        rw [List.forall_mem_singleton, hmap]
        exact .of_isRaising (isRaising_of_mem hrun) hn

end ElmClasses.Text
