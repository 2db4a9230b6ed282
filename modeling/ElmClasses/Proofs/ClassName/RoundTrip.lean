import Mathlib.Data.List.TakeWhile
import ElmClasses.Proofs.ClassName.Segments

/-!
# Every spelling of a class name is undone

A style sheet can spell one class name in many ways. Each character stands for
itself, unless it means something in a selector, or behind a backslash, unless
it is a hexadecimal digit, or as a hexadecimal escape of up to six digits, with a
blank behind it or without. The last form depends on what follows: without a
blank the escape must not be continued by the next character of the selector,
which may belong to the spelling of another character.

`SpellsChar`, `SpellsText` and `SpellsSegments` describe the spellings of a
character, a text, and several texts with raw colons between them. The main
result, `ofSelector_spelled`, says that a selector that spells a class name in
any of these ways reads back as exactly that name. What is escaped never becomes
structure again, neither where the compound selector is cut nor where it is
divided, because `SpelledChar` remembers the escape.
-/

namespace ElmClasses.ClassName

open Text
open Css (escapedChar)

/-- One to six hexadecimal digits of either case, leading zeros among them or not,
that write the code point of a character other than NUL. -/
structure HexSpells (digits : List Char) (c : Char) : Prop where
  ne_nil : digits ≠ []
  length_le : digits.length ≤ 6
  isDigit : ∀ d ∈ digits, (hexValue? d).isSome
  number_eq : hexNumberFrom 0 digits = c.toNat
  ne_nul : c ≠ '\x00'

/-- The spellings of a character in front of the rest of a selector. -/
inductive SpellsChar (rest : List Char) : Char → List Char → Prop where
  | itself {c : Char} (hplain : isPlain c = true) : SpellsChar rest c [c]
  | backslash {c : Char} (hdigit : hexValue? c = none) : SpellsChar rest c ['\\', c]
  | hexBlank {c blank : Char} {digits : List Char} (hhex : HexSpells digits c)
      (hblank : isBlank blank = true) : SpellsChar rest c ('\\' :: (digits ++ [blank]))
  | hex {c : Char} {digits : List Char} (hhex : HexSpells digits c)
      (hrest : ∀ d ∈ rest.head?,
        isBlank d = false ∧ (digits.length < 6 → hexValue? d = none)) :
      SpellsChar rest c ('\\' :: digits)

/-- The spellings of a text in front of the rest of a selector. Each character is
spelled on its own. -/
inductive SpellsText (rest : List Char) : List Char → List Char → Prop where
  | nil : SpellsText rest [] []
  | cons {c : Char} {text piece spelled : List Char}
      (hchar : SpellsChar (spelled ++ rest) c piece) (htext : SpellsText rest text spelled) :
      SpellsText rest (c :: text) (piece ++ spelled)

/-- The spellings of texts with a raw colon before each but the first, up to the
end of a selector. -/
inductive SpellsSegments : List (List Char) → List Char → Prop where
  | last {text spelled : List Char} (htext : SpellsText [] text spelled) :
      SpellsSegments [text] spelled
  | cons {text spelled rest : List Char} {later : List (List Char)}
      (htext : SpellsText (':' :: rest) text spelled) (hlater : SpellsSegments later rest) :
      SpellsSegments (text :: later) (spelled ++ ':' :: rest)

/-! ## Reading a spelling -/

theorem escapedChar_toNat {c : Char} (h : c ≠ '\x00') : escapedChar c.toNat = c := by
  have hvalid : c.toNat.isValidChar := c.valid
  have hne : c.toNat ≠ 0 := by
    intro hzero
    apply h
    rw [← Char.ofNat_toNat c, hzero]
  rw [escapedChar, dif_pos hvalid, if_neg hne]
  rfl

/-- The digits of a spelling are read as the character, together with one blank. -/
theorem HexSpells.readEscape_eq {digits more : List Char} {c : Char} (h : HexSpells digits c)
    (hmore : digits.length < 6 → ∀ d ∈ more.head?, hexValue? d = none) :
    readEscape (digits ++ more) = some (c, dropBlank more) := by
  have hopen : isOpenEscape digits = true :=
    (isOpenEscape_iff digits).2 ⟨h.length_le, h.isDigit⟩
  rw [readEscape_digits h.ne_nil hopen hmore, h.number_eq, escapedChar_toNat h.ne_nul]

/-- **A spelled character is read as that character, and never as structure.** -/
theorem SpellsChar.read {rest piece : List Char} {c : Char} (h : SpellsChar rest c piece) :
    ∃ u : SpelledChar, u.char = c ∧ u.IsLiteral ∧
      spelledChars (piece ++ rest) = u :: spelledChars rest := by
  cases h with
  | itself hplain =>
      have hne := ((isPlain_iff c).1 hplain).1
      exact ⟨⟨c, false⟩, rfl, .inr hplain, spelledChars_raw hne rest⟩
  | backslash hdigit =>
      have hread : readEscape (c :: rest) = some (c, rest) := by
        simp [readEscape, hdigit]
      exact ⟨⟨c, true⟩, rfl, .inl rfl, spelledChars_escape hread⟩
  | @hexBlank blank digits hhex hblank =>
      have hread : readEscape (digits ++ blank :: rest) = some (c, rest) := by
        rw [hhex.readEscape_eq (by simp [hexValue?_of_isBlank hblank])]
        simp [dropBlank, hblank]
      refine ⟨⟨c, true⟩, rfl, .inl rfl, ?_⟩
      rw [List.cons_append, List.append_assoc]
      exact spelledChars_escape hread
  | @hex digits hhex hrest =>
      have hread : readEscape (digits ++ rest) = some (c, rest) := by
        rw [hhex.readEscape_eq fun hlt d hd => (hrest d hd).2 hlt,
          dropBlank_eq_self fun d hd => (hrest d hd).1]
      exact ⟨⟨c, true⟩, rfl, .inl rfl, spelledChars_escape hread⟩

/-- A spelled text is read as its characters, in order. -/
theorem SpellsText.read {rest text spelled : List Char} (h : SpellsText rest text spelled) :
    ∃ us : List SpelledChar, us.map SpelledChar.char = text ∧ (∀ u ∈ us, u.IsLiteral) ∧
      spelledChars (spelled ++ rest) = us ++ spelledChars rest := by
  induction h with
  | nil => exact ⟨[], rfl, by simp, rfl⟩
  | cons hchar htext ih =>
      obtain ⟨us, hus, hliteral, hread⟩ := ih
      obtain ⟨u, hu, huliteral, hpiece⟩ := hchar.read
      refine ⟨u :: us, by simp [hu, hus], ?_, ?_⟩
      · intro v hv
        rcases List.mem_cons.1 hv with rfl | hv
        · exact huliteral
        · exact hliteral v hv
      · rw [List.append_assoc, hpiece, hread]
        rfl

/-- Spelled texts with raw colons between them are read as their characters with
dividing colons between them. -/
theorem SpellsSegments.read {texts : List (List Char)} {spelled : List Char}
    (h : SpellsSegments texts spelled) :
    ∃ units : List (List SpelledChar), units.map (·.map SpelledChar.char) = texts ∧
      (∀ us ∈ units, ∀ u ∈ us, u.IsLiteral) ∧
      spelledChars spelled = [dividingColon].intercalate units := by
  induction h with
  | last htext =>
      obtain ⟨us, hus, hliteral, hread⟩ := htext.read
      refine ⟨[us], by simp [hus], by simpa using hliteral, ?_⟩
      simpa using hread
  | @cons _ _ rest later htext hlater ih =>
      obtain ⟨us, hus, hliteral, hread⟩ := htext.read
      obtain ⟨units, hunits, hall, hrest⟩ := ih
      have hne : units ≠ [] := by
        rintro rfl
        cases hlater <;> cases hunits
      refine ⟨us :: units, by simp [hus, hunits], ?_, ?_⟩
      · intro vs hvs
        rcases List.mem_cons.1 hvs with rfl | hvs
        · exact hliteral
        · exact hall vs hvs
      · rw [hread, spelledChars_colon, hrest,
          List.intercalate_cons_of_ne_nil hne, List.append_assoc]
        rfl

/-- A name that is no native pseudo selector. -/
def IsUtilityName (name : String) : Prop :=
  name ∉ nativePseudoNames ∧ ∀ vendor ∈ vendorPrefixes, ¬ vendor.toList <+: name.toList

/-- The segment of a utility name is no native pseudo selector. -/
theorem IsUtilityName.isNativePseudo_eq {name : String} (h : IsUtilityName name) :
    Segment.isNativePseudo ⟨name.toList, false, false⟩ = false := by
  have hnames : nativePseudoNames.any (fun n => name.toList == n.toList) = false := by
    rw [List.any_eq_false]
    intro n hn heq
    have hname : name = n := String.toList_inj.1 (eq_of_beq heq)
    exact h.1 (hname ▸ hn)
  have hvendors : vendorPrefixes.any (fun v => v.toList.isPrefixOf name.toList) = false := by
    rw [List.any_eq_false]
    intro vendor hvendor heq
    exact h.2 vendor hvendor (List.isPrefixOf_iff_prefix.1 heq)
  simp only [Segment.isNativePseudo, hnames, hvendors, Bool.or_self]

theorem afterDot_blanks_append {blanks : List Char} (h : ∀ b ∈ blanks, isBlank b = true)
    (text : List Char) : afterDot (blanks ++ '.' :: text) = text := by
  have hdot : ('.' :: text).dropWhile isBlank = '.' :: text :=
    List.dropWhile_cons_of_neg (by decide)
  rw [afterDot, List.dropWhile_append_of_pos h, hdot]
  rfl

/-- Joining segments is putting their texts together with colons. -/
theorem joinSegments_eq_intercalate (first : Segment) (later : List Segment) :
    joinSegments first later = [':'].intercalate ((first :: later).map Segment.text) := by
  unfold joinSegments
  induction later generalizing first with
  | nil => simp
  | cons s rest ih =>
      rw [List.map_cons, List.map_cons, List.intercalate_cons_cons, ← List.map_cons, ← ih]
      simp

/-- **Every spelling of a class name reads back as that name.** Blanks may stand
before the dot. The texts behind the first are not empty, and the last of them is
no native pseudo selector, which would not belong to the name. -/
theorem ofSelector_spelled {blanks spelled : List Char} {first : String}
    {later : List String} (hblanks : ∀ b ∈ blanks, isBlank b = true)
    (hspelled : SpellsSegments ((first :: later).map String.toList) spelled)
    (hne : ∀ name ∈ later, name ≠ "") (hlast : ∀ name ∈ later.getLast?, IsUtilityName name) :
    ofSelector (String.ofList (blanks ++ '.' :: spelled)) =
      ":".intercalate (first :: later) := by
  obtain ⟨units, hunits, hliteral, hread⟩ := hspelled.read
  cases units with
  | nil => cases hunits
  | cons us rest =>
      obtain ⟨hus, hrest⟩ := List.cons.inj hunits
      have hlater : ∀ vs ∈ rest, vs ≠ [] ∧ ∀ u ∈ vs, u.IsLiteral := by
        intro vs hvs
        refine ⟨?_, hliteral vs (List.mem_cons_of_mem us hvs)⟩
        rintro rfl
        have hempty : [] ∈ later.map String.toList := hrest ▸ List.mem_map.2 ⟨[], hvs, rfl⟩
        obtain ⟨name, hname, hnil⟩ := List.mem_map.1 hempty
        exact hne name hname (String.toList_eq_nil_iff.1 hnil)
      -- The segments are the texts that were spelled.
      have hsegments : segments (firstCompound spelled) =
          (⟨first.toList, false, false⟩,
            later.map fun name => ⟨name.toList, false, false⟩) := by
        have hmap : rest.map (fun vs => (⟨vs.map SpelledChar.char, false, false⟩ : Segment)) =
            later.map fun name => ⟨name.toList, false, false⟩ := by
          have h := congrArg (List.map fun text => (⟨text, false, false⟩ : Segment)) hrest
          simpa only [List.map_map, Function.comp_def] using h
        rw [firstCompound, readCompound_eq, hread, cutCompound_intercalate hliteral, segments,
          segmentsFrom_intercalate false (hliteral us List.mem_cons_self) hlater, hmap]
        exact congrArg (fun text => ((⟨text, false, false⟩ : Segment), _)) hus
      -- None of them is taken for a pseudo selector.
      have hvariants : variantSegments
          (later.map fun name => (⟨name.toList, false, false⟩ : Segment)) =
            later.map fun name => ⟨name.toList, false, false⟩ := by
        rw [variantSegments, List.takeWhile_eq_self_iff.2 (by simp)]
        apply dropTrailing_eq_self
        intro s hs
        rw [List.getLast?_map] at hs
        obtain ⟨name, hname, rfl⟩ := Option.map_eq_some_iff.1 hs
        exact (hlast name hname).isNativePseudo_eq
      have htext : ofSelectorText (blanks ++ '.' :: spelled) =
          (":".intercalate (first :: later)).toList := by
        rw [ofSelectorText, afterDot_blanks_append hblanks, hsegments, String.toList_intercalate]
        simp only [hvariants, joinSegments_eq_intercalate, List.map_cons, List.map_map,
          Function.comp_def]
        rfl
      rw [ofSelector, String.toList_ofList, htext, String.ofList_toList]

/-- A name with a digit in front, a colon and a parenthesis of its own, and a raw
colon, in all four forms of spelling. -/
theorem ofSelector_spelled_mixed :
    SpellsSegments (["2x", "a:(b"].map String.toList)
        (['\\', '3', '2', ' ', 'x'] ++
          ':' :: ['a', '\\', ':', '\\', '2', '8', '\\', '6', '2']) ∧
      IsUtilityName "a:(b" ∧
      ofSelector " \t.\\32 x:a\\:\\28\\62" = "2x:a:(b" := by
  have htexts : ["2x", "a:(b"].map String.toList = [['2', 'x'], ['a', ':', '(', 'b']] := by
    decide
  have hdigit : HexSpells ['3', '2'] '2' :=
    ⟨by decide, by decide, List.all_eq_true.1 (by decide), by decide, by decide⟩
  have hparen : HexSpells ['2', '8'] '(' :=
    ⟨by decide, by decide, List.all_eq_true.1 (by decide), by decide, by decide⟩
  have hletter : HexSpells ['6', '2'] 'b' :=
    ⟨by decide, by decide, List.all_eq_true.1 (by decide), by decide, by decide⟩
  have hfirst : SpellsText (':' :: ['a', '\\', ':', '\\', '2', '8', '\\', '6', '2'])
      ['2', 'x'] ['\\', '3', '2', ' ', 'x'] := by
    refine @SpellsText.cons _ '2' ['x'] ['\\', '3', '2', ' '] ['x'] ?_
      (@SpellsText.cons _ 'x' [] ['x'] [] (.itself (by decide)) .nil)
    exact .hexBlank hdigit (by decide)
  have hsecond : SpellsText [] ['a', ':', '(', 'b']
      ['a', '\\', ':', '\\', '2', '8', '\\', '6', '2'] := by
    refine @SpellsText.cons _ 'a' _ ['a'] _ (.itself (by decide)) ?_
    refine @SpellsText.cons _ ':' _ ['\\', ':'] _ (.backslash (by decide)) ?_
    refine @SpellsText.cons _ '(' _ ['\\', '2', '8'] _ (.hex hparen fun c hc => ?_) ?_
    · -- The next character is the backslash of another escape.
      obtain rfl : '\\' = c := Option.some.inj hc
      decide
    · exact @SpellsText.cons _ 'b' [] ['\\', '6', '2'] [] (.hex hletter (by simp)) .nil
  have hspelled := SpellsSegments.cons hfirst (.last hsecond)
  have hname : IsUtilityName "a:(b" := by
    unfold IsUtilityName
    decide
  have hblanks : ∀ b ∈ [' ', '\t'], isBlank b = true := List.all_eq_true.1 (by decide)
  rw [← htexts] at hspelled
  have hread := ofSelector_spelled hblanks hspelled (by decide) (by simpa using hname)
  exact ⟨hspelled, hname, hread⟩

end ElmClasses.ClassName
