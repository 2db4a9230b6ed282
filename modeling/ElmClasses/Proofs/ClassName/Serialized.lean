import ElmClasses.Proofs.ClassName.PseudoSelectors
import ElmClasses.Proofs.ClassName.RoundTrip
import ElmClasses.Proofs.Css.Identifier
import ElmClasses.Proofs.Run.Calls
import ElmClasses.Proofs.Stylesheet.PlainSheets

/-!
# Class names of serialized selectors

A style sheet prints the name of a class by the rule of `Css.serialized`. Class names are read back
by another reader than the one of style sheets, and the two do not agree on what a blank is. To a
style sheet only ASCII characters are blanks: those are escaped in a name, and everything above
ASCII is printed as it is. A class name ends at any blank of Unicode that no escape spells. So a
name without blanks above ASCII is read back as it was, and any other one up to its first such
blank, and no further.

What a name loses in this way is the only thing that it loses, so two classes are taken for one
another exactly if they agree up to there.

## Main results

* `spellsText_serialized`: a serialized name spells that name.
* `classOf?_classText`: the class of a printed selector, whatever states stand behind it.
* `ofSelectorText_spelled_append`: a spelled name is read up to where its compound ends.
* `ofSelector_classSelector_eq_iff`: which classes are taken for one another.
-/

namespace ElmClasses.ClassName

open Text
open Css (SerializedChar SerializedName hexText_spec)
open Stylesheet (State classText statesText)

/-- A character that a style sheet prints as it is stands for itself in a selector too,
unless it is a blank. -/
theorem isPlain_of_isNameChar {c : Char} (hname : Css.isNameChar c = true)
    (hblank : isBlank c = true → c.toNat < 0x80) : isPlain c = true := by
  by_cases hascii : c.toNat < 0x80
  · exact forall_ascii (P := fun c => Css.isNameChar c = true → isPlain c = true)
      (by decide +kernel) hascii hname
  · have hclear : isBlank c = false := Bool.eq_false_iff.2 fun h => hascii (hblank h)
    have hne : ∀ d : Char, d.toNat < 0x80 → c ≠ d := by
      rintro d hd rfl
      exact hascii hd
    have hlist : ['\\', '(', ')', ':', '>', '+', '~', ','].contains c = false := by
      simp [hne]
    rw [isPlain, hclear, hlist]
    rfl

theorem spellsChar_serialized {c : Char} {piece : List Char} (h : SerializedChar c piece)
    (hnul : c ≠ '\x00') (hblank : isBlank c = true → c.toNat < 0x80) (rest : List Char) :
    SpellsChar rest c piece := by
  cases h with
  | itself hname => exact .itself (isPlain_of_isNameChar hname hblank)
  | hex hascii =>
      obtain ⟨⟨d, ds, hcons, -⟩, hlength, hdigits, hnumber⟩ := hexText_spec hascii
      have hhex : HexSpells (hexText c.toNat) c :=
        ⟨by rw [hcons]; exact List.cons_ne_nil d ds, hlength, hdigits, hnumber, hnul⟩
      exact .hexBlank hhex (by decide)
  | backslash hdigit hline => exact .backslash hdigit

theorem spellsText_serialized {name text : List Char} (h : SerializedName name text)
    (hblank : ∀ c ∈ name, isBlank c = true → c.toNat < 0x80) (rest : List Char) :
    SpellsText rest name text := by
  induction h with
  | nil => exact .nil
  | cons hnul hchar hname ih =>
      obtain ⟨hc, hcs⟩ := List.forall_mem_cons.1 hblank
      exact .cons (spellsChar_serialized hchar hnul hc _) (ih hcs)

/-- States are native pseudo selectors. -/
theorem pseudoItem_state (state : State) : PseudoItem (':' :: state.name) := by
  cases state with
  | hover => exact .native (show "hover" ∈ nativePseudoNames by decide)
  | focus => exact .native (show "focus" ∈ nativePseudoNames by decide)

/-- **The printed selector of a class reads back as the class**, without its states. -/
theorem ofSelectorText_classText {name : List Char} (hnul : '\x00' ∉ name)
    (hblank : ∀ c ∈ name, isBlank c = true → c.toNat < 0x80) (states : List State) :
    ofSelectorText (classText name states) = name := by
  obtain ⟨us, hus, hliteral, hread⟩ :=
    (spellsText_serialized (Css.serialized_spec hnul) hblank (statesText states)).read
  have hitems : ∀ item ∈ states.map fun state => ':' :: state.name, PseudoItem item := by
    intro item hitem
    obtain ⟨state, -, rfl⟩ := List.mem_map.1 hitem
    exact pseudoItem_state state
  obtain ⟨vs, hvs, hstates⟩ := PseudoItem.read_flatten hitems
  have hflatten : (states.map fun state => ':' :: state.name).flatten = statesText states := by
    rw [statesText, List.flatMap]
  have hspelled : spelledChars (Css.serialized name ++ statesText states) = us ++ (vs ++ []) := by
    have htail := hstates []
    rw [hflatten, List.append_nil, spelledChars_nil] at htail
    rw [hread, htail]
  have hlast : ∀ u ∈ us.getLast?, u.isRaw ':' = false := fun u hu =>
    (hliteral u (List.mem_of_getLast? hu)).isRaw_eq_false (by decide)
  obtain ⟨added, hadded, hsegments⟩ :=
    hvs.segments_cutCompound (depthBehind_of_literal 0 hliteral) hlast
      (show cutCompound 0 [] = [] from rfl)
  have hfirst : segments (cutCompound 0 us) = (⟨name, false, false⟩, []) := by
    rw [cutCompound_of_unbroken (unbroken_of_literal 0 hliteral), segments_of_literal hliteral, hus]
  have hdot : afterDot (classText name states) = Css.serialized name ++ statesText states :=
    @afterDot_blanks_append [] (by simp) _
  rw [ofSelectorText, hdot, firstCompound, readCompound_eq, hspelled, hsegments, hfirst]
  have hnone : variantSegments ([] ++ added) = [] := variantSegments_append hadded
  simp only [hnone, joinSegments, List.flatMap_nil, List.append_nil]

/-- A run collects the class of a printed selector. -/
theorem classOf?_classText {name : String} (hne : name ≠ "") (hnul : '\x00' ∉ name.toList)
    (hblank : ∀ c ∈ name.toList, isBlank c = true → c.toNat < 0x80) (states : List State) :
    Run.classOf? (String.ofList (classText name.toList states)) = some name := by
  have hclass : isClassSelector (String.ofList (classText name.toList states)) = true := by
    rw [isClassSelector, String.toList_ofList]
    rfl
  have hname : ofSelector (String.ofList (classText name.toList states)) = name := by
    rw [ofSelector, String.toList_ofList, ofSelectorText_classText hnul hblank,
      String.ofList_toList]
  rw [Run.classOf?, hname, if_pos ⟨hclass, hne⟩]

/-! ## Classes that are taken for one another -/

open Css (serialized)

/-- A blank above ASCII, which style sheets take for a character of a name. -/
def isWideBlank (c : Char) : Bool :=
  isBlank c && 0x80 ≤ c.toNat

/-- The characters of a name in front of its first blank above ASCII. -/
def keptPart (name : String) : String :=
  String.ofList (name.toList.takeWhile fun c => !isWideBlank c)

/-- The selector that a style sheet prints for a class. -/
def classSelector (name : String) : String :=
  String.ofList ('.' :: serialized name.toList)

/-- A spelled text in front of the end of a compound selector is read as it is. -/
theorem ofSelectorText_spelled_append {text spelled rest : List Char}
    (hspelled : SpellsText rest text spelled) (hrest : cutCompound 0 (spelledChars rest) = []) :
    ofSelectorText ('.' :: (spelled ++ rest)) = text := by
  obtain ⟨us, hus, hliteral, hread⟩ := hspelled.read
  have hdot : afterDot ('.' :: (spelled ++ rest)) = spelled ++ rest :=
    @afterDot_blanks_append [] (by simp) _
  have hcompound : firstCompound (spelled ++ rest) = us := by
    rw [firstCompound, readCompound_eq, hread,
      cutCompound_append_of_unbroken (unbroken_of_literal 0 hliteral),
      depthBehind_of_literal 0 hliteral, hrest, List.append_nil]
  rw [ofSelectorText, hdot, hcompound, segments_of_literal hliteral, hus]
  exact List.append_nil text

/-- A blank that no escape spells ends a compound selector. -/
theorem cutCompound_blank {c : Char} (h : isBlank c = true) (rest : List Char) :
    cutCompound 0 (spelledChars (c :: rest)) = [] := by
  have hescape : c ≠ '\\' := by
    rintro rfl
    exact absurd h (by decide)
  have hends : endsCompound c = true := by simp [endsCompound, h]
  rw [spelledChars_raw hescape, cutCompound, if_pos ⟨rfl, rfl, hends⟩]

/-- **A printed name is read back up to its first blank above ASCII.** -/
theorem ofSelectorText_serialized {name : List Char} (hnul : '\x00' ∉ name) :
    ofSelectorText ('.' :: serialized name) = name.takeWhile fun c => !isWideBlank c := by
  have hkept : ∀ c ∈ name.takeWhile fun c => !isWideBlank c,
      isBlank c = true → c.toNat < 0x80 := by
    intro c hc hblank
    have hnarrow := List.mem_takeWhile_imp hc
    by_contra hwide
    simp [isWideBlank, hblank, Nat.not_lt.1 hwide] at hnarrow
  have hsplit := List.takeWhile_append_dropWhile (p := fun c => !isWideBlank c) (l := name)
  cases hdrop : name.dropWhile fun c => !isWideBlank c with
  | nil =>
      rw [hdrop, List.append_nil] at hsplit
      rw [hsplit] at hkept ⊢
      have hwhole := spellsText_serialized (Css.serialized_spec hnul) hkept []
      simpa using ofSelectorText_spelled_append hwhole (by simp [cutCompound])
  | cons c cs =>
      have hwide : isBlank c = true ∧ 0x80 ≤ c.toNat := by
        have hstop := List.head?_dropWhile_not (fun c => !isWideBlank c) name
        rw [hdrop] at hstop
        simpa [isWideBlank] using hstop
      have hfront : '\x00' ∉ name.takeWhile fun c => !isWideBlank c := fun hmem =>
        hnul (List.takeWhile_subset _ hmem)
      obtain ⟨text, htext, hserialized⟩ := Css.serialized_append_cons hfront hwide.2 cs
      rw [hdrop] at hsplit
      rw [hsplit] at hserialized
      rw [hserialized]
      exact ofSelectorText_spelled_append (spellsText_serialized htext hkept _)
        (cutCompound_blank hwide.1 _)

theorem ofSelector_classSelector {name : String} (hnul : '\x00' ∉ name.toList) :
    ofSelector (classSelector name) = keptPart name := by
  rw [ofSelector, classSelector, String.toList_ofList, ofSelectorText_serialized hnul, keptPart]

/-- A name without blanks above ASCII is kept as a whole. -/
theorem keptPart_eq_self {name : String} (h : ∀ c ∈ name.toList, isWideBlank c = false) :
    keptPart name = name := by
  have hall : (name.toList.takeWhile fun c => !isWideBlank c) = name.toList :=
    List.takeWhile_eq_self_iff.2 fun c hc => by simp [h c hc]
  rw [keptPart, hall, String.ofList_toList]

/-- **Two classes are taken for one another exactly if they agree in front of their first
blanks above ASCII.** So distinct names without such blanks stay distinct. -/
theorem ofSelector_classSelector_eq_iff {c d : String} (hc : '\x00' ∉ c.toList)
    (hd : '\x00' ∉ d.toList) :
    (ofSelector (classSelector c) = ofSelector (classSelector d) ↔ keptPart c = keptPart d) ∧
      ((∀ name ∈ [c, d], ∀ ch ∈ name.toList, isWideBlank ch = false) → c ≠ d →
        ofSelector (classSelector c) ≠ ofSelector (classSelector d)) := by
  rw [ofSelector_classSelector hc, ofSelector_classSelector hd]
  refine ⟨Iff.rfl, fun hnarrow hne => ?_⟩
  rw [keptPart_eq_self (hnarrow c (by simp)), keptPart_eq_self (hnarrow d (by simp))]
  exact hne

/-- Two kinds of wide spaces make one class of two; spaces and tabs of ASCII do not. -/
theorem ofSelector_classSelector_spaces :
    ofSelector (classSelector "p\u3000x") = ofSelector (classSelector "p\u2003y") ∧
      ofSelector (classSelector "2 x:(\t") ≠ ofSelector (classSelector "2 x:(") := by
  refine ⟨(ofSelector_classSelector_eq_iff (by decide) (by decide)).1.2 (by decide), ?_⟩
  refine (ofSelector_classSelector_eq_iff (by decide) (by decide)).2 ?_ (by decide)
  exact List.forall_mem_cons.2 ⟨forall_mem_of_all (by decide),
    List.forall_mem_singleton.2 (forall_mem_of_all (by decide))⟩

/-- A class whose name goes on behind a no-break space is taken for the class in front. -/
theorem ofSelector_noBreakSpace :
    let c := "a"
    let d := "a\u00a0b"
    c ≠ d ∧ ofSelector (classSelector c) = ofSelector (classSelector d) := by
  decide +kernel

end ElmClasses.ClassName
