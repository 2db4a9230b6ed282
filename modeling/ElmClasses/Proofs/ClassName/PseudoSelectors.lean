import Mathlib.Data.List.TakeWhile
import ElmClasses.Proofs.ClassName.Segments

/-!
# Pseudo selectors and further compounds behind a class

A style sheet puts native pseudo selectors behind a class name, and combinators
and further compounds behind these. None of it is part of the class name, and
this module shows that none of it changes the name, whatever stands before it:
`ofSelector` gives the same class with such a tail and without.

A tail is a list of `PseudoItem`s, and behind them possibly anything that starts
with a character that ends a compound selector. Two passes have to agree on it.
The pass that cuts the compound selector must run over all items, of which the
functional ones may hold colons, commas and combinators in parentheses, and stop
behind them. The pass that splits segments must make of every item exactly one
segment behind those of the text before it. `IsPseudoSuffix` states both about
the spelled characters of the items, and each item in front preserves it.

Of the text before the tail nothing is required but that it is at an end where
the tail starts: outside of parentheses, behind no colon, and within no escape.

## Main results

* `PseudoItem.read_flatten`: native pseudo selectors are read as a suffix that
  both passes run over.
* `ofSelector_append_pseudo`: the class name is the same with a tail and without.
-/

namespace ElmClasses.ClassName

open Text

/-- Whether the parentheses that no escape spelled are balanced, if `depth` more
have been opened before. -/
def isBalanced (depth : Nat) : List SpelledChar → Bool
  | [] => depth == 0
  | u :: us =>
    if u.isRaw '(' then isBalanced (depth + 1) us
    else if u.isRaw ')' then decide (0 < depth) && isBalanced (depth - 1) us
    else isBalanced depth us

theorem depthAfter_of_not_isRaw {u : SpelledChar} (hopen : ¬ u.isRaw '(' = true)
    (hclose : ¬ u.isRaw ')' = true) (depth : Nat) : u.depthAfter depth = depth := by
  obtain ⟨c, escaped⟩ := u
  cases escaped with
  | true => rfl
  | false =>
      have hc : c ≠ '(' ∧ c ≠ ')' := by
        simpa [SpelledChar.isRaw] using And.intro hopen hclose
      simp [SpelledChar.depthAfter, depthAfter, hc.1, hc.2]

/-- One character of balanced text moves the depth of the scan as it moves the
number of open parentheses, if others are open around the text. -/
theorem depthAfter_of_balanced {depth : Nat} {u : SpelledChar} {us : List SpelledChar}
    (h : isBalanced depth (u :: us) = true) (outer : Nat) :
    ∃ next, isBalanced next us = true ∧
      u.depthAfter (depth + (outer + 1)) = next + (outer + 1) := by
  rw [isBalanced] at h
  split at h
  · next hopen =>
      obtain rfl := (isRaw_iff u '(').1 hopen
      refine ⟨depth + 1, h, ?_⟩
      rw [Nat.add_right_comm]
      rfl
  · split at h
    · next hclose =>
        obtain rfl := (isRaw_iff u ')').1 hclose
        obtain ⟨hpos, hrest⟩ : 0 < depth ∧ isBalanced (depth - 1) us = true := by
          simpa using h
        have hafter : (⟨')', false⟩ : SpelledChar).depthAfter (depth + (outer + 1)) =
            depth + (outer + 1) - 1 := rfl
        refine ⟨depth - 1, hrest, ?_⟩
        rw [hafter]
        omega
    · next hopen hclose => exact ⟨depth, h, depthAfter_of_not_isRaw hopen hclose _⟩

/-- Inside of other parentheses, balanced ones never come back to depth zero, and
they end at the depth at which they started. -/
theorem unbroken_of_balanced {depth : Nat} {us : List SpelledChar}
    (h : isBalanced depth us = true) (outer : Nat) :
    Unbroken (depth + (outer + 1)) us ∧ depthBehind (depth + (outer + 1)) us = outer + 1 := by
  induction us generalizing depth with
  | nil =>
      obtain rfl : depth = 0 := by simpa [isBalanced] using h
      exact ⟨trivial, Nat.zero_add _⟩
  | cons u us ih =>
      obtain ⟨next, hrest, hafter⟩ := depthAfter_of_balanced h outer
      obtain ⟨hunbroken, hdepth⟩ := ih hrest
      rw [← hafter] at hunbroken hdepth
      have hinside : depth + (outer + 1) ≠ 0 := by omega
      exact ⟨⟨fun hzero => absurd hzero hinside, hunbroken⟩, hdepth⟩

/-- From an opening parenthesis to the closing one that belongs to it the depth is
never zero, so whatever stands between them is unbroken. -/
theorem unbroken_parens {argument : List SpelledChar} (h : isBalanced 0 argument = true) :
    Unbroken 0 (⟨'(', false⟩ :: (argument ++ [⟨')', false⟩])) ∧
      depthBehind 0 (⟨'(', false⟩ :: (argument ++ [⟨')', false⟩])) = 0 := by
  obtain ⟨hunbroken, hdepth⟩ := unbroken_of_balanced h 0
  rw [Nat.zero_add] at hunbroken hdepth
  have hopened : (⟨'(', false⟩ : SpelledChar).depthAfter 0 = 1 := rfl
  refine ⟨⟨fun _ => .inr ⟨by decide, by decide⟩, ?_⟩, ?_⟩
  · rw [hopened]
    refine unbroken_append hunbroken ?_
    rw [hdepth]
    exact ⟨fun hzero => absurd hzero Nat.one_ne_zero, trivial⟩
  · rw [depthBehind_cons, hopened, depthBehind_append, hdepth]
    rfl

/-! ## Native pseudo selectors -/

/-- The texts of native pseudo selectors that can follow a class name: a known
pseudo-class, a browser-specific one, one with balanced arguments, and a
pseudo-element. Arguments may hold anything else, but do not end with a
backslash, which would escape the parenthesis behind them. -/
inductive PseudoItem : List Char → Prop where
  | native {name : String} (hname : name ∈ nativePseudoNames) :
      PseudoItem (':' :: name.toList)
  | vendor {vendor : String} {name : List Char} (hvendor : vendor ∈ vendorPrefixes)
      (hstart : vendor.toList <+: name) (hplain : ∀ c ∈ name, isPlain c = true) :
      PseudoItem (':' :: name)
  | functional {name argument : List Char} (hne : name ≠ [])
      (hplain : ∀ c ∈ name, isPlain c = true)
      (hbalanced : isBalanced 0 (spelledChars argument) = true)
      (hescape : openEscape? argument ≠ some []) :
      PseudoItem (':' :: (name ++ '(' :: (argument ++ [')'])))
  | element {name : List Char} (hne : name ≠ []) (hplain : ∀ c ∈ name, isPlain c = true) :
      PseudoItem (':' :: ':' :: name)

/-- Spelled characters that continue a compound selector and only add native
pseudo selectors to it. -/
structure IsPseudoSuffix (us : List SpelledChar) : Prop where
  goesOn : ∀ vs, cutCompound 0 (us ++ vs) = us ++ cutCompound 0 vs
  segments : ∃ added : List Segment, (∀ s ∈ added, s.isNativePseudo = true) ∧
    ∀ pseudoElement, segmentsFrom pseudoElement 0 us = (Segment.empty pseudoElement, added)

namespace IsPseudoSuffix

theorem nil : IsPseudoSuffix [] where
  goesOn _ := rfl
  segments := ⟨[], by simp, fun _ => by rw [segmentsFrom]⟩

/-- An unbroken stretch behind a colon that makes a native pseudo selector. -/
theorem colon {name us : List SpelledChar} (hne : name ≠ []) (hunbroken : Unbroken 0 name)
    (hdepth : depthBehind 0 name = 0)
    (hnative : ((Segment.empty false).prepend name).isNativePseudo = true)
    (h : IsPseudoSuffix us) : IsPseudoSuffix (dividingColon :: (name ++ us)) where
  goesOn vs := by
    rw [List.cons_append, List.append_assoc, cutCompound_colon,
      cutCompound_append_of_unbroken hunbroken, hdepth, h.goesOn, List.cons_append,
      List.append_assoc]
  segments := by
    obtain ⟨added, hadded, hus⟩ := h.segments
    refine ⟨(Segment.empty false).prepend name :: added, ?_, fun pseudoElement => ?_⟩
    · intro s hs
      rcases List.mem_cons.1 hs with rfl | hs
      · exact hnative
      · exact hadded s hs
    · have hname := segmentsFrom_of_unbroken false hunbroken us
      rw [hdepth, hus] at hname
      cases name with
      | nil => exact absurd rfl hne
      | cons v vs =>
          have hv : v.isRaw ':' = false := by
            rcases hunbroken.1 rfl with hescaped | ⟨-, hcolon⟩
            · simp [SpelledChar.isRaw, hescaped]
            · simp [SpelledChar.isRaw, hcolon]
          rw [List.cons_append, segmentsFrom_colon pseudoElement hv, ← List.cons_append, hname]

/-- An unbroken stretch behind two colons. -/
theorem colons {name us : List SpelledChar} (hunbroken : Unbroken 0 name)
    (hdepth : depthBehind 0 name = 0) (h : IsPseudoSuffix us) :
    IsPseudoSuffix (dividingColon :: dividingColon :: (name ++ us)) where
  goesOn vs := by
    rw [List.cons_append, List.cons_append, List.append_assoc, cutCompound_colon,
      cutCompound_colon, cutCompound_append_of_unbroken hunbroken, hdepth, h.goesOn,
      List.cons_append, List.cons_append, List.append_assoc]
  segments := by
    obtain ⟨added, hadded, hus⟩ := h.segments
    refine ⟨(Segment.empty true).prepend name :: added, ?_, fun pseudoElement => ?_⟩
    · intro s hs
      rcases List.mem_cons.1 hs with rfl | hs
      · simp [Segment.prepend_eq, Segment.empty, Segment.isNativePseudo]
      · exact hadded s hs
    · have hname := segmentsFrom_of_unbroken true hunbroken us
      rw [hdepth, hus] at hname
      rw [segmentsFrom_colons, hname]

/-- A plain name behind a colon. -/
theorem plainName {name : List Char} {us : List SpelledChar} (hne : name ≠ [])
    (hplain : ∀ c ∈ name, isPlain c = true)
    (hnative : Segment.isNativePseudo ⟨name, false, false⟩ = true) (h : IsPseudoSuffix us) :
    IsPseudoSuffix (dividingColon :: (rawChars name ++ us)) := by
  have hliteral := rawChars_literal hplain
  have hsegment : (Segment.empty false).prepend (rawChars name) = ⟨name, false, false⟩ := by
    rw [prepend_empty_of_literal false hliteral]
    simp [rawChars, Function.comp_def]
  refine h.colon ?_ (unbroken_of_literal 0 hliteral) (depthBehind_of_literal 0 hliteral) ?_
  · simpa [rawChars] using hne
  · rw [hsegment]
    exact hnative

/-- A plain name with arguments behind a colon. -/
theorem functionalName {name : List Char} {argument us : List SpelledChar}
    (hplain : ∀ c ∈ name, isPlain c = true) (hbalanced : isBalanced 0 argument = true)
    (h : IsPseudoSuffix us) :
    IsPseudoSuffix (dividingColon ::
      ((rawChars name ++ ⟨'(', false⟩ :: (argument ++ [⟨')', false⟩])) ++ us)) := by
  have hliteral := rawChars_literal hplain
  obtain ⟨hunbroken, hdepth⟩ := unbroken_parens hbalanced
  refine h.colon (by simp) (unbroken_append (unbroken_of_literal 0 hliteral) ?_) ?_ ?_
  · rw [depthBehind_of_literal 0 hliteral]
    exact hunbroken
  · rw [depthBehind_append, depthBehind_of_literal 0 hliteral, hdepth]
  · simp [Segment.prepend_eq, Segment.isNativePseudo, SpelledChar.isRaw]

end IsPseudoSuffix

theorem nativePseudoNames_plain {name : String} (h : name ∈ nativePseudoNames) :
    name.toList ≠ [] ∧ ∀ c ∈ name.toList, isPlain c = true := by
  have hall : nativePseudoNames.all
      (fun n => n.toList != [] && n.toList.all isPlain) = true := by
    decide +kernel
  have hname := List.all_eq_true.1 hall name h
  simpa only [Bool.and_eq_true, bne_iff_ne, List.all_eq_true] using hname

theorem vendorPrefixes_ne_nil : ∀ vendor ∈ vendorPrefixes, vendor.toList ≠ [] := by
  decide

theorem isNativePseudo_of_mem {name : String} (h : name ∈ nativePseudoNames) :
    Segment.isNativePseudo ⟨name.toList, false, false⟩ = true := by
  have hany : nativePseudoNames.any (fun n => name.toList == n.toList) = true :=
    List.any_eq_true.2 ⟨name, h, beq_self_eq_true _⟩
  simp only [Segment.isNativePseudo, hany, Bool.or_true, Bool.true_or]

theorem isNativePseudo_of_vendor {vendor : String} {name : List Char}
    (hvendor : vendor ∈ vendorPrefixes) (hstart : vendor.toList <+: name) :
    Segment.isNativePseudo ⟨name, false, false⟩ = true := by
  have hany : vendorPrefixes.any (fun v => v.toList.isPrefixOf name) = true :=
    List.any_eq_true.2 ⟨vendor, hvendor, List.isPrefixOf_iff_prefix.2 hstart⟩
  simp only [Segment.isNativePseudo, hany, Bool.or_true]

/-- The closing parenthesis is read apart from arguments that do not end with a
backslash. -/
theorem spelledChars_argument {argument : List Char} (h : openEscape? argument ≠ some [])
    (rest : List Char) :
    spelledChars (argument ++ ')' :: rest) =
      spelledChars argument ++ ⟨')', false⟩ :: spelledChars rest := by
  rw [spelledChars_append, spelledChars_raw (by decide)]
  intro digits hdigits
  refine ⟨?_, fun c hc => ?_⟩
  · rintro rfl
    exact h hdigits
  · obtain rfl : ')' = c := by simpa using hc
    exact ⟨by decide, fun _ => by decide⟩

/-- A native pseudo selector is read as characters that continue any suffix. -/
theorem PseudoItem.read {item : List Char} (h : PseudoItem item) :
    ∃ us : List SpelledChar,
      (∀ rest, spelledChars (item ++ rest) = us ++ spelledChars rest) ∧
        ∀ vs, IsPseudoSuffix vs → IsPseudoSuffix (us ++ vs) := by
  cases h with
  | @native name hname =>
      obtain ⟨hne, hplain⟩ := nativePseudoNames_plain hname
      refine ⟨dividingColon :: rawChars name.toList, fun rest => ?_, fun vs hvs => ?_⟩
      · rw [List.cons_append, spelledChars_colon, spelledChars_plain_append hplain]
        rfl
      · exact hvs.plainName hne hplain (isNativePseudo_of_mem hname)
  | @vendor vendor name hvendor hstart hplain =>
      have hne : name ≠ [] := by
        rintro rfl
        exact vendorPrefixes_ne_nil vendor hvendor (List.prefix_nil.1 hstart)
      refine ⟨dividingColon :: rawChars name, fun rest => ?_, fun vs hvs => ?_⟩
      · rw [List.cons_append, spelledChars_colon, spelledChars_plain_append hplain]
        rfl
      · exact hvs.plainName hne hplain (isNativePseudo_of_vendor hvendor hstart)
  | @functional name argument hne hplain hbalanced hescape =>
      have hopen : ∀ cs, spelledChars ('(' :: cs) = ⟨'(', false⟩ :: spelledChars cs :=
        spelledChars_raw (by decide)
      refine ⟨dividingColon :: (rawChars name ++
        ⟨'(', false⟩ :: (spelledChars argument ++ [⟨')', false⟩])), fun rest => ?_,
          fun vs hvs => ?_⟩
      · simp only [List.cons_append, List.append_assoc, List.nil_append]
        rw [spelledChars_colon, spelledChars_plain_append hplain, hopen,
          spelledChars_argument hescape]
      · exact hvs.functionalName hplain hbalanced
  | @element name hne hplain =>
      have hliteral := rawChars_literal hplain
      refine ⟨dividingColon :: dividingColon :: rawChars name, fun rest => ?_,
        fun vs hvs => hvs.colons (unbroken_of_literal 0 hliteral)
          (depthBehind_of_literal 0 hliteral)⟩
      rw [List.cons_append, List.cons_append, spelledChars_colon, spelledChars_colon,
        spelledChars_plain_append hplain]
      rfl

/-- Any number of native pseudo selectors is read as a suffix, whatever is behind
them. -/
theorem PseudoItem.read_flatten {items : List (List Char)}
    (h : ∀ item ∈ items, PseudoItem item) :
    ∃ us : List SpelledChar, IsPseudoSuffix us ∧
      ∀ rest, spelledChars (items.flatten ++ rest) = us ++ spelledChars rest := by
  induction items with
  | nil => exact ⟨[], .nil, fun _ => rfl⟩
  | cons item items ih =>
      obtain ⟨vs, hvs, hrest⟩ := ih fun i hi => h i (List.mem_cons_of_mem item hi)
      obtain ⟨us, hread, hus⟩ := (h item List.mem_cons_self).read
      refine ⟨us ++ vs, hus vs hvs, fun rest => ?_⟩
      rw [List.flatten_cons, List.append_assoc, hread, hrest, List.append_assoc]

/-- What stands before the class name are blanks, and maybe a dot. -/
theorem afterDot_suffix (selector : List Char) :
    ∃ skipped, selector = skipped ++ afterDot selector ∧
      ∀ c ∈ skipped, isBlank c = true ∨ c = '.' := by
  have hblanks : ∀ c ∈ selector.takeWhile isBlank, isBlank c = true :=
    List.all_eq_true.1 List.all_takeWhile
  have hsplit : selector = selector.takeWhile isBlank ++ selector.dropWhile isBlank :=
    List.takeWhile_append_dropWhile.symm
  unfold afterDot
  split
  · next rest hdot =>
      refine ⟨selector.takeWhile isBlank ++ ['.'], ?_, fun c hc => ?_⟩
      · rw [List.append_assoc, List.singleton_append, ← hdot]
        exact hsplit
      · rcases List.mem_append.1 hc with hc | hc
        · exact .inl (hblanks c hc)
        · exact .inr (List.mem_singleton.1 hc)
  · exact ⟨selector.takeWhile isBlank, hsplit, fun c hc => .inl (hblanks c hc)⟩

private theorem ne_of_blank_or_dot {c d : Char} (h : isBlank c = true ∨ c = '.')
    (hd : isBlank d = false ∧ d ≠ '.') : c ≠ d := by
  rintro rfl
  rcases h with hblank | hdot
  · rw [hd.1] at hblank
    cases hblank
  · exact hd.2 hdot

/-- An escape that a text ends in is behind its dot. -/
theorem openEscape?_afterDot (selector : List Char) :
    openEscape? (afterDot selector) = openEscape? selector := by
  obtain ⟨skipped, hsplit, hskipped⟩ := afterDot_suffix selector
  have hraw : ∀ c ∈ skipped, c ≠ '\\' := fun c hc =>
    ne_of_blank_or_dot (hskipped c hc) (by decide)
  rw [← openEscape?_raw_append hraw, ← hsplit]

/-- Where a text has more than blanks, its class name starts within it. -/
theorem afterDot_append {selector : List Char} (h : ∃ c ∈ selector, isBlank c = false)
    (more : List Char) : afterDot (selector ++ more) = afterDot selector ++ more := by
  have hne : selector.dropWhile isBlank ≠ [] := by
    obtain ⟨c, hc, hblank⟩ := h
    intro hnil
    rw [List.dropWhile_eq_nil_iff.1 hnil c hc] at hblank
    cases hblank
  obtain ⟨d, ds, hrest⟩ := List.exists_cons_of_ne_nil hne
  unfold afterDot
  rw [List.dropWhile_append, hrest]
  simp only [List.isEmpty_cons, Bool.false_eq_true, if_false, List.cons_append]
  split
  · next hdot =>
      obtain ⟨rfl, rfl⟩ := List.cons.inj hdot
      rfl
  · next hdot =>
      split
      · next hdot' =>
          obtain ⟨rfl, rfl⟩ := List.cons.inj hdot'
          exact absurd rfl (hdot _)
      · rfl

/-! ## The class name with a tail and without -/

/-- Behind the end of a compound selector nothing belongs to it. -/
theorem cutCompound_tail {tail : List Char} (h : ∀ c ∈ tail.head?, endsCompound c = true) :
    cutCompound 0 (spelledChars tail) = [] := by
  cases tail with
  | nil => rw [spelledChars_nil, cutCompound]
  | cons c cs =>
      have hends : endsCompound c = true := h c rfl
      have hraw : c ≠ '\\' := by
        rintro rfl
        cases hends
      rw [spelledChars_raw hraw, cutCompound, if_pos ⟨rfl, rfl, hends⟩]

/-- **Native pseudo selectors only add segments that are dropped**, or nothing if
the compound selector has ended before. -/
theorem IsPseudoSuffix.segments_cutCompound {us vs ws : List SpelledChar}
    (hvs : IsPseudoSuffix vs) (hdepth : depthBehind 0 us = 0)
    (hlast : ∀ u ∈ us.getLast?, u.isRaw ':' = false) (hws : cutCompound 0 ws = []) :
    ∃ added : List Segment, (∀ s ∈ added, s.isNativePseudo = true) ∧
      ClassName.segments (cutCompound 0 (us ++ (vs ++ ws))) =
        ((ClassName.segments (cutCompound 0 us)).1,
          (ClassName.segments (cutCompound 0 us)).2 ++ added) := by
  rw [cutCompound_append, hdepth]
  split
  · next hwhole =>
      obtain ⟨added, hadded, hsegments⟩ := hvs.segments
      refine ⟨added, hadded, ?_⟩
      rw [hwhole, hvs.goesOn, hws, List.append_nil]
      exact segmentsFrom_append false hdepth hlast hsegments
  · exact ⟨[], by simp, by rw [List.append_nil]⟩

/-- A text that is at an end is so behind its leading blanks and dot as well. -/
theorem spelledChars_afterDot {selector : List Char}
    (hdepth : depthBehind 0 (spelledChars selector) = 0)
    (hcolon : ∀ u ∈ (spelledChars selector).getLast?, u.isRaw ':' = false) :
    depthBehind 0 (spelledChars (afterDot selector)) = 0 ∧
      ∀ u ∈ (spelledChars (afterDot selector)).getLast?, u.isRaw ':' = false := by
  obtain ⟨skipped, hsplit, hskipped⟩ := afterDot_suffix selector
  have hread : spelledChars selector =
      rawChars skipped ++ spelledChars (afterDot selector) := by
    rw [← spelledChars_raw_append fun c hc => ne_of_blank_or_dot (hskipped c hc) (by decide),
      ← hsplit]
  have hblanks : depthBehind 0 (rawChars skipped) = 0 :=
    depthBehind_rawChars 0 fun c hc =>
      ⟨ne_of_blank_or_dot (hskipped c hc) (by decide),
        ne_of_blank_or_dot (hskipped c hc) (by decide)⟩
  refine ⟨?_, fun u hu => hcolon u ?_⟩
  · rwa [hread, depthBehind_append, hblanks] at hdepth
  · rw [hread, List.getLast?_append, hu]
    rfl

/-- **A tail of native pseudo selectors and further compounds does not change the
class name.** The text before it may be any that has more than blanks and is at
an end: within no escape, outside of parentheses, and behind no colon. -/
theorem ofSelector_append_pseudo {selector : String} {items : List (List Char)}
    {tail : List Char} (hselector : ∃ c ∈ selector.toList, isBlank c = false)
    (hescape : openEscape? selector.toList = none)
    (hdepth : depthBehind 0 (spelledChars selector.toList) = 0)
    (hcolon : ∀ u ∈ (spelledChars selector.toList).getLast?, u.isRaw ':' = false)
    (hitems : ∀ item ∈ items, PseudoItem item)
    (htail : ∀ c ∈ tail.head?, endsCompound c = true) :
    ofSelector (selector ++ String.ofList (items.flatten ++ tail)) = ofSelector selector := by
  obtain ⟨hdepth', hcolon'⟩ := spelledChars_afterDot hdepth hcolon
  obtain ⟨vs, hvs, hread⟩ := PseudoItem.read_flatten hitems
  have hspelled : spelledChars (afterDot selector.toList ++ (items.flatten ++ tail)) =
      spelledChars (afterDot selector.toList) ++ (vs ++ spelledChars tail) := by
    rw [spelledChars_append, hread]
    intro digits hdigits
    rw [openEscape?_afterDot, hescape] at hdigits
    cases hdigits
  obtain ⟨added, hadded, hsegments⟩ :=
    hvs.segments_cutCompound hdepth' hcolon' (cutCompound_tail htail)
  have htext : ofSelectorText (selector.toList ++ (items.flatten ++ tail)) =
      ofSelectorText selector.toList := by
    unfold ofSelectorText firstCompound
    rw [afterDot_append hselector, readCompound_eq, readCompound_eq, hspelled, hsegments]
    simp only [variantSegments_append hadded]
  rw [ofSelector, String.toList_append, String.toList_ofList, htext, ofSelector]

/-- One of each kind, with an escaped parenthesis and a combinator in the arguments,
behind a class that has pseudo selectors of its own. -/
theorem ofSelector_append_pseudo_mixed :
    ofSelector (".sm\\:a:not(.x > .y):hover" ++
      ":checked:-moz-focusring:not(.b > :is(p, i), \\29 )::before > li:hover") = "sm:a" := by
  have hitems : ∀ item ∈ [':' :: "checked".toList, ':' :: "-moz-focusring".toList,
      ':' :: ("not".toList ++ '(' :: (".b > :is(p, i), \\29 ".toList ++ [')'])),
      ':' :: ':' :: "before".toList], PseudoItem item := by
    have hmoz : ∀ c ∈ "-moz-focusring".toList, isPlain c = true :=
      List.all_eq_true.1 (by decide)
    have hnot : ∀ c ∈ "not".toList, isPlain c = true := List.all_eq_true.1 (by decide)
    have hbefore : ∀ c ∈ "before".toList, isPlain c = true := List.all_eq_true.1 (by decide)
    simp only [List.forall_mem_cons]
    refine ⟨.native (by decide), ?_, ?_, .element (by decide) hbefore, by simp⟩
    · exact @PseudoItem.vendor "-moz-" _ (by decide) (by decide) hmoz
    · exact .functional (by decide) hnot (by decide +kernel) (by decide +kernel)
  have hselector : ∃ c ∈ ".sm\\:a:not(.x > .y):hover".toList, isBlank c = false :=
    ⟨'.', by decide, by decide⟩
  have hcolon : ∀ u ∈ (spelledChars ".sm\\:a:not(.x > .y):hover".toList).getLast?,
      u.isRaw ':' = false := by
    decide +kernel
  have htail : ∀ c ∈ " > li:hover".toList.head?, endsCompound c = true := by
    intro c hc
    obtain rfl : ' ' = c := Option.some.inj hc
    decide
  have hsame := ofSelector_append_pseudo hselector (by decide +kernel) (by decide +kernel)
    hcolon hitems htail
  exact hsame.trans (by decide +kernel)

end ElmClasses.ClassName
