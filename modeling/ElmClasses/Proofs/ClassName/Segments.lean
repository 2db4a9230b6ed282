import ElmClasses.ClassName
import ElmClasses.Proofs.ClassName.SpelledText

/-!
# Segments of texts put behind one another

Segments are split from the front, and a colon looks at the character behind it,
so the segments of a concatenation are in general not those of its parts. Two
cases are enough for all that follows. Unbroken characters join the segment that
is open (`segmentsFrom_of_unbroken`). And where a part ends outside of
parentheses and not with a colon, a second part that starts with a colon only
adds segments behind those of the first (`segmentsFrom_append`).

The class name is then read off the segments from the end, and native pseudo
selectors there make no difference (`variantSegments_append`).
-/

namespace ElmClasses.ClassName

/-- The colon that divides segments. -/
def dividingColon : SpelledChar := ⟨':', false⟩

theorem spelledChars_colon (cs : List Char) :
    spelledChars (':' :: cs) = dividingColon :: spelledChars cs :=
  spelledChars_raw (by decide) cs

theorem isRaw_iff (u : SpelledChar) (c : Char) : u.isRaw c = true ↔ u = ⟨c, false⟩ := by
  obtain ⟨d, escaped⟩ := u
  cases escaped <;> simp [SpelledChar.isRaw]

/-- Put several spelled characters before the text of a segment. -/
def Segment.prepend (us : List SpelledChar) (s : Segment) : Segment :=
  us.foldr Segment.cons s

theorem Segment.prepend_eq (us : List SpelledChar) (s : Segment) :
    s.prepend us =
      { text := us.map SpelledChar.char ++ s.text
        pseudoElement := s.pseudoElement
        functional := us.any (·.isRaw '(') || s.functional } := by
  induction us with
  | nil => rfl
  | cons u us ih =>
      show Segment.cons u (s.prepend us) = _
      rw [ih]
      simp [Segment.cons, Bool.or_assoc]

/-- Anything but a colon outside of parentheses joins the open segment. -/
theorem segmentsFrom_cons (pseudoElement : Bool) {depth : Nat} {u : SpelledChar}
    (h : ¬ (u.isRaw ':' = true ∧ depth = 0)) (us : List SpelledChar) :
    segmentsFrom pseudoElement depth (u :: us) =
      ((segmentsFrom pseudoElement (u.depthAfter depth) us).1.cons u,
        (segmentsFrom pseudoElement (u.depthAfter depth) us).2) := by
  rw [segmentsFrom.eq_def]
  simp only [h, if_false]

/-- A single colon opens a segment. -/
theorem segmentsFrom_colon (pseudoElement : Bool) {v : SpelledChar}
    (h : v.isRaw ':' = false) (vs : List SpelledChar) :
    segmentsFrom pseudoElement 0 (dividingColon :: v :: vs) =
      (Segment.empty pseudoElement,
        (segmentsFrom false 0 (v :: vs)).1 :: (segmentsFrom false 0 (v :: vs)).2) := by
  rw [segmentsFrom.eq_def]
  simp [dividingColon, SpelledChar.isRaw, show (!v.escaped && v.char == ':') = false from h]

/-- A colon does not end a compound selector. -/
theorem cutCompound_colon (us : List SpelledChar) :
    cutCompound 0 (dividingColon :: us) = dividingColon :: cutCompound 0 us := by
  have hgoes : endsCompound dividingColon.char = false := by decide
  rw [cutCompound, hgoes, if_neg (by simp)]
  rfl

/-- Two colons open the segment of a pseudo-element. -/
theorem segmentsFrom_colons (pseudoElement : Bool) (vs : List SpelledChar) :
    segmentsFrom pseudoElement 0 (dividingColon :: dividingColon :: vs) =
      (Segment.empty pseudoElement,
        (segmentsFrom true 0 vs).1 :: (segmentsFrom true 0 vs).2) := by
  rw [segmentsFrom.eq_def]
  simp [dividingColon, SpelledChar.isRaw]

/-! ## Parts of a compound selector -/

/-- Unbroken characters join the open segment. -/
theorem segmentsFrom_of_unbroken (pseudoElement : Bool) {depth : Nat}
    {us : List SpelledChar} (h : Unbroken depth us) (vs : List SpelledChar) :
    segmentsFrom pseudoElement depth (us ++ vs) =
      ((segmentsFrom pseudoElement (depthBehind depth us) vs).1.prepend us,
        (segmentsFrom pseudoElement (depthBehind depth us) vs).2) := by
  induction us generalizing depth with
  | nil => rfl
  | cons u us ih =>
      have hjoins : ¬ (u.isRaw ':' = true ∧ depth = 0) := by
        rintro ⟨hcolon, hdepth⟩
        obtain rfl := (isRaw_iff u ':').1 hcolon
        rcases h.1 hdepth with hescaped | ⟨-, hne⟩
        · cases hescaped
        · exact hne rfl
      rw [List.cons_append, segmentsFrom_cons pseudoElement hjoins, ih h.2]
      rfl

private theorem mem_getLast?_cons {α : Type} {x y : α} {xs : List α}
    (h : y ∈ xs.getLast?) : y ∈ (x :: xs).getLast? := by
  cases xs with
  | nil => cases h
  | cons z zs => rwa [List.getLast?_cons_cons]

/-- **What starts with a colon adds segments behind** a part that ends outside of
parentheses and not with a colon of its own. -/
theorem segmentsFrom_append (pseudoElement : Bool) {depth : Nat}
    {us vs : List SpelledChar} {added : List Segment}
    (hdepth : depthBehind depth us = 0) (hlast : ∀ u ∈ us.getLast?, u.isRaw ':' = false)
    (hvs : ∀ pseudoElement,
      segmentsFrom pseudoElement 0 vs = (Segment.empty pseudoElement, added)) :
    segmentsFrom pseudoElement depth (us ++ vs) =
      ((segmentsFrom pseudoElement depth us).1,
        (segmentsFrom pseudoElement depth us).2 ++ added) := by
  induction pseudoElement, depth, us using segmentsFrom.induct with
  | case1 pseudoElement depth =>
      obtain rfl : depth = 0 := hdepth
      rw [List.nil_append, hvs]
      simp [segmentsFrom]
  | case2 pseudoElement depth u hdivides v us hcolon opened later hrest ih =>
      obtain ⟨hu, rfl⟩ := hdivides
      obtain rfl : u = dividingColon := (isRaw_iff u ':').1 hu
      obtain rfl : v = dividingColon := (isRaw_iff v ':').1 hcolon
      have htail := ih hdepth fun w hw => hlast w (mem_getLast?_cons (mem_getLast?_cons hw))
      rw [List.cons_append, List.cons_append, segmentsFrom_colons, segmentsFrom_colons, htail]
      rfl
  | case3 pseudoElement depth u hdivides v us hcolon opened later hrest ih =>
      obtain ⟨hu, rfl⟩ := hdivides
      obtain rfl : u = dividingColon := (isRaw_iff u ':').1 hu
      have hv : v.isRaw ':' = false := by simpa using hcolon
      have htail := ih hdepth fun w hw => hlast w (mem_getLast?_cons hw)
      rw [List.cons_append] at htail
      rw [List.cons_append, List.cons_append, segmentsFrom_colon _ hv,
        segmentsFrom_colon _ hv, htail]
      rfl
  | case4 pseudoElement depth u hdivides =>
      have hraw := hlast u (by simp)
      rw [hdivides.1] at hraw
      cases hraw
  | case5 pseudoElement depth u us hjoins opened later hrest ih =>
      have htail := ih hdepth fun w hw => hlast w (mem_getLast?_cons hw)
      rw [List.cons_append, segmentsFrom_cons _ hjoins, segmentsFrom_cons _ hjoins, htail]

/-- The segment that literal characters make on their own. -/
theorem prepend_empty_of_literal (pseudoElement : Bool) {us : List SpelledChar}
    (h : ∀ u ∈ us, u.IsLiteral) :
    (Segment.empty pseudoElement).prepend us =
      ⟨us.map SpelledChar.char, pseudoElement, false⟩ := by
  have hany : us.any (·.isRaw '(') = false := by
    rw [List.any_eq_false]
    intro u hu
    rw [(h u hu).isRaw_eq_false (by decide)]
    exact Bool.false_ne_true
  rw [Segment.prepend_eq, hany]
  simp [Segment.empty]

/-- **Literal characters with single colons between them** make one segment each,
if there are some behind every colon. -/
theorem segmentsFrom_intercalate (pseudoElement : Bool) {us : List SpelledChar}
    {later : List (List SpelledChar)} (hus : ∀ u ∈ us, u.IsLiteral)
    (hlater : ∀ vs ∈ later, vs ≠ [] ∧ ∀ u ∈ vs, u.IsLiteral) :
    segmentsFrom pseudoElement 0 ([dividingColon].intercalate (us :: later)) =
      (⟨us.map SpelledChar.char, pseudoElement, false⟩,
        later.map fun vs => ⟨vs.map SpelledChar.char, false, false⟩) := by
  induction later generalizing pseudoElement us with
  | nil =>
      have h := segmentsFrom_of_unbroken pseudoElement (unbroken_of_literal 0 hus) []
      rw [List.append_nil, depthBehind_of_literal 0 hus, segmentsFrom,
        prepend_empty_of_literal pseudoElement hus] at h
      rw [List.intercalate_singleton, h, List.map_nil]
  | cons vs rest ih =>
      obtain ⟨hne, hvs⟩ := hlater vs List.mem_cons_self
      have htail := ih false hvs fun ws hws => hlater ws (List.mem_cons_of_mem vs hws)
      have hhead : ∃ v ws, [dividingColon].intercalate (vs :: rest) = v :: ws ∧
          v.IsLiteral := by
        cases vs with
        | nil => exact absurd rfl hne
        | cons v ws =>
            exact ⟨v, _, List.intercalate_cons_cons_left, hvs v List.mem_cons_self⟩
      obtain ⟨v, ws, hjoined, hv⟩ := hhead
      rw [hjoined] at htail
      rw [List.intercalate_cons_cons, hjoined, List.append_assoc, List.singleton_append,
        segmentsFrom_of_unbroken _ (unbroken_of_literal 0 hus),
        depthBehind_of_literal 0 hus, segmentsFrom_colon _ (hv.isRaw_eq_false (by decide)),
        htail, prepend_empty_of_literal pseudoElement hus, List.map_cons]

/-- Literal characters alone make one segment. -/
theorem segments_of_literal {us : List SpelledChar} (h : ∀ u ∈ us, u.IsLiteral) :
    segments us = (⟨us.map SpelledChar.char, false, false⟩, []) := by
  have hsingle : segmentsFrom false 0 ([dividingColon].intercalate [us]) =
      (⟨us.map SpelledChar.char, false, false⟩, []) :=
    segmentsFrom_intercalate false h (by simp)
  rwa [List.intercalate_singleton] at hsingle

/-- A compound selector goes on over literal characters and colons. -/
theorem cutCompound_intercalate {units : List (List SpelledChar)}
    (h : ∀ us ∈ units, ∀ u ∈ us, u.IsLiteral) :
    cutCompound 0 ([dividingColon].intercalate units) = [dividingColon].intercalate units := by
  induction units with
  | nil => rfl
  | cons us rest ih =>
      have hus := h us List.mem_cons_self
      have htail := ih fun vs hvs => h vs (List.mem_cons_of_mem us hvs)
      cases rest with
      | nil =>
          rw [List.intercalate_singleton]
          exact cutCompound_of_unbroken (unbroken_of_literal 0 hus)
      | cons vs rest =>
          rw [List.intercalate_cons_cons, List.append_assoc, List.singleton_append,
            cutCompound_append_of_unbroken (unbroken_of_literal 0 hus),
            depthBehind_of_literal 0 hus, cutCompound_colon, htail]

/-- Members that are dropped anyway can as well not be there. -/
theorem dropTrailing_append {α : Type} {p : α → Bool} {xs ys : List α}
    (h : ∀ y ∈ ys, p y = true) : dropTrailing p (xs ++ ys) = dropTrailing p xs := by
  have hys : ∀ y ∈ ys.reverse, p y = true := fun y hy => h y (List.mem_reverse.1 hy)
  rw [dropTrailing, List.reverse_append, List.dropWhile_append_of_pos hys, dropTrailing]

/-- Nothing is dropped from behind a last member that stays. -/
theorem dropTrailing_eq_self {α : Type} {p : α → Bool} {xs : List α}
    (h : ∀ x ∈ xs.getLast?, p x = false) : dropTrailing p xs = xs := by
  rw [dropTrailing]
  cases hreverse : xs.reverse with
  | nil => simpa using hreverse.symm
  | cons x rest =>
      have hx : p x = false := by
        apply h
        rw [List.getLast?_eq_head?_reverse, hreverse]
        rfl
      rw [List.dropWhile_cons_of_neg (by simp [hx]), ← hreverse, List.reverse_reverse]

/-- **Native pseudo selectors at the end leave the class name alone**, before a
pseudo-element as well as behind one. -/
theorem variantSegments_append {later added : List Segment}
    (h : ∀ s ∈ added, s.isNativePseudo = true) :
    variantSegments (later ++ added) = variantSegments later := by
  unfold variantSegments
  rw [List.takeWhile_append]
  split
  · next hwhole =>
      -- No pseudo-element before the added segments: they are dropped from the end.
      have hkept : later.takeWhile (!·.pseudoElement) = later :=
        (List.takeWhile_prefix _).eq_of_length hwhole
      rw [hkept]
      exact dropTrailing_append fun s hs => h s (List.takeWhile_subset _ hs)
  · rfl

end ElmClasses.ClassName
