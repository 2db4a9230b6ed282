import ElmClasses.Proofs.ClassName.Segments

/-!
# The division of a compound selector

A segment is a text and two marks, and does not say which spelled characters of the compound
selector it was made of. To say that a division loses nothing and invents nothing, its
segments are traced back to `Stretch`es. A stretch consists of spelled characters in their
places, each with the parenthesis depth in front of it, counted from the start of the whole
compound selector (`placed`). `IsDivision` states what a division is: the stretches, each later
one behind its colons, are the compound selector, and no stretch has a dividing colon inside.

These two leave one thing open. Of several colons in a row two can be the mark of a
pseudo-element, or each can open a segment of its own. They are taken in pairs from the left,
so that between single colons there is always something (`IsDivision.paired`).

Each of the cases of `segmentsFrom` adds to a division of the rest: a character to the open
stretch (`IsDivision.join`), or one or two colons in front of it (`IsDivision.single`,
`IsDivision.double`).

## Main results

* `exists_isDivision`: what is open, and the segments behind it, come from a division.
* `segmentList_isDivision`: the segments of a compound selector spell it again.
-/

namespace ElmClasses.ClassName

/-- The segments of a compound selector from the first one on. -/
def segmentList (units : List SpelledChar) : List Segment :=
  (segments units).1 :: (segments units).2

/-- The colons in front of a segment that is not the first. -/
def Segment.colons (s : Segment) : List Char :=
  if s.pseudoElement then [':', ':'] else [':']

/-- The text of segments one after another, each but the first behind its colons. -/
def segmentsText : List Segment → List Char
  | [] => []
  | first :: later => first.text ++ later.flatMap fun s => s.colons ++ s.text

/-- A spelled character, and the parenthesis depth in front of it. -/
structure PlacedChar where
  spelled : SpelledChar
  depth : Nat

/-- Whether a spelled character divides the compound selector that it has its place in. -/
def PlacedChar.Divides (p : PlacedChar) : Prop :=
  p.spelled.isRaw ':' = true ∧ p.depth = 0

/-- Spelled characters in their places, from a parenthesis depth on. -/
def placed (depth : Nat) : List SpelledChar → List PlacedChar
  | [] => []
  | u :: us => ⟨u, depth⟩ :: placed (u.depthAfter depth) us

/-- The characters that a segment is made of. -/
structure Stretch where
  members : List PlacedChar
  /-- Two colons stand before the stretch. -/
  pseudoElement : Bool

namespace Stretch

/-- The segment of a stretch has its characters as text. It is functional exactly if one of
them is an opening parenthesis that no escape spelled. -/
def segment (s : Stretch) : Segment where
  text := s.members.map fun p => p.spelled.char
  pseudoElement := s.pseudoElement
  functional := s.members.any fun p => p.spelled.isRaw '('

/-- The dividing colons in front of a stretch that is not the first. -/
def colons (s : Stretch) : List PlacedChar :=
  if s.pseudoElement then [⟨dividingColon, 0⟩, ⟨dividingColon, 0⟩] else [⟨dividingColon, 0⟩]

end Stretch

theorem map_placed (depth : Nat) (us : List SpelledChar) :
    (placed depth us).map (fun p => p.spelled.char) = us.map SpelledChar.char := by
  induction us generalizing depth with
  | nil => rfl
  | cons u us ih => rw [placed, List.map_cons, ih, List.map_cons]

/-- The segments of stretches spell what the stretches and their colons do. -/
theorem segmentsText_stretches (opened : Stretch) (later : List Stretch) :
    segmentsText (opened.segment :: later.map Stretch.segment) =
      (opened.members ++ later.flatMap fun s => s.colons ++ s.members).map
        fun p => p.spelled.char := by
  have hcolons : ∀ s : Stretch,
      s.segment.colons = s.colons.map fun p => p.spelled.char := by
    rintro ⟨members, pseudoElement⟩
    cases pseudoElement <;> rfl
  have hlater : (later.map Stretch.segment).flatMap (fun s => s.colons ++ s.text) =
      (later.flatMap fun s => s.colons ++ s.members).map fun p => p.spelled.char := by
    induction later with
    | nil => rfl
    | cons s rest ih =>
        rw [List.map_cons, List.flatMap_cons, ih, List.flatMap_cons, List.map_append,
          List.map_append, hcolons]
        rfl
  rw [segmentsText, hlater, List.map_append]
  rfl

/-! ## Divisions -/

/-- The spelled characters `us`, from a parenthesis depth on, are the ones in `opened` and then
the stretches `later`, divided by colons. -/
structure IsDivision (depth : Nat) (us : List SpelledChar) (opened : List PlacedChar)
    (later : List Stretch) : Prop where
  /-- Nothing is lost, nothing comes in, and nothing changes its place. -/
  joined : opened ++ (later.flatMap fun s => s.colons ++ s.members) = placed depth us
  opened_undivided : ∀ p ∈ opened, ¬ p.Divides
  later_undivided : ∀ s ∈ later, ∀ p ∈ s.members, ¬ p.Divides
  /-- No two colons in a row are two single colons. -/
  paired : ∀ s ∈ later.dropLast, s.pseudoElement = false → s.members ≠ []

namespace IsDivision

theorem nil (depth : Nat) : IsDivision depth [] [] [] where
  joined := rfl
  opened_undivided := by simp
  later_undivided := by simp
  paired := by simp

variable {depth : Nat} {us : List SpelledChar} {opened : List PlacedChar}
  {later : List Stretch}

/-- Anything but a dividing colon joins the open stretch. -/
theorem join {u : SpelledChar} (hu : ¬ (u.isRaw ':' = true ∧ depth = 0))
    (h : IsDivision (u.depthAfter depth) us opened later) :
    IsDivision depth (u :: us) (⟨u, depth⟩ :: opened) later where
  joined := by rw [List.cons_append, h.joined, placed]
  opened_undivided := List.forall_mem_cons.2 ⟨hu, h.opened_undivided⟩
  later_undivided := h.later_undivided
  paired := h.paired

/-- Two colons close the open stretch. -/
theorem double (h : IsDivision 0 us opened later) :
    IsDivision 0 (dividingColon :: dividingColon :: us) [] (⟨opened, true⟩ :: later) where
  joined := by
    have hplaced : placed 0 (dividingColon :: dividingColon :: us) =
        ⟨dividingColon, 0⟩ :: ⟨dividingColon, 0⟩ :: placed 0 us := rfl
    rw [hplaced, ← h.joined]
    rfl
  opened_undivided := by simp
  later_undivided := List.forall_mem_cons.2 ⟨h.opened_undivided, h.later_undivided⟩
  paired := by
    intro s hs hsingle
    cases later with
    | nil => cases hs
    | cons next rest =>
        rcases List.mem_cons.1 hs with rfl | hs
        · cases hsingle
        · exact h.paired s hs hsingle

/-- A single colon closes the open stretch if no other colon follows. -/
theorem single (hnext : ∀ v ∈ us.head?, v.isRaw ':' = false)
    (h : IsDivision 0 us opened later) :
    IsDivision 0 (dividingColon :: us) [] (⟨opened, false⟩ :: later) where
  joined := by
    have hplaced : placed 0 (dividingColon :: us) = ⟨dividingColon, 0⟩ :: placed 0 us := rfl
    rw [hplaced, ← h.joined]
    rfl
  opened_undivided := by simp
  later_undivided := List.forall_mem_cons.2 ⟨h.opened_undivided, h.later_undivided⟩
  paired := by
    intro s hs hsingle
    cases later with
    | nil => cases hs
    | cons next rest =>
        rcases List.mem_cons.1 hs with rfl | hs
        · -- Behind an empty stretch the colons of the next one would follow at once.
          rintro rfl
          have hjoined := h.joined
          obtain ⟨behind, hcolon⟩ : ∃ behind, next.colons = ⟨dividingColon, 0⟩ :: behind := by
            unfold Stretch.colons
            split <;> exact ⟨_, rfl⟩
          rw [List.nil_append, List.flatMap_cons, hcolon] at hjoined
          cases us with
          | nil => cases hjoined
          | cons v vs =>
              obtain ⟨hv, -⟩ := List.cons.inj hjoined
              obtain rfl : dividingColon = v := congrArg PlacedChar.spelled hv
              exact absurd (hnext dividingColon rfl) (by decide)
        · exact h.paired s hs hsingle

end IsDivision

/-- **Segments come from a division.** The segment that is open, and those behind it, are the
segments of stretches. -/
theorem exists_isDivision (pseudoElement : Bool) (depth : Nat) (us : List SpelledChar) :
    ∃ opened later, IsDivision depth us opened later ∧
      segmentsFrom pseudoElement depth us =
        (Stretch.segment ⟨opened, pseudoElement⟩, later.map Stretch.segment) := by
  induction pseudoElement, depth, us using segmentsFrom.induct with
  | case1 pseudoElement depth =>
      refine ⟨[], [], .nil depth, ?_⟩
      rw [segmentsFrom]
      rfl
  | case2 pseudoElement depth u hdivides v us hcolon _ _ _ ih =>
      obtain ⟨hu, rfl⟩ := hdivides
      obtain rfl : u = dividingColon := (isRaw_iff u ':').1 hu
      obtain rfl : v = dividingColon := (isRaw_iff v ':').1 hcolon
      obtain ⟨opened, later, hdivision, hsegments⟩ := ih
      refine ⟨[], ⟨opened, true⟩ :: later, hdivision.double, ?_⟩
      rw [segmentsFrom_colons, hsegments]
      rfl
  | case3 pseudoElement depth u hdivides v us hcolon _ _ _ ih =>
      obtain ⟨hu, rfl⟩ := hdivides
      obtain rfl : u = dividingColon := (isRaw_iff u ':').1 hu
      have hv : v.isRaw ':' = false := by simpa using hcolon
      obtain ⟨opened, later, hdivision, hsegments⟩ := ih
      refine ⟨[], ⟨opened, false⟩ :: later, hdivision.single (by simpa using hv), ?_⟩
      rw [segmentsFrom_colon _ hv, hsegments]
      rfl
  | case4 pseudoElement depth u hdivides =>
      obtain ⟨hu, rfl⟩ := hdivides
      obtain rfl : u = dividingColon := (isRaw_iff u ':').1 hu
      refine ⟨[], [⟨[], false⟩], (IsDivision.nil 0).single (by simp), ?_⟩
      rw [segmentsFrom]
      rfl
  | case5 pseudoElement depth u us hjoins _ _ _ ih =>
      obtain ⟨opened, later, hdivision, hsegments⟩ := ih
      refine ⟨⟨u, depth⟩ :: opened, later, hdivision.join hjoins, ?_⟩
      rw [segmentsFrom_cons _ hjoins, hsegments]
      rfl

/-- **The segments of a compound selector spell it again.** There is at least one, and they are
those of a division: none has a colon inside that divides, and one is functional exactly if it
has an opening parenthesis that no escape spelled. -/
theorem segmentList_isDivision (units : List SpelledChar) :
    segmentList units ≠ [] ∧
      segmentsText (segmentList units) = units.map SpelledChar.char ∧
      ∃ opened later, IsDivision 0 units opened later ∧
        segmentList units = Stretch.segment ⟨opened, false⟩ :: later.map Stretch.segment := by
  obtain ⟨opened, later, hdivision, hsegments⟩ := exists_isDivision false 0 units
  have hlist : segmentList units =
      Stretch.segment ⟨opened, false⟩ :: later.map Stretch.segment := by
    rw [segmentList, segments, hsegments]
  refine ⟨List.cons_ne_nil _ _, ?_, opened, later, hdivision, hlist⟩
  rw [hlist, segmentsText_stretches, hdivision.joined, map_placed]

end ElmClasses.ClassName
