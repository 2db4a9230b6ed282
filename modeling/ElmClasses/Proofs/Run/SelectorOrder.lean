import ElmClasses.Css.Stylesheet
import ElmClasses.Proofs.Run.ClosedForm

/-!
# Runs over selectors in another order

A style sheet may list its rules in any order, and tools reorder them. For a run
the order decides which class comes first, hence where a class is declared and
which of two classes with one identifier owns it. So the recorded collisions of
two orders may have no entry in common.

What does not depend on the order is who takes part. `collisionsAmong` pairs every
class with the earliest class of its identifier, and all that matters in the end is
whether there is another class with that identifier at all
(`takesPart_collisionsAmong_iff`): the owner takes part through the first class that
came after it, every other class through its own collision. That condition does not
mention places in the list, so it survives a permutation; and the number of
collisions is the number of classes less that of distinct identifiers.

## Main results

* `takesPart_collisionsAmong_iff`: the classes that take part in collisions.
* `performAll_perm`: what two orders of the same selectors have in common.
-/

namespace ElmClasses.Run

/-- A class takes part in a collision on an identifier: it owns the identifier, or it
is the class that came later. -/
def TakesPart (collisions : List Collision) (identifier cls : String) : Prop :=
  ∃ c ∈ collisions, c.identifier = identifier ∧ (c.firstClass = cls ∨ c.secondClass = cls)

instance (collisions : List Collision) (identifier cls : String) :
    Decidable (TakesPart collisions identifier cls) :=
  inferInstanceAs (Decidable (∃ c ∈ collisions, _))

theorem takesPart_append (first second : List Collision) (identifier cls : String) :
    TakesPart (first ++ second) identifier cls ↔
      TakesPart first identifier cls ∨ TakesPart second identifier cls := by
  simp only [TakesPart, List.mem_append, or_and_right, exists_or]

theorem takesPart_singleton (c : Collision) (identifier cls : String) :
    TakesPart [c] identifier cls ↔
      c.identifier = identifier ∧ (c.firstClass = cls ∨ c.secondClass = cls) := by
  simp only [TakesPart, List.mem_singleton, exists_eq_left]

section Collisions

variable (identifierOf : String → String)

/-- A class shares an identifier with another class of a list. -/
def Shares (classes : List String) (identifier cls : String) : Prop :=
  cls ∈ classes ∧ identifierOf cls = identifier ∧
    ∃ other ∈ classes, other ≠ cls ∧ identifierOf other = identifier

/-- One more class shares nothing if its identifier is new. -/
theorem shares_concat_of_new {classes : List String} {cls : String}
    (hnew : identifierOf cls ∉ classes.map identifierOf) (identifier c : String) :
    Shares identifierOf (classes ++ [cls]) identifier c ↔
      Shares identifierOf classes identifier c := by
  have hne : ∀ other ∈ classes, identifierOf other ≠ identifierOf cls := by
    intro other hother heq
    exact hnew (heq ▸ List.mem_map_of_mem hother)
  constructor
  · rintro ⟨hc, rfl, other, hother, hother_ne, hsame⟩
    rw [List.mem_append, List.mem_singleton] at hc hother
    rcases hc with hc | rfl
    · rcases hother with hother | rfl
      · exact ⟨hc, rfl, other, hother, hother_ne, hsame⟩
      · exact absurd hsame.symm (hne c hc)
    · rcases hother with hother | rfl
      · exact absurd hsame (hne other hother)
      · exact absurd rfl hother_ne
  · rintro ⟨hc, hid, other, hother, hother_ne, hsame⟩
    exact ⟨List.mem_append_left _ hc, hid, other, List.mem_append_left _ hother, hother_ne, hsame⟩

/-- One more class shares its identifier with an owner that was there, and brings no
further classes but these two to those that share an identifier. -/
theorem shares_concat_of_owner {classes : List String} {cls owner : String}
    (hnew : cls ∉ classes) (howner : owner ∈ classes)
    (hsame : identifierOf owner = identifierOf cls) (identifier c : String) :
    Shares identifierOf (classes ++ [cls]) identifier c ↔
      Shares identifierOf classes identifier c ∨
        identifierOf cls = identifier ∧ (owner = c ∨ cls = c) := by
  have hne : owner ≠ cls := fun heq => hnew (heq ▸ howner)
  constructor
  · rintro ⟨hc, rfl, other, hother, hother_ne, hid⟩
    rw [List.mem_append, List.mem_singleton] at hc hother
    rcases hc with hc | rfl
    · rcases hother with hother | rfl
      · exact .inl ⟨hc, rfl, other, hother, hother_ne, hid⟩
      · -- The new class is the only other one, so look whether `c` is the owner.
        by_cases heq : owner = c
        · exact .inr ⟨hid, .inl heq⟩
        · exact .inl ⟨hc, rfl, owner, howner, heq, hsame.trans hid⟩
    · exact .inr ⟨rfl, .inr rfl⟩
  · rintro (⟨hc, hid, other, hother, hother_ne, hsame'⟩ | ⟨rfl, rfl | rfl⟩)
    · exact ⟨List.mem_append_left _ hc, hid, other, List.mem_append_left _ hother, hother_ne,
        hsame'⟩
    · exact ⟨List.mem_append_left _ howner, hsame, cls, by simp, hne.symm, rfl⟩
    · exact ⟨by simp, rfl, owner, List.mem_append_left _ howner, hne, hsame⟩

/-- **The classes that take part in collisions are those that share an identifier**,
whatever place they have in the list. -/
theorem takesPart_collisionsAmong_iff {classes : List String} (hnodup : classes.Nodup)
    (identifier cls : String) :
    TakesPart (collisionsAmong identifierOf classes) identifier cls ↔
      Shares identifierOf classes identifier cls := by
  induction classes using List.reverseRecOn with
  | nil => simp [TakesPart, Shares, collisionsAmong, collisionsFrom]
  | append_singleton classes new ih =>
      obtain ⟨hclasses, -, hapart⟩ := List.nodup_append.1 hnodup
      have hnew : new ∉ classes := fun hmem => hapart new hmem new List.mem_cons_self rfl
      have ih := ih hclasses
      rw [collisionsAmong_concat, takesPart_append, ih]
      cases hwith : collisionWith? identifierOf classes new with
      | none =>
          have hfree := (collisionWith?_eq_none_iff identifierOf classes new).1 hwith
          rw [shares_concat_of_new identifierOf hfree]
          simp [TakesPart]
      | some c =>
          obtain ⟨owner, hfind, rfl⟩ := Option.map_eq_some_iff.1 hwith
          have howner : owner ∈ classes := List.mem_of_find?_eq_some hfind
          have hsame : identifierOf owner = identifierOf new := by
            simpa using List.find?_some hfind
          rw [shares_concat_of_owner identifierOf hnew howner hsame, Option.toList_some,
            takesPart_singleton]

/-- Sharing an identifier is a matter of membership. -/
theorem shares_perm {classes shuffled : List String} (h : classes.Perm shuffled)
    (identifier cls : String) :
    Shares identifierOf classes identifier cls ↔ Shares identifierOf shuffled identifier cls := by
  simp only [Shares, h.mem_iff]

/-- As many collisions come about in any order. -/
theorem length_collisionsAmong_perm {classes shuffled : List String}
    (h : classes.Perm shuffled) :
    (collisionsAmong identifierOf classes).length =
      (collisionsAmong identifierOf shuffled).length := by
  have hclasses := length_collisionsAmong identifierOf classes
  have hshuffled := length_collisionsAmong identifierOf shuffled
  have hlength : classes.length = shuffled.length := h.length_eq
  have hdistinct : (classes.map identifierOf).eraseDups.length =
      (shuffled.map identifierOf).eraseDups.length :=
    (eraseDups_perm (h.map identifierOf)).length_eq
  omega

end Collisions

/-! ## Two orders of the same selectors -/

/-- **The order of the selectors changes only the order of the output.** Let two runs
of one configuration be fed the same selectors, each as often, in two orders. Their
modules stand in the same slots, and modules in one slot hold the same declarations:
the same classes with the same identifiers and texts. They have equally many
collisions, and for every identifier the same classes take part in these. -/
theorem performAll_perm [StylesheetLibrary] (config : Config) {calls shuffled : List Call}
    (h : (calls.flatMap Call.selectors).Perm (shuffled.flatMap Call.selectors)) :
    let run := ((start config).performAll calls).value.2
    let other := ((start config).performAll shuffled).value.2
    List.Forall₂ (fun draft twin => draft.slot = twin.slot ∧
      draft.declarations.toList.Perm twin.declarations.toList) run.modules other.modules ∧
      run.collisions.size = other.collisions.size ∧
      ∀ identifier cls, TakesPart run.collisions.toList identifier cls ↔
        TakesPart other.collisions.toList identifier cls := by
  intro run other
  let classes := classesOf (calls.flatMap Call.selectors)
  let shuffledClasses := classesOf (shuffled.flatMap Call.selectors)
  have hrun : Reflects run config classes := performAll_reflects config calls
  have hother : Reflects other config shuffledClasses := performAll_reflects config shuffled
  have hclasses : classes.Perm shuffledClasses := classesOf_perm h
  refine ⟨?_, ?_, ?_⟩
  · apply (hrun.modules_forall₂ hother).imp
    rintro draft twin ⟨hslot, hdraft, htwin⟩
    rw [hdraft, htwin]
    exact ⟨hslot, hclasses.map _⟩
  · rw [← Array.length_toList, ← Array.length_toList, hrun.collisions_eq, hother.collisions_eq]
    exact length_collisionsAmong_perm config.identifierOf hclasses
  · intro identifier cls
    rw [hrun.collisions_eq, hother.collisions_eq, takesPart_collisionsAmong_iff _ hrun.nodup,
      takesPart_collisionsAmong_iff _ hother.nodup]
    exact shares_perm config.identifierOf hclasses identifier cls

/-- Three classes with one identifier: in another order another one owns it, and no
collision is recorded as it was, but the same three take part. -/
theorem performAll_perm_widths :
    let calls : List Call :=
      [.rules [".w-1\\/2", ".w-1over2", ".w-1\\/2:hover"], .selector ".w_1over2"]
    let shuffled : List Call :=
      [.selector ".w_1over2", .rules [".w-1\\/2:hover", ".w-1over2", ".w-1\\/2"]]
    let run := ((start Config.default).performAll calls).value.2
    let other := ((start Config.default).performAll shuffled).value.2
    (calls.flatMap Call.selectors).Perm (shuffled.flatMap Call.selectors) ∧
      run.collisions.toList = [⟨"w_1over2", "w-1/2", "w-1over2"⟩,
        ⟨"w_1over2", "w-1/2", "w_1over2"⟩] ∧
      other.collisions.toList = [⟨"w_1over2", "w_1over2", "w-1/2"⟩,
        ⟨"w_1over2", "w_1over2", "w-1over2"⟩] ∧
      run.collisions.size = other.collisions.size ∧
      TakesPart other.collisions.toList "w_1over2" "w-1over2" := by
  intro calls shuffled run other
  have hperm : (calls.flatMap Call.selectors).Perm (shuffled.flatMap Call.selectors) := by
    decide +kernel
  have hrun : run.collisions.toList = [⟨"w_1over2", "w-1/2", "w-1over2"⟩,
      ⟨"w_1over2", "w-1/2", "w_1over2"⟩] := by
    rw [(performAll_reflects Config.default calls).collisions_eq]
    decide +kernel
  have hother : other.collisions.toList = [⟨"w_1over2", "w_1over2", "w-1/2"⟩,
      ⟨"w_1over2", "w_1over2", "w-1over2"⟩] := by
    rw [(performAll_reflects Config.default shuffled).collisions_eq]
    decide +kernel
  obtain ⟨-, hsize, hparts⟩ := performAll_perm Config.default hperm
  refine ⟨hperm, hrun, hother, hsize, (hparts "w_1over2" "w-1over2").1 ?_⟩
  show TakesPart run.collisions.toList "w_1over2" "w-1over2"
  rw [hrun]
  decide

end ElmClasses.Run
