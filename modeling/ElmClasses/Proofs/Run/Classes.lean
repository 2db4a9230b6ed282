import ElmClasses.Proofs.ClassTable
import ElmClasses.Proofs.Run.Calls

/-!
# Classes and collisions of a history

What a run knows about the selectors it was fed is, in the end, one list: the
distinct classes in the order in which they came first. This module says what
follows from such a list alone, without any run. Which classes collide is a
matter of the list and of the function that names a class: a class collides if
an earlier class of the list has its identifier, and it collides with the
*earliest* such class.

Both `classesOf` and `collisionsAmong` grow at the end when the history grows
at the end. The two `_concat` equations below are therefore all that an
induction over a run needs, and the consequences that follow them are proved by
induction from the end of the list.

## Main results

* `classesOf_concat`, `collisionsAmong_concat`: one more selector, one more class.
* `length_collisionsAmong`: as many collisions as classes without an identifier
  of their own.
* `collisionsAmong_eq_nil_iff`: no collisions exactly if the identifiers are
  distinct.
-/

namespace ElmClasses.Run

/-- The classes that selectors contribute, each where it came first. -/
def classesOf (selectors : List String) : List String :=
  (selectors.filterMap classOf?).eraseDups

theorem mem_classesOf {selectors : List String} {cls : String} :
    cls ∈ classesOf selectors ↔ ∃ selector ∈ selectors, classOf? selector = some cls := by
  rw [classesOf, List.mem_eraseDups, List.mem_filterMap]

/-- A list of classes after one more came. -/
def withClass (classes : List String) (cls : String) : List String :=
  if cls ∈ classes then classes else classes ++ [cls]

theorem classesOf_concat_of_eq_none (selectors : List String) {selector : String}
    (h : classOf? selector = none) :
    classesOf (selectors ++ [selector]) = classesOf selectors := by
  simp [classesOf, h]

/-- One more selector brings at most one more class. -/
theorem classesOf_concat (selectors : List String) {selector cls : String}
    (h : classOf? selector = some cls) :
    classesOf (selectors ++ [selector]) = withClass (classesOf selectors) cls := by
  have hfilter : (selectors ++ [selector]).filterMap classOf? =
      selectors.filterMap classOf? ++ [cls] := by
    simp [h]
  rw [classesOf, hfilter, eraseDups_concat, withClass, classesOf]
  simp only [List.mem_eraseDups]

/-- Selectors in another order contribute the same classes in another order. -/
theorem classesOf_perm {selectors shuffled : List String} (h : selectors.Perm shuffled) :
    (classesOf selectors).Perm (classesOf shuffled) :=
  eraseDups_perm (h.filterMap classOf?)

theorem isPrefix_withClass (classes : List String) (cls : String) :
    classes <+: withClass classes cls := by
  unfold withClass
  split
  · exact List.prefix_refl classes
  · exact List.prefix_append classes [cls]

/-- The classes of further selectors go behind those that were there. -/
theorem isPrefix_classesOf_append (earlier later : List String) :
    classesOf earlier <+: classesOf (earlier ++ later) := by
  induction later using List.reverseRecOn with
  | nil => simp only [List.append_nil, List.prefix_rfl]
  | append_singleton later selector ih =>
      rw [← List.append_assoc]
      cases hclass : classOf? selector with
      | none => rwa [classesOf_concat_of_eq_none _ hclass]
      | some cls =>
          rw [classesOf_concat _ hclass]
          exact ih.trans (isPrefix_withClass _ cls)

/-- Selectors whose classes were there bring nothing. -/
theorem classesOf_append_of_seen {earlier later : List String}
    (h : ∀ selector ∈ later, ∀ cls, classOf? selector = some cls → cls ∈ classesOf earlier) :
    classesOf (earlier ++ later) = classesOf earlier := by
  induction later using List.reverseRecOn with
  | nil => rw [List.append_nil]
  | append_singleton later selector ih =>
      have ih := ih fun s hs => h s (List.mem_append_left _ hs)
      rw [← List.append_assoc]
      cases hclass : classOf? selector with
      | none => rw [classesOf_concat_of_eq_none _ hclass, ih]
      | some cls =>
          have hseen : cls ∈ classesOf earlier := h selector (by simp) cls hclass
          rw [classesOf_concat _ hclass, ih, withClass, if_pos hseen]

/-! ## Collisions -/

section Collisions

variable (identifierOf : String → String)

/-- The collision of a class with the earliest of other classes that has its
identifier, if there is one. -/
def collisionWith? (earlier : List String) (cls : String) : Option Collision :=
  (earlier.find? fun owner => identifierOf owner = identifierOf cls).map fun owner =>
    ⟨identifierOf cls, owner, cls⟩

/-- The collisions of classes with classes before them. -/
def collisionsFrom (earlier : List String) : List String → List Collision
  | [] => []
  | cls :: later =>
    (collisionWith? identifierOf earlier cls).toList ++
      collisionsFrom (earlier ++ [cls]) later

/-- For each class of a list whose identifier an earlier class of the list has,
its collision with the earliest such class, in the order of the list. -/
def collisionsAmong (classes : List String) : List Collision :=
  collisionsFrom identifierOf [] classes

theorem collisionsFrom_concat (earlier classes : List String) (cls : String) :
    collisionsFrom identifierOf earlier (classes ++ [cls]) =
      collisionsFrom identifierOf earlier classes ++
        (collisionWith? identifierOf (earlier ++ classes) cls).toList := by
  induction classes generalizing earlier with
  | nil => simp [collisionsFrom]
  | cons head rest ih => simp [collisionsFrom, ih]

/-- A class at the end brings its own collision and leaves the others. -/
theorem collisionsAmong_concat (classes : List String) (cls : String) :
    collisionsAmong identifierOf (classes ++ [cls]) =
      collisionsAmong identifierOf classes ++
        (collisionWith? identifierOf classes cls).toList := by
  rw [collisionsAmong, collisionsFrom_concat, List.nil_append, collisionsAmong]

/-- Classes behind others bring further collisions and leave those that there were. -/
theorem isPrefix_collisionsAmong {classes more : List String} (h : classes <+: more) :
    collisionsAmong identifierOf classes <+: collisionsAmong identifierOf more := by
  obtain ⟨later, rfl⟩ := h
  induction later using List.reverseRecOn with
  | nil => simp only [List.append_nil, List.prefix_rfl]
  | append_singleton later cls ih =>
      rw [← List.append_assoc, collisionsAmong_concat]
      exact ih.trans (List.prefix_append _ _)

theorem find?_identifier_eq_none_iff (classes : List String) (identifier : String) :
    (classes.find? fun owner => identifierOf owner = identifier) = none ↔
      identifier ∉ classes.map identifierOf := by
  simp [List.find?_eq_none]

/-- A class is free of collisions exactly if its identifier is new. -/
theorem collisionWith?_eq_none_iff (classes : List String) (cls : String) :
    collisionWith? identifierOf classes cls = none ↔
      identifierOf cls ∉ classes.map identifierOf := by
  rw [collisionWith?, Option.map_eq_none_iff, find?_identifier_eq_none_iff]

theorem secondClass_of_collisionWith? {classes : List String} {cls : String} {c : Collision}
    (h : collisionWith? identifierOf classes cls = some c) : c.secondClass = cls := by
  obtain ⟨owner, -, rfl⟩ := Option.map_eq_some_iff.1 h
  rfl

/-- The classes that collide form a part of all classes, in their order. -/
theorem secondClasses_sublist (classes : List String) :
    ((collisionsAmong identifierOf classes).map Collision.secondClass).Sublist classes := by
  induction classes using List.reverseRecOn with
  | nil => exact List.Sublist.slnil
  | append_singleton classes cls ih =>
      rw [collisionsAmong_concat, List.map_append]
      refine List.Sublist.append ih ?_
      cases h : collisionWith? identifierOf classes cls with
      | none => exact List.nil_sublist _
      | some c => simp [secondClass_of_collisionWith? identifierOf h]

/-- Every class either has an identifier of its own or is reported once. -/
theorem length_collisionsAmong (classes : List String) :
    (collisionsAmong identifierOf classes).length +
      (classes.map identifierOf).eraseDups.length = classes.length := by
  induction classes using List.reverseRecOn with
  | nil => rfl
  | append_singleton classes cls ih =>
      rw [collisionsAmong_concat, List.map_append, List.map_singleton, eraseDups_concat]
      cases h : collisionWith? identifierOf classes cls with
      | none =>
          rw [if_neg ((collisionWith?_eq_none_iff identifierOf classes cls).1 h)]
          simp only [Option.toList_none, List.length_append, List.length_nil,
            List.length_singleton]
          omega
      | some c =>
          have hmem : identifierOf cls ∈ classes.map identifierOf := by
            by_contra hnew
            rw [(collisionWith?_eq_none_iff identifierOf classes cls).2 hnew] at h
            cases h
          rw [if_pos hmem]
          simp only [Option.toList_some, List.length_append, List.length_singleton]
          omega

/-- There are no collisions exactly if no two classes have one identifier. -/
theorem collisionsAmong_eq_nil_iff (classes : List String) :
    collisionsAmong identifierOf classes = [] ↔ (classes.map identifierOf).Nodup := by
  induction classes using List.reverseRecOn with
  | nil => simp [collisionsAmong, collisionsFrom]
  | append_singleton classes cls ih =>
      have htail : (collisionWith? identifierOf classes cls).toList = [] ↔
          identifierOf cls ∉ classes.map identifierOf := by
        rw [Option.toList_eq_nil_iff, collisionWith?_eq_none_iff]
      rw [collisionsAmong_concat, List.append_eq_nil_iff, ih, htail, List.map_append,
        List.map_singleton, List.nodup_append]
      constructor
      · rintro ⟨hnodup, hnew⟩
        refine ⟨hnodup, by simp, ?_⟩
        rintro y hy z hz rfl
        obtain rfl : y = identifierOf cls := by simpa using hz
        exact hnew hy
      · rintro ⟨hnodup, -, hdisjoint⟩
        exact ⟨hnodup, fun hmem => hdisjoint _ hmem _ (by simp) rfl⟩

end Collisions

/-- Naming that tells fewer classes apart reports all that were reported, and maybe more. -/
theorem secondClasses_sublist_of_coarser {finer coarser : String → String}
    {classes : List String} (h : ∀ cls ∈ classes, ∀ other ∈ classes,
      finer cls = finer other → coarser cls = coarser other) :
    ((collisionsAmong finer classes).map Collision.secondClass).Sublist
      ((collisionsAmong coarser classes).map Collision.secondClass) := by
  induction classes using List.reverseRecOn with
  | nil => exact List.Sublist.slnil
  | append_singleton classes cls ih =>
      have hclasses := ih fun c hc d hd =>
        h c (List.mem_append_left _ hc) d (List.mem_append_left _ hd)
      rw [collisionsAmong_concat, collisionsAmong_concat, List.map_append, List.map_append]
      refine hclasses.append ?_
      cases hfiner : collisionWith? finer classes cls with
      | none => exact List.nil_sublist _
      | some c =>
          -- The owner under the finer naming has the coarser identifier too.
          have howner : coarser cls ∈ classes.map coarser := by
            obtain ⟨owner, hfind, -⟩ := Option.map_eq_some_iff.1 hfiner
            have hmem := List.mem_of_find?_eq_some hfind
            have hsame : finer owner = finer cls := by simpa using List.find?_some hfind
            exact List.mem_map.2 ⟨owner, hmem,
              h owner (List.mem_append_left _ hmem) cls (by simp) hsame⟩
          cases hcoarser : collisionWith? coarser classes cls with
          | none => exact absurd howner ((collisionWith?_eq_none_iff coarser _ _).1 hcoarser)
          | some d => simp [secondClass_of_collisionWith? finer hfiner,
              secondClass_of_collisionWith? coarser hcoarser]

end ElmClasses.Run
