import ElmClasses.Proofs.Elm.ValueName
import ElmClasses.Proofs.Elm.Words

/-!
# Value names as fixed points

Naming an ASCII class gives a value name, unless the prefix has a hyphen inside. This
module shows the other half: a value name, taken as a class, is its own name. So naming
is a projection onto the value names. It leaves alone what is one already, naming twice
is naming once, and every value name is the name of some class.

Nothing on the way finds anything to do in a value name. It has no colon, so it is one
segment; no hyphen, so no prefix is split off it and it has no sign; and neither a dot
nor a slash, so it is one word (`wordGroups_name`). One word is joined to itself, also in
camel style, because it starts with a lower case letter (`joined_name`), and for the same
reason its start needs no repair. That it is not reserved, which is the last repair to be
decided, is part of what a value name is (`repaired_name`).

## Main results

* `ofClassText_name`: a value name is its own name.
* `valueName_projection`: naming is a projection onto the value names.
-/

namespace ElmClasses.Elm

open Text

namespace ValueName

theorem isWordChar_of_isNameChar {c : Char} (h : isNameChar c = true) :
    isWordChar c = true := by
  rwa [isWordChar, isAlphanumeric_of_ascii (toNat_lt_of_isNameChar h)]

section OneWord

variable {name : List Char}

/-- A word alone is the only one of its segment, whatever the prefix is: no hyphen divides
one from it. -/
theorem segmentWords_name (hne : name ≠ []) (hchars : ∀ c ∈ name, isWordChar c = true)
    (utilityPrefix : List Char) : segmentWords utilityPrefix name = [name] := by
  have hhyphen : '-' ∉ name := notMem_of_isWordChar hchars (by decide)
  have hsigned : signedWords name = [name] := by
    have hplain := signedWords_append hne hchars []
    rw [List.append_nil] at hplain
    rw [hplain, words_eq_singleton hne hchars]
  unfold segmentWords
  split
  · exact hsigned
  · split
    · next rest hrest =>
        have hsplit := List.isPrefixOf?_eq_some_iff_append_eq.1 hrest
        refine absurd ?_ hhyphen
        rw [← hsplit]
        simp
    · exact hsigned

theorem wordGroups_name (hne : name ≠ []) (hchars : ∀ c ∈ name, isWordChar c = true)
    (utilityPrefix : List Char) : wordGroups utilityPrefix name = [[name]] := by
  have hcolon : ':' ∉ name := notMem_of_isWordChar hchars (by decide)
  rw [wordGroups, List.splitOn_eq_singleton hcolon, List.map_singleton,
    segmentWords_name hne hchars]
  rfl

end OneWord

/-- What the first character of a value name is not. -/
theorem isLower_spec {c : Char} (h : c.isLower = true) :
    c.toNat < 0x80 ∧ c.toLower = c ∧ c.isUpper = false ∧ c.isDigit = false ∧ c ≠ '_' := by
  have hascii := toNat_lt_of_isLower h
  obtain ⟨-, hother, -, -, hlower⟩ := case_of_ascii hascii
  obtain ⟨hupper, hdigit⟩ := hlower h
  refine ⟨hascii, hother hupper, hupper, hdigit, ?_⟩
  rintro rfl
  exact absurd h (by decide)

/-- One word is joined to itself, in either style. -/
theorem joined_name (style : NameStyle) {c : Char} (hc : c.isLower = true) (cs : List Char) :
    joined style [[c :: cs]] = c :: cs := by
  obtain ⟨hascii, hlower, -⟩ := isLower_spec hc
  cases style with
  | snake => simp only [joined, List.map_singleton, List.intercalate_singleton]
  | camel =>
      show uncapitalized (c :: cs) ++ [] = c :: cs
      rw [List.append_nil, uncapitalized, lowercase_of_ascii hascii, hlower,
        List.singleton_append]

theorem repairedStart_name (style : NameStyle) {c : Char} (hc : c.isLower = true)
    (cs : List Char) : repairedStart style (c :: cs) = c :: cs := by
  obtain ⟨hascii, -, hupper, hdigit, hunderscore⟩ := isLower_spec hc
  simp only [repairedStart, isNumeric_of_ascii hascii, isUppercase_of_ascii hascii, hupper,
    hdigit, if_neg hunderscore, Bool.false_eq_true, if_false]

/-- No repair changes a value name. -/
theorem repaired_name (style : NameStyle) {c : Char} {cs : List Char}
    (h : IsValueName (c :: cs)) (hc : c.isLower = true) :
    repaired style (c :: cs) = c :: cs := by
  have hfree : ¬ isReserved (c :: cs) = true := by
    intro hreserved
    obtain ⟨word, hword, heq⟩ := List.any_eq_true.1 hreserved
    exact h.not_reserved word hword (eq_of_beq heq).symm
  rw [repaired, repairedStart_name style hc]
  exact if_neg hfree

/-- **A value name is its own name**, in either style and whatever the prefix is. -/
theorem ofClassText_name (style : NameStyle) (utilityPrefix : List Char) {name : List Char}
    (h : IsValueName name) : ofClassText style utilityPrefix name = name := by
  obtain ⟨c, hhead, hc⟩ := h.start_isLower
  obtain ⟨cs, rfl⟩ := List.head?_eq_some_iff.1 hhead
  have hchars : ∀ d ∈ c :: cs, isWordChar d = true := fun d hd =>
    isWordChar_of_isNameChar (h.chars d hd)
  rw [ofClassText, wordGroups_name (List.cons_ne_nil c cs) hchars, joined_name style hc,
    repaired_name style h hc]

/-- The name of an ASCII class is valid if the prefix brings no hyphen. -/
theorem isValueName_ofClassText (style : NameStyle) {utilityPrefix cls : List Char}
    (hclean : IsClean (trimHyphens utilityPrefix)) (hcls : ∀ c ∈ cls, c.toNat < 0x80) :
    IsValueName (ofClassText style utilityPrefix cls) :=
  isValueName_repaired style
    (joined_clean style (wordGroups_clean hcls fun _ _ _ => hclean))

end ValueName

/-- **Naming is a projection onto the value names.** Let the prefix, without the hyphens
around it, hold only ASCII letters, digits and underscores. Then a value name is its own
name, and the name of an ASCII class is a value name. So naming twice is naming once, and
the names of ASCII classes are exactly the value names. -/
theorem valueName_projection (style : NameStyle) {utilityPrefix : String}
    (hchars : ∀ c ∈ ValueName.trimHyphens utilityPrefix.toList, isNameChar c = true) :
    (∀ name : String, IsValueName name.toList → valueName style utilityPrefix name = name) ∧
      (∀ cls : String, (∀ c ∈ cls.toList, c.toNat < 0x80) →
        IsValueName (valueName style utilityPrefix cls).toList) ∧
      (∀ cls : String, (∀ c ∈ cls.toList, c.toNat < 0x80) →
        valueName style utilityPrefix (valueName style utilityPrefix cls) =
          valueName style utilityPrefix cls) ∧
      ∀ name : String, IsValueName name.toList ↔
        ∃ cls : String, (∀ c ∈ cls.toList, c.toNat < 0x80) ∧
          valueName style utilityPrefix cls = name := by
  have hfixed : ∀ name : String, IsValueName name.toList →
      valueName style utilityPrefix name = name := by
    intro name hname
    rw [valueName, ValueName.ofClassText_name style _ hname, String.ofList_toList]
  have hvalid : ∀ cls : String, (∀ c ∈ cls.toList, c.toNat < 0x80) →
      IsValueName (valueName style utilityPrefix cls).toList := by
    intro cls hcls
    rw [valueName, String.toList_ofList]
    exact ValueName.isValueName_ofClassText style hchars hcls
  refine ⟨hfixed, hvalid, fun cls hcls => hfixed _ (hvalid cls hcls), fun name => ?_⟩
  constructor
  · intro hname
    have hascii : ∀ c ∈ name.toList, c.toNat < 0x80 := fun c hc =>
      ValueName.toNat_lt_of_isNameChar (hname.chars c hc)
    exact ⟨name, hascii, hfixed name hname⟩
  · rintro ⟨cls, hcls, rfl⟩
    exact hvalid cls hcls

/-- A class that becomes a reserved word only when its capital is replaced: the underscore
that repairs it stays the only one. -/
theorem valueName_projection_type :
    (∀ c ∈ ValueName.trimHyphens "-tw_2-".toList, isNameChar c = true) ∧
      valueName .camel "-tw_2-" "Type" = "type_" ∧
      valueName .camel "-tw_2-" "type_" = "type_" ∧
      IsValueName (valueName .snake "-tw_2-" "tw_2--2xl:/1.5").toList := by
  have hchars : ∀ c ∈ ValueName.trimHyphens "-tw_2-".toList, isNameChar c = true :=
    forall_mem_of_all (by decide)
  have htype : valueName .camel "-tw_2-" "Type" = "type_" := by decide +kernel
  obtain ⟨-, -, htwice, -⟩ := valueName_projection .camel hchars
  obtain ⟨-, hvalid, -, -⟩ := valueName_projection .snake hchars
  refine ⟨hchars, htype, ?_, hvalid _ (forall_mem_of_all (by decide))⟩
  have hagain := htwice "Type" (forall_mem_of_all (by decide))
  rwa [htype] at hagain

end ElmClasses.Elm
