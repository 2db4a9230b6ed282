import Mathlib.Data.List.Basic
import ElmClasses.Elm.Module
import ElmClasses.Proofs.ClassTable
import ElmClasses.Proofs.Text.Basic

/-!
# Reading module texts

The text of a module is put together without any marks of length: a header line,
the lines of the exposing list, the imports of the format, and the declarations
one behind the other. The types, functions and imports that a format asks for may
be any texts, and the classes too, so that a class may look like a declaration.

Still the text can be read back by whoever knows the module name and the format.
`readModule?` does so, and takes nothing from the draft that was rendered: the
exposing list is read line by line, and a declaration is read from its first line,
which ends with the known annotation, up to the closing quote of its literal. That
identifiers have no line breaks is all that this needs. `readModule?_render` says
that what is read is what the draft holds, whatever was declared before; so two
drafts with one text hold the same classes under the same identifiers.

## Main results

* `readLiteral_literalText`: every text survives being written as a literal.
* `readMany_flatMap`: texts written one behind the other are read one by one.
* `IsTidy.declareAll`: a draft keeps to its format over all that is declared.
* `IsTidy.readModule?_text`: the text of such a draft is read back.
* `readModule?_render`: so is every rendered module, whatever was declared in it.
-/

namespace ElmClasses.Elm

/-!
## String literals

A single-line string literal ends at the first double quote that no backslash
stands before. Until then a backslash and the character behind it spell one
character, a line feed is an error, and everything else stands for itself.
`readLiteral` reads a literal by these rules and gives what it spells, and what
follows it.

Every text survives being written as a literal and read back, whatever stands
behind it (`readLiteral_literalText`), and the literal stays on its line
(`newline_notMem_literalText`). The escapes of the quote, the backslash and the
line feed are each needed for that, and no others are.
-/

/-- The character that a character behind a backslash spells. -/
def unescaped? (c : Char) : Option Char :=
  if c = '"' then some '"'
  else if c = '\\' then some '\\'
  else if c = 'n' then some '\n'
  else none

/-- Read a string literal behind its opening quote: the text that it spells, and what
follows its closing quote. -/
def readLiteralChars : List Char → Option (List Char × List Char)
  | [] => none
  | '"' :: cs => some ([], cs)
  | '\n' :: _ => none
  | '\\' :: c :: cs =>
    match unescaped? c, readLiteralChars cs with
    | some d, some (text, rest) => some (d :: text, rest)
    | _, _ => none
  | c :: cs =>
    match readLiteralChars cs with
    | some (text, rest) => some (c :: text, rest)
    | none => none

/-- Read a string literal. -/
def readLiteral : List Char → Option (List Char × List Char)
  | '"' :: cs => readLiteralChars cs
  | _ => none

/-- One character of a literal is read as the character that it was written for. -/
theorem readLiteralChars_literalChar {c : Char} {cs text rest : List Char}
    (h : readLiteralChars cs = some (text, rest)) :
    readLiteralChars (literalChar c ++ cs) = some (c :: text, rest) := by
  unfold literalChar
  by_cases hquote : c = '"'
  · subst hquote
    simp [readLiteralChars, unescaped?, h]
  · by_cases hbackslash : c = '\\'
    · subst hbackslash
      simp [readLiteralChars, unescaped?, h]
    · by_cases hline : c = '\n'
      · subst hline
        simp [readLiteralChars, unescaped?, h]
      · rw [if_neg hquote, if_neg hbackslash, if_neg hline, List.singleton_append]
        simp [readLiteralChars, hbackslash, h]

/-- **A text written as a literal is read back**, in front of anything. -/
theorem readLiteral_literalText (text rest : List Char) :
    readLiteral (literalText text ++ rest) = some (text, rest) := by
  have hchars : readLiteralChars (text.flatMap literalChar ++ '"' :: rest) =
      some (text, rest) := by
    induction text with
    | nil => rfl
    | cons c cs ih =>
        rw [List.flatMap_cons, List.append_assoc]
        exact readLiteralChars_literalChar ih
  simpa [literalText, readLiteral] using hchars

/-- A literal stands on one line. -/
theorem newline_notMem_literalText (text : List Char) : '\n' ∉ literalText text := by
  have hchar : ∀ c, '\n' ∉ literalChar c := by
    intro c
    unfold literalChar
    split
    · decide
    · split
      · decide
      · split
        · decide
        · next hline => simpa using fun h => hline h.symm
  simp [literalText, hchar]

/-! ## Modules -/

open Text (isPrefixOf?_append)

/-- Read a line, up to its line feed. -/
def readLine (text : List Char) : Option (List Char × List Char) :=
  match text.dropWhile (· != '\n') with
  | [] => none
  | _ :: rest => some (text.takeWhile (· != '\n'), rest)

/-- Read what `item` reads, as often as it reads something: the results, and the text
behind them. -/
def readMany {α : Type} (item : List Char → Option (α × List Char)) (text : List Char) :
    List α × List Char :=
  match item text with
  | none => ([], text)
  | some (a, rest) =>
    if rest.length < text.length then
      let (as, behind) := readMany item rest
      (a :: as, behind)
    else ([], text)
termination_by text.length

theorem takeWhile_line {line : List Char} (h : '\n' ∉ line) (rest : List Char) :
    (line ++ rest).takeWhile (· != '\n') = line ++ rest.takeWhile (· != '\n') := by
  apply List.takeWhile_append_of_pos
  intro c hc
  have hne : c ≠ '\n' := fun heq => h (heq ▸ hc)
  simpa using hne

theorem readLine_append {line : List Char} (h : '\n' ∉ line) (rest : List Char) :
    readLine (line ++ '\n' :: rest) = some (line, rest) := by
  have hpos : ∀ c ∈ line, (c != '\n') = true := by
    intro c hc
    have hne : c ≠ '\n' := fun heq => h (heq ▸ hc)
    simpa using hne
  simp [readLine, List.dropWhile_append_of_pos hpos, takeWhile_line h]

/-- **Texts written one behind the other are read one by one**, up to something that
cannot be read. -/
theorem readMany_flatMap {α : Type} {item : List Char → Option (α × List Char)}
    {print : α → List Char} {as : List α} {rest : List Char}
    (hitem : ∀ a ∈ as, ∀ behind, item (print a ++ behind) = some (a, behind))
    (hprint : ∀ a ∈ as, print a ≠ []) (hrest : item rest = none) :
    readMany item (as.flatMap print ++ rest) = (as, rest) := by
  induction as with
  | nil =>
      rw [List.flatMap_nil, List.nil_append, readMany, hrest]
  | cons a as ih =>
      have htail := ih (fun b hb => hitem b (List.mem_cons_of_mem a hb))
        (fun b hb => hprint b (List.mem_cons_of_mem a hb))
      have hlength : 0 < (print a).length :=
        List.length_pos_iff.2 (hprint a List.mem_cons_self)
      have hshorter : (as.flatMap print ++ rest).length <
          (print a ++ (as.flatMap print ++ rest)).length := by
        simp only [List.length_append]
        omega
      rw [List.flatMap_cons, List.append_assoc, readMany, hitem a List.mem_cons_self]
      dsimp only
      rw [if_pos hshorter, htail]

/-- What a module exposes. -/
inductive Exposing where
  | everything
  | names (identifiers : List String)
deriving DecidableEq, Repr

namespace Exposing

/-- The identifiers that an exposing list names. -/
def identifiers : Exposing → List String
  | .everything => []
  | .names identifiers => identifiers

/-- The exposing list for identifiers. -/
def ofIdentifiers : List String → Exposing
  | [] => .everything
  | identifiers => .names identifiers

@[simp] theorem identifiers_ofIdentifiers (identifiers : List String) :
    (ofIdentifiers identifiers).identifiers = identifiers := by
  cases identifiers <;> rfl

theorem ofIdentifiers_eq_everything_iff (identifiers : List String) :
    ofIdentifiers identifiers = .everything ↔ identifiers = [] := by
  cases identifiers <;> simp [ofIdentifiers]

end Exposing

/-- Read a line of an exposing list: the identifier behind its opening. -/
def readExposed (opening text : List Char) : Option (String × List Char) := do
  let rest ← opening.isPrefixOf? text
  let (identifier, rest) ← readLine rest
  some (String.ofList identifier, rest)

/-- Read an exposing list. -/
def readExposing (text : List Char) : Option (Exposing × List Char) :=
  match "    (..)\n".toList.isPrefixOf? text with
  | some rest => some (.everything, rest)
  | none => do
    let (first, rest) ← readExposed "    ( ".toList text
    let (later, rest) := readMany (readExposed "    , ".toList) rest
    let rest ← "    )\n".toList.isPrefixOf? rest
    some (.names (first :: later), rest)

theorem readExposed_append {identifier : String} (h : '\n' ∉ identifier.toList)
    (opening rest : List Char) :
    readExposed opening (opening ++ (identifier.toList ++ '\n' :: rest)) =
      some (identifier, rest) := by
  simp [readExposed, isPrefixOf?_append, readLine_append h]

/-- **The exposing list of identifiers is read back.** -/
theorem readExposing_exposingLines {identifiers : List String}
    (h : ∀ identifier ∈ identifiers, '\n' ∉ identifier.toList) (rest : List Char) :
    readExposing ((ModuleDraft.exposingLines identifiers).toList ++ rest) =
      some (.ofIdentifiers identifiers, rest) := by
  cases identifiers with
  | nil =>
      have hall : "    (..)\n".toList.isPrefixOf? ("    (..)\n".toList ++ rest) = some rest :=
        isPrefixOf?_append _ rest
      rw [readExposing, ModuleDraft.exposingLines, hall]
      rfl
  | cons first later =>
      obtain ⟨hfirst, hlater⟩ := List.forall_mem_cons.1 h
      have htext : (ModuleDraft.exposingLines (first :: later)).toList ++ rest =
          "    ( ".toList ++ (first.toList ++ '\n' ::
            (later.flatMap (fun identifier =>
              "    , ".toList ++ (identifier.toList ++ ['\n'])) ++
                ("    )\n".toList ++ rest))) := by
        simp [ModuleDraft.exposingLines, String.toList_join, List.flatMap_map]
      have hnames : readMany (readExposed "    , ".toList)
          (later.flatMap (fun identifier => "    , ".toList ++ (identifier.toList ++ ['\n'])) ++
            ("    )\n".toList ++ rest)) = (later, "    )\n".toList ++ rest) := by
        refine readMany_flatMap (fun identifier hmem behind => ?_) (by simp) rfl
        have hread := readExposed_append (hlater identifier hmem) "    , ".toList behind
        simpa using hread
      have hsome : "    (..)\n".toList.isPrefixOf? ("    ( ".toList ++ (first.toList ++ '\n' ::
            (later.flatMap (fun identifier =>
              "    , ".toList ++ (identifier.toList ++ ['\n'])) ++
                ("    )\n".toList ++ rest)))) = none := rfl
      rw [htext, readExposing, hsome]
      simp only [readExposed_append hfirst, hnames, isPrefixOf?_append, Option.bind_eq_bind,
        Option.bind_some]
      rfl

/-- What stands in the declaration of an identifier in front of the literal, without the
empty lines before it. -/
def declarationHead (format : Format) (identifier : List Char) : List Char :=
  identifier ++ " : ".toList ++ (declaredType format.binding).toList ++ '\n' ::
    (identifier ++ " =\n    ".toList ++ (literalPrefix format.binding).toList)

/-- The identifier of a declaration: its first line without the annotation. An annotation
that goes on over further lines starts on that one. -/
def declaredIdentifier (format : Format) (text : List Char) : List Char :=
  let line := text.takeWhile (· != '\n')
  let typeText := " : ".toList ++ (declaredType format.binding).toList
  line.take (line.length - (typeText.takeWhile (· != '\n')).length)

/-- Read a declaration: its class and its identifier. -/
def readDeclaration (format : Format) (text : List Char) :
    Option ((String × String) × List Char) := do
  let rest ← ['\n', '\n'].isPrefixOf? text
  let identifier := declaredIdentifier format rest
  let rest ← (declarationHead format identifier).isPrefixOf? rest
  let (cls, rest) ← readLiteral rest
  let rest ← ['\n'].isPrefixOf? rest
  some ((String.ofList cls, String.ofList identifier), rest)

theorem toList_declarationText (format : Format) (cls identifier : String) :
    (declarationText format cls identifier).toList =
      ['\n', '\n'] ++ (declarationHead format identifier.toList ++
        (literalText cls.toList ++ ['\n'])) := by
  simp [declarationText, declarationHead, stringLiteral]

/-- The literal in the declaration of a class stands on one line and spells the class. -/
theorem exists_literal (format : Format) (cls identifier : String) :
    ∃ literal : List Char,
      (declarationText format cls identifier).toList =
        ['\n', '\n'] ++ (declarationHead format identifier.toList ++ (literal ++ ['\n'])) ∧
      '\n' ∉ literal ∧ ∀ rest, readLiteral (literal ++ rest) = some (cls.toList, rest) :=
  ⟨literalText cls.toList, toList_declarationText format cls identifier,
    newline_notMem_literalText _, readLiteral_literalText _⟩

theorem takeWhile_append_newline (text rest : List Char) :
    (text ++ '\n' :: rest).takeWhile (· != '\n') = text.takeWhile (· != '\n') := by
  induction text with
  | nil => rfl
  | cons c cs ih => simp only [List.cons_append, List.takeWhile_cons, ih]

/-- The identifier is found in front of the annotation, whatever the annotation is. -/
theorem declaredIdentifier_declarationHead (format : Format) {identifier : List Char}
    (h : '\n' ∉ identifier) (rest : List Char) :
    declaredIdentifier format (declarationHead format identifier ++ rest) = identifier := by
  have hline : (declarationHead format identifier ++ rest).takeWhile (· != '\n') =
      identifier ++ (" : ".toList ++ (declaredType format.binding).toList).takeWhile
        (· != '\n') := by
    rw [declarationHead, List.append_assoc identifier, List.append_assoc, List.cons_append,
      List.append_assoc, takeWhile_line h, takeWhile_append_newline]
  rw [declaredIdentifier, hline]
  simp only [List.length_append, Nat.add_sub_cancel, List.take_left]

/-- **A declaration is read back**, whatever its class and its format say. -/
theorem readDeclaration_declarationText (format : Format) (cls : String) {identifier : String}
    (h : '\n' ∉ identifier.toList) (rest : List Char) :
    readDeclaration format ((declarationText format cls identifier).toList ++ rest) =
      some ((cls, identifier), rest) := by
  have hline : ['\n'].isPrefixOf? (['\n'] ++ rest) = some rest := isPrefixOf?_append _ rest
  rw [toList_declarationText, List.append_assoc, List.append_assoc, List.append_assoc]
  simp only [readDeclaration, isPrefixOf?_append, Option.bind_eq_bind, Option.bind_some,
    declaredIdentifier_declarationHead format h, readLiteral_literalText, hline,
    String.ofList_toList]

namespace ModuleDraft

/-- The classes that a draft holds, with their identifiers, in order. -/
def pairs (draft : ModuleDraft) : List (String × String) :=
  draft.declarations.toList.map fun (cls, declaration) => (cls, declaration.identifier)

/-- Declare identifiers for classes, one after another. -/
def declareAll (draft : ModuleDraft) (entries : List (String × String)) : ModuleDraft :=
  entries.foldl (fun draft (cls, identifier) => draft.declare cls identifier) draft

/-- Classes with their identifiers after a class got an identifier. A class that has one
keeps its place. -/
def withPair (pairs : List (String × String)) (cls identifier : String) :
    List (String × String) :=
  if cls ∈ pairs.map Prod.fst then
    pairs.map fun e => if e.1 = cls then (cls, identifier) else e
  else pairs ++ [(cls, identifier)]

theorem pairs_declare (draft : ModuleDraft) (cls identifier : String) :
    (draft.declare cls identifier).pairs = withPair draft.pairs cls identifier := by
  have hkeys : draft.pairs.map Prod.fst = draft.declarations.keys := by
    simp [pairs, ClassTable.keys, Function.comp_def]
  rw [withPair, hkeys]
  by_cases hmem : cls ∈ draft.declarations.keys
  · rw [if_pos hmem, pairs, declare, ClassTable.toList_insert_of_mem _ _ hmem, pairs,
      List.map_map, List.map_map]
    refine List.map_congr_left fun e _ => ?_
    simp only [Function.comp_apply]
    split <;> rfl
  · rw [if_neg hmem, pairs, declare, ClassTable.toList_insert_of_notMem _ _ hmem,
      List.map_append]
    rfl

/-- What a draft holds after declarations is a matter of the declarations alone. -/
theorem pairs_declareAll (draft : ModuleDraft) (entries : List (String × String)) :
    (draft.declareAll entries).pairs =
      entries.foldl (fun pairs (cls, identifier) => withPair pairs cls identifier)
        draft.pairs := by
  induction entries generalizing draft with
  | nil => rfl
  | cons e rest ih =>
      obtain ⟨cls, identifier⟩ := e
      have htail := ih (draft.declare cls identifier)
      rw [pairs_declare] at htail
      exact htail

/-- A draft that keeps to its format: every declaration is the one of its class, and its
identifier stands on one line. -/
structure IsTidy (draft : ModuleDraft) : Prop where
  ofClass : ∀ e ∈ draft.declarations.toList,
    e.2 = .ofClass draft.format e.1 e.2.identifier
  onLine : ∀ e ∈ draft.declarations.toList, '\n' ∉ e.2.identifier.toList

theorem isTidy_new (moduleName : String) (path : Path) (format : Format) :
    (new moduleName path format).IsTidy where
  ofClass := by simp [new]
  onLine := by simp [new]

/-- What a draft holds after a declaration is what it held or what was declared. -/
theorem mem_toList_declare {draft : ModuleDraft} {cls identifier : String}
    {e : String × Declaration} (h : e ∈ (draft.declare cls identifier).declarations.toList) :
    e ∈ draft.declarations.toList ∨ e = (cls, .ofClass draft.format cls identifier) := by
  unfold declare at h
  by_cases hmem : cls ∈ draft.declarations.keys
  · rw [ClassTable.toList_insert_of_mem _ _ hmem] at h
    obtain ⟨old, hold, rfl⟩ := List.mem_map.1 h
    split
    · exact .inr rfl
    · exact .inl hold
  · rw [ClassTable.toList_insert_of_notMem _ _ hmem] at h
    rcases List.mem_append.1 h with hold | hnew
    · exact .inl hold
    · exact .inr (List.mem_singleton.1 hnew)

/-- One declaration keeps a draft tidy, be its class new or not. -/
theorem IsTidy.declare {draft : ModuleDraft} (h : draft.IsTidy) (cls : String)
    {identifier : String} (hline : '\n' ∉ identifier.toList) :
    (draft.declare cls identifier).IsTidy where
  ofClass e he := by
    rcases mem_toList_declare he with hold | rfl
    · exact h.ofClass e hold
    · rfl
  onLine e he := by
    rcases mem_toList_declare he with hold | rfl
    · exact h.onLine e hold
    · exact hline

/-- **A draft stays tidy over any declarations**, and only its declarations change. -/
theorem IsTidy.declareAll {draft : ModuleDraft} (h : draft.IsTidy)
    {entries : List (String × String)} (hlines : ∀ e ∈ entries, '\n' ∉ e.2.toList) :
    (draft.declareAll entries).IsTidy ∧
      (draft.declareAll entries).moduleName = draft.moduleName ∧
      (draft.declareAll entries).format = draft.format := by
  induction entries generalizing draft with
  | nil => exact ⟨h, rfl, rfl⟩
  | cons e rest ih =>
      obtain ⟨hline, hrest⟩ := List.forall_mem_cons.1 hlines
      exact ih (h.declare e.1 hline) hrest

end ModuleDraft

/-- Read the text of a module with a known name and format: what it exposes, and the
classes and identifiers that it declares. -/
def readModule? (moduleName : String) (format : Format) (text : String) :
    Option (Exposing × List (String × String)) := do
  let rest ← ("module " ++ moduleName ++ " exposing\n").toList.isPrefixOf? text.toList
  let (exposing, rest) ← readExposing rest
  let rest ← (ModuleDraft.importLines format.imports).toList.isPrefixOf? rest
  let (pairs, rest) := readMany (readDeclaration format) rest
  if rest = [] then some (exposing, pairs) else none

/-- **The text of a tidy draft is read back.** -/
theorem ModuleDraft.IsTidy.readModule?_text {draft : ModuleDraft} (h : draft.IsTidy) :
    readModule? draft.moduleName draft.format draft.render.text =
      some (.ofIdentifiers (draft.pairs.map Prod.snd), draft.pairs) := by
  have hlines : ∀ e ∈ draft.pairs, '\n' ∉ e.2.toList := by
    intro e he
    obtain ⟨entry, hentry, rfl⟩ := List.mem_map.1 he
    exact h.onLine entry hentry
  have hidentifiers : draft.identifiers = draft.pairs.map Prod.snd := by
    simp [ModuleDraft.identifiers, ModuleDraft.pairs, ClassTable.values, Function.comp_def]
  have hbody : draft.body.toList = draft.pairs.flatMap
      (fun e => (declarationText draft.format e.1 e.2).toList) ++ [] := by
    rw [ModuleDraft.body, String.toList_join, List.append_nil, ClassTable.values,
      ModuleDraft.pairs, List.map_map, List.flatMap_map, List.flatMap_map]
    refine List.flatMap_congr fun e he => ?_
    rw [Function.comp_apply, h.ofClass e he]
    rfl
  have hread : readMany (readDeclaration draft.format) draft.body.toList =
      (draft.pairs, []) := by
    rw [hbody]
    refine readMany_flatMap (fun e he behind => ?_) (fun e _ => ?_) rfl
    · exact readDeclaration_declarationText draft.format e.1 (hlines e he) behind
    · simp [toList_declarationText]
  have hexposed : ∀ identifier ∈ draft.pairs.map Prod.snd, '\n' ∉ identifier.toList := by
    intro identifier hmem
    obtain ⟨e, he, rfl⟩ := List.mem_map.1 hmem
    exact hlines e he
  have htext : draft.render.text.toList =
      ("module " ++ draft.moduleName ++ " exposing\n").toList ++
        ((ModuleDraft.exposingLines (draft.pairs.map Prod.snd)).toList ++
          ((ModuleDraft.importLines draft.format.imports).toList ++ draft.body.toList)) := by
    simp [ModuleDraft.render, ModuleDraft.header, hidentifiers]
  rw [readModule?, htext]
  simp only [isPrefixOf?_append, readExposing_exposingLines hexposed, hread,
    Option.bind_eq_bind, Option.bind_some, if_true]

/-- **Rendered module texts are uniquely readable.** Whatever was declared, as long as no
identifier has a line break: a reader that knows the module name and the format finds in
the text the classes and identifiers that the draft holds, in order, which are each class
where it came first with the identifier that came last; the exposing list names the
declared identifiers and exposes everything exactly if there are none; so drafts of one
name and format with one text hold the same. The literal of every declaration stands on
one line and spells the class. -/
theorem readModule?_render (moduleName : String) (format : Format) (path : Path)
    {entries : List (String × String)} (hlines : ∀ e ∈ entries, '\n' ∉ e.2.toList) :
    let draft := (ModuleDraft.new moduleName path format).declareAll entries
    draft.pairs = entries.foldl
      (fun pairs (cls, identifier) => ModuleDraft.withPair pairs cls identifier) [] ∧
    (∃ exposing, readModule? moduleName format draft.render.text =
        some (exposing, draft.pairs) ∧
      exposing.identifiers = draft.pairs.map Prod.snd ∧
      (exposing = .everything ↔ draft.pairs = [])) ∧
    (∀ (otherPath : Path) (others : List (String × String)),
      (∀ e ∈ others, '\n' ∉ e.2.toList) →
      let other := (ModuleDraft.new moduleName otherPath format).declareAll others
      other.render.text = draft.render.text → other.pairs = draft.pairs) ∧
    ∀ e ∈ draft.declarations.toList, ∃ literal : List Char,
      e.2.text.toList = ['\n', '\n'] ++ (declarationHead format e.2.identifier.toList ++
        (literal ++ ['\n'])) ∧
      '\n' ∉ literal ∧ ∀ rest, readLiteral (literal ++ rest) = some (e.1.toList, rest) := by
  intro draft
  -- Both drafts are read by the same reader, which sees nothing but their texts.
  have hread : ∀ (path : Path) (entries : List (String × String)),
      (∀ e ∈ entries, '\n' ∉ e.2.toList) →
      let draft := (ModuleDraft.new moduleName path format).declareAll entries
      readModule? moduleName format draft.render.text =
        some (.ofIdentifiers (draft.pairs.map Prod.snd), draft.pairs) := by
    intro path entries hlines
    obtain ⟨htidy, hname, hformat⟩ :=
      (ModuleDraft.isTidy_new moduleName path format).declareAll hlines
    have h := htidy.readModule?_text
    rwa [hname, hformat] at h
  refine ⟨ModuleDraft.pairs_declareAll _ entries, ⟨_, hread path entries hlines, ?_, ?_⟩,
    ?_, ?_⟩
  · rw [Exposing.identifiers_ofIdentifiers]
  · rw [Exposing.ofIdentifiers_eq_everything_iff, List.map_eq_nil_iff]
  · intro otherPath others hothers other htext
    have hother := hread otherPath others hothers
    have hdraft := hread path entries hlines
    dsimp only at hother hdraft
    rw [htext, hdraft] at hother
    exact (congrArg Prod.snd (Option.some.inj hother)).symm
  · intro e he
    obtain ⟨htidy, -, hformat⟩ :=
      (ModuleDraft.isTidy_new moduleName path format).declareAll hlines
    have htext : e.2.text = declarationText format e.1 e.2.identifier := by
      rw [htidy.ofClass e he, hformat]
      rfl
    rw [htext]
    exact exists_literal format e.1 e.2.identifier

/-- Classes with quotes, a backslash, a line feed and the looks of a declaration, one of
them declared twice and two under one identifier, in a format whose type has a line break. -/
theorem readModule?_render_quotes :
    let format := Format.applied "Html.Attribute\n  msg" "A.class " ["Html"]
    let entries := [("a\"\\", "a"), ("x =\n    \"y\"", "x"), ("a\"\\", "b : c"), ("b", "x")]
    let draft := (ModuleDraft.new "TW" ⟨"src/TW.elm"⟩ format).declareAll entries
    ∃ exposing, readModule? "TW" format draft.render.text =
        some (exposing, [("a\"\\", "b : c"), ("x =\n    \"y\"", "x"), ("b", "x")]) ∧
      exposing.identifiers = ["b : c", "x", "x"] := by
  intro format entries draft
  have hlines : ∀ e ∈ entries, '\n' ∉ e.2.toList := by decide
  obtain ⟨hpairs, ⟨exposing, hread, hnames, -⟩, -⟩ :=
    readModule?_render "TW" format ⟨"src/TW.elm"⟩ hlines
  rw [hpairs] at hread hnames
  exact ⟨exposing, hread, hnames⟩

end ElmClasses.Elm
