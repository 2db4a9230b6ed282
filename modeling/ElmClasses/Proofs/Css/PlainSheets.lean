import ElmClasses.Css.Stylesheet
import ElmClasses.Proofs.Css.ClassSelector

/-!
# Plain sheets are read and printed

The library of this directory handles plain style sheets. A text with balanced brackets whose
components are whole statements adds its rules to those of whatever it stands in, and the statements
behind it are read as if it were not there. That is `ReadsRules`. It does not depend on how far a
style sheet has come, but on whether the text stands inside of a style rule.

Texts of this kind can be put behind one another, into the block of a style rule, and into the block
of an at-rule that holds rules. So the rules of a forest are read off its text, by an induction over
the trees with one case for each way in which a sheet is put together. Selectors are printed as they
are written, and visitors come to rules in source order anyway.

## Main results

* `ReadsRules.append`, `ReadsRules.style`, `ReadsRules.conditional`: how such texts are put
  together.
* `readsRules_classText`, `readsRules_sheetText`: the rules of a forest.
* `handlesPlainSheets`: all that is asked of a library.
-/

namespace ElmClasses.Css

open Stylesheet (ClassIdent ClassTree Group HandlesPlainSheets SheetTree State classText)

/-- Whether what a context holds stands inside of a style rule. -/
def Context.isNested : Context → Bool
  | .style => true
  | _ => false

@[simp] theorem Context.isNested_reaching (context : Context) (stage : Stage) :
    (context.reaching stage).isNested = context.isNested := by
  cases context <;> rfl

@[simp] theorem Context.isNested_insideConditional (context : Context) :
    context.insideConditional.isNested = context.isNested := by
  cases context <;> rfl

/-- Components that start a statement and go on up to a block. -/
structure IsPrelude (prelude : List Component) : Prop where
  plain : ∀ c ∈ prelude, isSemicolon c = false ∧ isCurly c = false
  own : ∀ context block rest, belongsToStatement context prelude block rest = false

/-- Components other than semicolons and blocks belong to the statement. -/
theorem readRules_plain {prelude : List Component}
    (h : ∀ c ∈ prelude, isSemicolon c = false ∧ isCurly c = false) (context : Context)
    (before rest : List Component) :
    readRules context before (prelude ++ rest) =
      readRules context (prelude.reverse ++ before) rest := by
  induction prelude generalizing before with
  | nil => rfl
  | cons c cs ih =>
      obtain ⟨⟨hsemicolon, hcurly⟩, hcs⟩ := List.forall_mem_cons.1 h
      rw [List.cons_append, readRules, hsemicolon, hcurly]
      simp only [Bool.false_and, Bool.false_eq_true, if_false]
      rw [ih hcs, List.reverse_cons, List.append_assoc]
      rfl

section Blocks

variable {context : Context} {prelude contents : List Component}

/-- What a block holds is read by the kind of the prelude in front of it. -/
theorem readRules_block (h : IsPrelude prelude) (rest : List Component) :
    readRules context [] (prelude ++ .block (.bracket .curly) contents :: rest) =
      (blockKind? context prelude).bind fun kind =>
        let later := readRules (context.reaching .body) [] rest
        match kind with
        | .style selectors => (readRules .style [] contents).bind fun nested =>
            later.bind fun rules => some (.style selectors nested :: rules)
        | .rules => (readRules context.insideConditional [] contents).bind fun inner =>
            later.bind fun rules => some (.other inner :: rules)
        | .plain rule => if rule.admitsBlock contents then later else none := by
  rw [readRules_plain h.plain, readRules, List.append_nil, List.reverse_reverse, h.own]
  rfl

/-- The block behind a prelude of a style rule holds the rules nested in it. -/
theorem readRules_style {selectors : SelectorList} {nested : List Rule} (h : IsPrelude prelude)
    (hkind : blockKind? context prelude = some (.style selectors))
    (hinside : readRules .style [] contents = some nested) (rest : List Component) :
    readRules context [] (prelude ++ .block (.bracket .curly) contents :: rest) =
      (readRules (context.reaching .body) [] rest).map (.style selectors nested :: ·) := by
  rw [readRules_block h, hkind, hinside, Option.map_eq_bind]
  rfl

/-- The block behind a prelude that names a condition holds rules as its surroundings do. -/
theorem readRules_conditional {rules : List Rule} (h : IsPrelude prelude)
    (hkind : blockKind? context prelude = some .rules)
    (hinside : readRules context.insideConditional [] contents = some rules)
    (rest : List Component) :
    readRules context [] (prelude ++ .block (.bracket .curly) contents :: rest) =
      (readRules (context.reaching .body) [] rest).map (.other rules :: ·) := by
  rw [readRules_block h, hkind, hinside, Option.map_eq_bind]
  rfl

end Blocks

/-! ## Texts of rules -/

/-- Whether a text reads as rules, inside of a style rule or not. -/
def ReadsRules (nested : Bool) (text : List Char) (rules : List Rule) : Prop :=
  ∃ components, (∀ rest, ReadsAs text components rest) ∧
    ∀ context : Context, context.isNested = nested →
      ∃ next : Context, next.isNested = nested ∧ ∀ rest,
        readRules context [] (components ++ rest) =
          (readRules next [] rest).map (rules ++ ·)

namespace ReadsRules

variable {nested : Bool}

theorem nil : ReadsRules nested [] [] :=
  ⟨[], .nil, fun context hcontext => ⟨context, hcontext, fun rest => by simp⟩⟩

/-- Texts behind one another read as the rules of both. -/
theorem append {first second : List Char} {rules others : List Rule}
    (hfirst : ReadsRules nested first rules) (hsecond : ReadsRules nested second others) :
    ReadsRules nested (first ++ second) (rules ++ others) := by
  obtain ⟨cs, hcs, hreadFirst⟩ := hfirst
  obtain ⟨ds, hds, hreadSecond⟩ := hsecond
  refine ⟨cs ++ ds, fun rest => (hcs _).append (hds rest), fun context hcontext => ?_⟩
  obtain ⟨between, hbetween, hcsRules⟩ := hreadFirst context hcontext
  obtain ⟨next, hnext, hdsRules⟩ := hreadSecond between hbetween
  refine ⟨next, hnext, fun rest => ?_⟩
  rw [List.append_assoc, hcsRules, hdsRules, Option.map_map]
  congr 1
  funext later
  simp

/-- The components of a text of rules make up a block by themselves. -/
theorem readRules_eq {components : List Component} {rules : List Rule} {context : Context}
    (hread : ∃ next : Context, next.isNested = nested ∧ ∀ rest,
      readRules context [] (components ++ rest) = (readRules next [] rest).map (rules ++ ·)) :
    readRules context [] components = some rules := by
  obtain ⟨next, -, hrules⟩ := hread
  have hend : readRules next [] [] = some [] := by
    simp [readRules, isLastStatement]
  have hwhole := hrules []
  rwa [List.append_nil, hend, Option.map_some, List.append_nil] at hwhole

/-- A style rule reads as one rule with those in its block nested in it. -/
theorem style {prelude text : List Char} {components : List Component} {inner : List Rule}
    {selectors : SelectorList} (hreads : ∀ rest, ReadsAs prelude components ('\x7b' :: rest))
    (hprelude : IsPrelude components)
    (hkind : ∀ context : Context, context.isNested = nested →
      blockKind? context components = some (.style selectors))
    (hinner : ReadsRules true text inner) :
    ReadsRules nested (prelude ++ '\x7b' :: (text ++ ['\x7d'])) [.style selectors inner] := by
  obtain ⟨contents, hcontents, hrules⟩ := hinner
  refine ⟨components ++ [.block (.bracket .curly) contents], fun rest => ?_,
    fun context hcontext => ?_⟩
  · exact (hreads _).append (hcontents _).curly
  · refine ⟨context.reaching .body, by simp [hcontext], fun rest => ?_⟩
    rw [List.append_assoc, List.singleton_append,
      readRules_style hprelude (hkind context hcontext) (readRules_eq (hrules .style rfl))]
    rfl

/-- An at-rule that holds rules reads as one block of the rules in it. -/
theorem conditional {prelude text : List Char} {components : List Component}
    {inner : List Rule} (hreads : ∀ rest, ReadsAs prelude components ('\x7b' :: rest))
    (hprelude : IsPrelude components)
    (hkind : ∀ context : Context, blockKind? context components = some .rules)
    (hinner : ReadsRules nested text inner) :
    ReadsRules nested (prelude ++ '\x7b' :: (text ++ ['\x7d'])) [.other inner] := by
  obtain ⟨contents, hcontents, hrules⟩ := hinner
  refine ⟨components ++ [.block (.bracket .curly) contents], fun rest => ?_,
    fun context hcontext => ?_⟩
  · exact (hreads _).append (hcontents _).curly
  · have hinside := readRules_eq (hrules context.insideConditional (by simp [hcontext]))
    refine ⟨context.reaching .body, by simp [hcontext], fun rest => ?_⟩
    rw [List.append_assoc, List.singleton_append,
      readRules_conditional hprelude (hkind context) hinside]
    rfl

/-- The rules of a sheet that consists of such a text. -/
theorem parse_eq {text : List Char} {rules : List Rule} (h : ReadsRules false text rules) :
    parse (String.ofList text) = .ok rules := by
  obtain ⟨components, hcomponents, hrules⟩ := h
  have hread := readRules_eq (hrules (.sheet .fresh) rfl)
  have hsheet : readSheet text = some rules := by
    rw [readSheet, (hcomponents []).ofTokens_eq, hread]
  rw [parse, String.toList_ofList, hsheet]

end ReadsRules

theorem isPrelude_class (name : Name) (states : List State) :
    IsPrelude (classComponents name states) where
  plain c hc := by
    rcases List.mem_cons.1 hc with rfl | hc
    · exact ⟨rfl, rfl⟩
    · rcases List.mem_cons.1 hc with rfl | hc
      · exact ⟨rfl, rfl⟩
      · obtain ⟨state, -, hstate⟩ := List.mem_flatMap.1 hc
        rcases List.mem_cons.1 hstate with rfl | hname
        · exact ⟨rfl, rfl⟩
        · obtain rfl := List.mem_singleton.1 hname
          exact ⟨rfl, rfl⟩
  own context block rest := by
    rcases context with stage | _ | _
    · cases stage <;> rfl
    · rfl
    · rfl

theorem blockKind?_class (context : Context) (name : Name) (states : List State) :
    blockKind? context (classComponents name states) =
      some (.style (classSelectors context.isNested name states)) := by
  have houtside : (SelectorList.ofComponents? (classComponents name states)).map
      BlockKind.style = some (.style (classSelectors false name states)) := by
    rw [ofComponents?_class]
    rfl
  have hinside : (SelectorList.ofNested? (classComponents name states)).map
      BlockKind.style = some (.style (classSelectors true name states)) := by
    rw [ofNested?_class]
    rfl
  rcases context with stage | _ | _
  · exact houtside
  · exact houtside
  · exact hinside

/-- **A style rule for a class** reads as one rule, wherever it stands. -/
theorem readsRules_class {nested : Bool} {name : Name} (hne : name ≠ []) (hnul : '\x00' ∉ name)
    (states : List State) {text : List Char} {inner : List Rule}
    (hinner : ReadsRules true text inner) :
    ReadsRules nested (classText name states ++ '\x7b' :: (text ++ ['\x7d']))
      [.style (classSelectors nested name states) inner] := by
  refine .style (fun rest => ?_) (isPrelude_class name states) (fun context hcontext => ?_) hinner
  · exact readsAs_classText hne hnul states (endsIdent_brace rest)
  · rw [blockKind?_class, hcontext]

/-- The name of an at-rule, a space and its arguments. -/
theorem readsAs_atRule {name : Name} {text rest : List Char} {arguments : List Component}
    (hne : name ≠ []) (hnul : '\x00' ∉ name)
    (hstart : ∀ c ∈ (text ++ rest).head?, isWhitespace c = false)
    (harguments : ReadsAs text arguments rest) :
    ReadsAs ('@' :: serialized name ++ ' ' :: text)
      (.token (.atKeyword name) :: .token .whitespace :: arguments) rest := by
  have hname : ReadsAs ('@' :: serialized name) [.token (.atKeyword name)]
      (' ' :: text ++ rest) :=
    readsAs_atKeyword hne hnul (.cons (by decide) (by decide) _)
  have hspace : ReadsAs [' '] [.token .whitespace] (text ++ rest) := readsAs_space hstart
  exact hname.append (hspace.append harguments)

/-- An at-rule with a name for its only argument. -/
theorem readsAs_atRule_ident {name argument : Name} (hne : name ≠ []) (hnul : '\x00' ∉ name)
    (hargument : argument ≠ []) (hargumentNul : '\x00' ∉ argument) (rest : List Char) :
    ReadsAs ('@' :: serialized name ++ ' ' :: serialized argument)
      [.token (.atKeyword name), .token .whitespace, .token (.ident argument)]
      ('\x7b' :: rest) := by
  have hident : ReadsAs (serialized argument) [.token (.ident argument)] ('\x7b' :: rest) :=
    readsAs_ident hargument hargumentNul (endsIdent_brace rest)
  exact readsAs_atRule hne hnul
    (startsIdent_serialized hargument hargumentNul (endsIdent_brace rest).comment).blank hident

theorem isPrelude_atRule {name : Name} {arguments : List Component}
    (hname : name.isOneOf ["charset"] = false)
    (harguments : ∀ c ∈ arguments, isSemicolon c = false ∧ isCurly c = false) :
    IsPrelude (.token (.atKeyword name) :: arguments) where
  plain := List.forall_mem_cons.2 ⟨⟨rfl, rfl⟩, harguments⟩
  own context block rest := by
    rcases context with stage | _ | _
    · cases stage with
      | fresh => exact Bool.or_eq_false_iff.2 ⟨hname, rfl⟩
      | _ => rfl
    · rfl
    · rfl

/-! ## Forests -/

/-- The components in front of a block. -/
def groupPrelude : Group → List Component
  | .media => [.token (.atKeyword "media".toList), .token .whitespace,
      .token (.ident "print".toList)]
  | .supports => [.token (.atKeyword "supports".toList), .token .whitespace,
      .block (.bracket .paren) [.token (.ident "color".toList), .token .colon,
        .token .whitespace, .token (.ident "red".toList)]]
  | .layer => [.token (.atKeyword "layer".toList), .token .whitespace,
      .token (.ident "x".toList)]

/-- A declaration in parentheses. -/
private theorem readsAs_declaration (rest : List Char) :
    ReadsAs ('(' :: "color: red)".toList) [.block (.bracket .paren) [.token (.ident "color".toList),
      .token .colon, .token .whitespace, .token (.ident "red".toList)]] rest := by
  let color : Name := "color".toList
  let red : Name := "red".toList
  have htext : "color: red)".toList =
      (serialized color ++ ([':'] ++ ([' '] ++ serialized red))) ++ [')'] := by
    decide
  have hend : EndsIdent (')' :: rest) := .cons (by decide) (by decide) _
  have hred : ReadsAs (serialized red) [.token (.ident red)] (')' :: rest) :=
    readsAs_ident (by decide) (by decide) hend
  have hspace : ReadsAs [' '] [.token .whitespace] (serialized red ++ ')' :: rest) :=
    readsAs_space (startsIdent_serialized (by decide) (by decide) hend.comment).blank
  have hcolon : ReadsAs [':'] [.token .colon] ([' '] ++ serialized red ++ ')' :: rest) :=
    .token rfl (tokens_colon _)
  have hcolor : ReadsAs (serialized color) [.token (.ident color)]
      ([':'] ++ ([' '] ++ serialized red) ++ ')' :: rest) :=
    readsAs_ident (by decide) (by decide) (.cons (by decide) (by decide) _)
  rw [htext]
  exact (hcolor.append (hcolon.append (hspace.append hred))).bracket .paren

theorem readsAs_groupText (kind : Group) (rest : List Char) :
    ReadsAs kind.text (groupPrelude kind) ('\x7b' :: rest) := by
  cases kind with
  | media =>
      have htext : Group.text .media =
          '@' :: serialized "media".toList ++ ' ' :: serialized "print".toList := by
        decide
      rw [htext]
      exact readsAs_atRule_ident (by decide) (by decide) (by decide) (by decide) rest
  | supports =>
      have htext : Group.text .supports =
          '@' :: serialized "supports".toList ++ ' ' :: '(' :: "color: red)".toList := by
        decide
      rw [htext]
      refine readsAs_atRule (by decide) (by decide) (fun c hc => ?_) (readsAs_declaration _)
      obtain rfl : '(' = c := Option.some.inj hc
      decide
  | layer =>
      have htext : Group.text .layer =
          '@' :: serialized "layer".toList ++ ' ' :: serialized "x".toList := by
        decide
      rw [htext]
      exact readsAs_atRule_ident (by decide) (by decide) (by decide) (by decide) rest

theorem isPrelude_group (kind : Group) : IsPrelude (groupPrelude kind) := by
  cases kind with
  | media | layer => exact isPrelude_atRule (by decide) (by decide)
  | supports =>
      refine isPrelude_atRule (by decide) fun c hc => ?_
      simp only [List.mem_cons, List.not_mem_nil, or_false] at hc
      rcases hc with rfl | rfl <;> exact ⟨rfl, rfl⟩

theorem blockKind?_group (kind : Group) (context : Context) :
    blockKind? context (groupPrelude kind) = some .rules := by
  cases kind with
  | media | supports | layer =>
      rcases context with stage | _ | _
      · cases stage <;> rfl
      · rfl
      · rfl

/-- How the selector of a class is kept. -/
def represent (nested : Bool) (cls : ClassIdent) (states : List State) : SelectorList :=
  classSelectors nested cls.name states

mutual

theorem readsRules_classText (nested : Bool) :
    (tree : ClassTree) → ReadsRules nested tree.text [tree.toRule represent nested]
  | .rule cls states inner =>
    readsRules_class cls.ne_nil cls.nul_notMem states (readsRules_classTexts inner)

theorem readsRules_classTexts :
    (trees : List ClassTree) →
      ReadsRules true (ClassTree.texts trees) (ClassTree.nestedRules represent trees)
  | [] => .nil
  | tree :: trees => (readsRules_classText true tree).append (readsRules_classTexts trees)

end

mutual

theorem readsRules_sheetText :
    (tree : SheetTree) → ReadsRules false tree.text [tree.toRule represent]
  | .style rule => readsRules_classText false rule
  | .group kind trees =>
    .conditional (readsAs_groupText kind) (isPrelude_group kind) (blockKind?_group kind)
      (readsRules_sheetTexts trees)

theorem readsRules_sheetTexts :
    (trees : List SheetTree) →
      ReadsRules false (SheetTree.texts trees) (SheetTree.toRules represent trees)
  | [] => .nil
  | tree :: trees => (readsRules_sheetText tree).append (readsRules_sheetTexts trees)

end

/-- **The library handles plain sheets.** -/
theorem handlesPlainSheets : HandlesPlainSheets represent where
  parses trees := (readsRules_sheetTexts trees).parse_eq
  prints nested cls states :=
    congrArg (some ∘ String.ofList) (selectorListText_class nested cls.name states)
  visits _ := rfl

end ElmClasses.Css
