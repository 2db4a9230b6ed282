import ElmClasses.Css.Component
import ElmClasses.Css.Selector
import ElmClasses.Css.Selector.Reader
import ElmClasses.Css.Token
import ElmClasses.Proofs.Css.Identifier
import ElmClasses.Proofs.Stylesheet.PlainSheets

/-!
# From texts to selectors of one class

The selector of a rule for one class is the class itself and maybe the states that its elements are
in, such as `.a:hover`. Such a selector takes all steps from text to text without loss: its tokens
are the serialized name and the states, they are its components, these are read as one compound
selector, and that is printed as it was written.

Brackets are matched over the whole token sequence of a sheet, with a stack of open blocks. A text
whose brackets are balanced leaves the stack alone, wherever it stands: all it does is to put its
components behind those of the innermost open block. That is `ReadsAs`, and it is closed under
putting texts behind one another and into brackets, so that the components of a text can be told
piece by piece.

## Main results

* `ReadsAs.append`, `ReadsAs.bracket`: texts behind one another, and in brackets.
* `ReadsAs.ofTokens_eq`: the components of a whole text.
* `readsAs_classText`: the components of a written selector.
* `ofComponents?_class`, `ofNested?_class`: what they are read as.
* `selectorListText_class`: it is printed as it was written.
-/

namespace ElmClasses.Css

theorem tokens_cons {c : Char} {cs rest : List Char} {t : Token}
    (h : readToken c cs = found (t, rest)) : tokens (c :: cs) = t :: tokens rest := by
  rw [tokens, h]
  rfl

/-- Whether a text ends an identifier in front of it, and makes no function of it. -/
structure EndsIdent (text : List Char) : Prop where
  endsName : EndsName text
  paren : '(' ∉ text.head?
  comment : '>' ∉ text.head?

theorem EndsIdent.cons {c : Char} (hname : isNameChar c = false) (hne : c ∉ ['\\', '(', '>'])
    (rest : List Char) : EndsIdent (c :: rest) where
  endsName d hd := by
    obtain rfl : c = d := Option.some.inj hd
    exact ⟨fun heq => hne (by simp [heq]), hname⟩
  paren hd := hne (by simp [Option.some.inj hd])
  comment hd := hne (by simp [Option.some.inj hd])

theorem endsIdent_brace (rest : List Char) : EndsIdent ('\x7b' :: rest) :=
  .cons (by decide) (by decide) rest

/-- Where an identifier starts, one is read. -/
theorem readToken_of_startsIdent {c : Char} {cs : List Char} (h : StartsIdent (c :: cs)) :
    readToken c cs = found (readIdentifierLike (c :: cs)) := by
  have hblank : isWhitespace c = false := h.blank c rfl
  have hcomment : (c == '-' && ['-', '>'].isPrefixOf cs) = false := by
    have hstart := h.comment
    rwa [List.isPrefixOf, BEq.comm] at hstart
  rw [readToken, hblank, h.numeral, h.identifier, hcomment]
  rfl

/-- **A serialized name is one token.** -/
theorem tokens_ident {name : Name} {more : List Char} (hne : name ≠ []) (hnul : '\x00' ∉ name)
    (hmore : EndsIdent more) : tokens (serialized name ++ more) = .ident name :: tokens more := by
  have hstart := startsIdent_serialized hne hnul hmore.comment
  have hread := readName_serialized hnul hmore.endsName
  have hlike : readIdentifierLike (serialized name ++ more) = (.ident name, more) := by
    rw [readIdentifierLike, hread]
    split
    · next heq =>
        obtain ⟨-, rfl⟩ := Prod.mk.inj heq
        exact absurd rfl hmore.paren
    · next heq =>
        obtain ⟨rfl, rfl⟩ := Prod.mk.inj heq
        rfl
  cases htext : serialized name ++ more with
  | nil =>
      rw [htext] at hstart
      exact absurd hstart.identifier (by decide)
  | cons c cs =>
      rw [htext] at hstart hlike
      exact tokens_cons (by rw [readToken_of_startsIdent hstart, hlike])

/-- A serialized name behind an at sign is one token. -/
theorem tokens_atKeyword {name : Name} {more : List Char} (hne : name ≠ [])
    (hnul : '\x00' ∉ name) (hmore : EndsIdent more) :
    tokens ('@' :: (serialized name ++ more)) = .atKeyword name :: tokens more := by
  refine tokens_cons ?_
  have hstart := (startsIdent_serialized hne hnul hmore.comment).identifier
  show found (readAtKeyword (serialized name ++ more)) = _
  rw [readAtKeyword, if_pos hstart, readName_serialized hnul hmore.endsName]

theorem tokens_colon (rest : List Char) : tokens (':' :: rest) = .colon :: tokens rest :=
  tokens_cons rfl

/-- The character that opens a block in brackets of some kind. -/
def Bracket.openingChar : Bracket → Char
  | .paren => '('
  | .square => '['
  | .curly => '\x7b'

/-- The character that closes a block in brackets of some kind. -/
def Bracket.closingChar : Bracket → Char
  | .paren => ')'
  | .square => ']'
  | .curly => '\x7d'

theorem tokens_openingChar (kind : Bracket) (rest : List Char) :
    tokens (kind.openingChar :: rest) = .opening (.bracket kind) :: tokens rest := by
  cases kind <;> exact tokens_cons rfl

theorem tokens_closingChar (kind : Bracket) (rest : List Char) :
    tokens (kind.closingChar :: rest) = .closing kind :: tokens rest := by
  cases kind <;> exact tokens_cons rfl

/-- A dot is a token by itself in front of anything but a digit. -/
theorem tokens_dot {rest : List Char} (h : startsWithDigit rest = false) :
    tokens ('.' :: rest) = .delim '.' :: tokens rest := by
  refine tokens_cons ?_
  have hnumeral : startsNumeral ('.' :: rest) = false := h
  rw [readToken, hnumeral]
  rfl

/-- White space is one token up to what follows it. -/
theorem tokens_space {rest : List Char} (h : ∀ c ∈ rest.head?, isWhitespace c = false) :
    tokens (' ' :: rest) = .whitespace :: tokens rest := by
  have hrest : rest.dropWhile isWhitespace = rest := by
    cases rest with
    | nil => rfl
    | cons c cs => rw [List.dropWhile_cons_of_neg (by simp [h c rfl])]
  have hread : readToken ' ' rest = found (.whitespace, rest.dropWhile isWhitespace) := rfl
  rw [hrest] at hread
  exact tokens_cons hread

/-! ## Components -/

open Component (nest)

/-- Whether a token opens or closes a block. -/
def Token.isBracket : Token → Bool
  | .opening _ | .closing _ => true
  | _ => false

/-- What a text in front of `rest` adds to the innermost open block. -/
def ReadsAs (text : List Char) (components : List Component) (rest : List Char) : Prop :=
  ∀ blocks before, nest blocks before (tokens (text ++ rest)) =
    nest blocks (components.reverse ++ before) (tokens rest)

/-- A token without brackets is a component. -/
theorem nest_token {t : Token} (h : t.isBracket = false) (blocks : List Component.OpenBlock)
    (before : List Component) (ts : List Token) :
    nest blocks before (t :: ts) = nest blocks (.token t :: before) ts := by
  cases t with
  | opening o => cases h
  | closing kind => cases h
  | _ => cases blocks <;> rfl

namespace ReadsAs

theorem nil (rest : List Char) : ReadsAs [] [] rest := fun _ _ => rfl

theorem token {text rest : List Char} {t : Token} (hplain : t.isBracket = false)
    (h : tokens (text ++ rest) = t :: tokens rest) : ReadsAs text [.token t] rest :=
  fun blocks before => by rw [h, nest_token hplain]; rfl

/-- Texts behind one another add their components one behind the other. -/
theorem append {first second rest : List Char} {cs ds : List Component}
    (hfirst : ReadsAs first cs (second ++ rest)) (hsecond : ReadsAs second ds rest) :
    ReadsAs (first ++ second) (cs ++ ds) rest := fun blocks before => by
  rw [List.append_assoc, hfirst, hsecond, List.reverse_append, List.append_assoc]

/-- A text in brackets is a block. -/
theorem bracket (kind : Bracket) {text rest : List Char} {cs : List Component}
    (h : ReadsAs text cs (kind.closingChar :: rest)) :
    ReadsAs (kind.openingChar :: (text ++ [kind.closingChar])) [.block (.bracket kind) cs] rest :=
  fun blocks before => by
    have hkind : (Opening.bracket kind).kind = kind := rfl
    rw [List.cons_append, List.append_assoc, List.singleton_append, tokens_openingChar, nest, h,
      tokens_closingChar, List.append_nil, nest, if_pos hkind, Component.OpenBlock.closed,
      List.reverse_reverse]
    rfl

/-- A text in curly brackets is a block. -/
theorem curly {text rest : List Char} {cs : List Component}
    (h : ReadsAs text cs ('\x7d' :: rest)) :
    ReadsAs ('\x7b' :: (text ++ ['\x7d'])) [.block (.bracket .curly) cs] rest :=
  bracket .curly h

/-- The components of a whole text. -/
theorem ofTokens_eq {text : List Char} {cs : List Component} (h : ReadsAs text cs []) :
    Component.ofTokens (tokens text) = cs := by
  have hnest := h [] []
  rw [List.append_nil, List.append_nil, tokens, nest, Component.closeAll,
    List.reverse_reverse] at hnest
  exact hnest

end ReadsAs

/-- A serialized name in front of what ends it. -/
theorem readsAs_ident {name : Name} {rest : List Char} (hne : name ≠ []) (hnul : '\x00' ∉ name)
    (hrest : EndsIdent rest) : ReadsAs (serialized name) [.token (.ident name)] rest :=
  .token rfl (tokens_ident hne hnul hrest)

/-- A serialized name behind an at sign. -/
theorem readsAs_atKeyword {name : Name} {rest : List Char} (hne : name ≠ [])
    (hnul : '\x00' ∉ name) (hrest : EndsIdent rest) :
    ReadsAs ('@' :: serialized name) [.token (.atKeyword name)] rest :=
  .token rfl (tokens_atKeyword hne hnul hrest)

/-- A space in front of anything but white space. -/
theorem readsAs_space {rest : List Char} (h : ∀ c ∈ rest.head?, isWhitespace c = false) :
    ReadsAs [' '] [.token .whitespace] rest :=
  .token rfl (tokens_space h)

/-- A class in front of what ends its name. -/
theorem readsAs_class {name : Name} {rest : List Char} (hne : name ≠ []) (hnul : '\x00' ∉ name)
    (hrest : EndsIdent rest) :
    ReadsAs ('.' :: serialized name) [.token (.delim '.'), .token (.ident name)] rest := by
  have hdigit := (startsIdent_serialized hne hnul hrest.comment).digit
  have hdot : ReadsAs ['.'] [.token (.delim '.')] (serialized name ++ rest) :=
    .token rfl (tokens_dot hdigit)
  exact hdot.append (readsAs_ident hne hnul hrest)

/-! ## Selectors -/

open Stylesheet (State classText ruleSelector statesText)

/-- The components of states. -/
def statesComponents (states : List State) : List Component :=
  states.flatMap fun state => [.token .colon, .token (.ident state.name)]

/-- The components of the selector of a class in some states. -/
def classComponents (name : Name) (states : List State) : List Component :=
  .token (.delim '.') :: .token (.ident name) :: statesComponents states

/-- The pseudo-classes for states. -/
def stateClasses (states : List State) : Compound :=
  states.map fun state => .pseudoClass state.name none

/-- The condition that a class in some states puts on an element. -/
def classCompound (name : Name) (states : List State) : Compound :=
  .hasClass name :: stateClasses states

theorem readsAs_state (state : State) {rest : List Char} (hrest : EndsIdent rest) :
    ReadsAs (':' :: state.name) [.token .colon, .token (.ident state.name)] rest := by
  have hserialized : serialized state.name = state.name := by cases state <;> rfl
  have hne : state.name ≠ [] := by cases state <;> decide
  have hnul : '\x00' ∉ state.name := by cases state <;> decide
  have hcolon : ReadsAs [':'] [.token .colon] (state.name ++ rest) :=
    .token rfl (tokens_colon _)
  have hname := readsAs_ident hne hnul hrest
  rw [hserialized] at hname
  exact hcolon.append hname

theorem endsIdent_statesText (states : List State) {rest : List Char} (hrest : EndsIdent rest) :
    EndsIdent (statesText states ++ rest) := by
  cases states with
  | nil => exact hrest
  | cons state states => exact .cons (by decide) (by decide) _

theorem readsAs_statesText (states : List State) {rest : List Char} (hrest : EndsIdent rest) :
    ReadsAs (statesText states) (statesComponents states) rest := by
  induction states with
  | nil => exact .nil rest
  | cons state states ih =>
      exact (readsAs_state state (endsIdent_statesText states hrest)).append ih

/-- The selector of a class is read as its components. -/
theorem readsAs_classText {name : Name} (hne : name ≠ []) (hnul : '\x00' ∉ name)
    (states : List State) {rest : List Char} (hrest : EndsIdent rest) :
    ReadsAs (classText name states) (classComponents name states) rest :=
  (readsAs_class hne hnul (endsIdent_statesText states hrest)).append
    (readsAs_statesText states hrest)

theorem ofComponents_class (name : Name) (states : List State) :
    Part.ofComponents (classComponents name states) =
      .simple (.hasClass name) :: states.map fun state => .pseudoClass state.name := by
  have hstates : Part.ofMarks (marksOf (statesComponents states)) =
      states.map fun state => .pseudoClass state.name := by
    induction states with
    | nil => rfl
    | cons state states ih =>
        have hcolon : Part.ofColon state.name = .pseudoClass state.name := by
          cases state <;> rfl
        rw [List.map_cons, ← ih, ← hcolon]
        rfl
  rw [← hstates]
  rfl

/-- States that follow a class are read one after another. -/
theorem readParts_states (first : Reading) {r : Reading} (hvalid : r.isValid = true)
    (hplace : r.place = .inside) (hsurroundings : r.surroundings = {}) (states : List State) :
    readParts first r (states.map fun state => .pseudoClass state.name) =
      [{ r with compound := (stateClasses states).reverse ++ r.compound }] := by
  induction states generalizing r with
  | nil => rfl
  | cons state states ih =>
      have hclass : ({} : Surroundings).pseudoClass? state.name =
          some (.pseudoClass state.name none) := by
        cases state <;> rfl
      have hread : (Part.pseudoClass state.name).read r =
          r.push (.pseudoClass state.name none) := by
        rw [Part.read, Reading.addPseudoClass, Reading.resumed, hplace]
        simp only [hsurroundings, hclass, Reading.pushed]
      have hlater := @ih (r.push (.pseudoClass state.name none)) hvalid rfl hsurroundings
      rw [List.map_cons, readParts, if_pos hvalid, hread, hlater]
      · simp [Reading.push, stateClasses, hplace]
      · simp

/-- What the selector of a class is read as depends on whether it stands in a style rule. -/
def classSelectors (nested : Bool) (name : Name) (states : List State) : SelectorList :=
  if nested then [[(none, [.nesting]), (some .descendant, classCompound name states)]]
  else [[(none, classCompound name states)]]

/-- The selector of a class is one compound, wherever it is read. -/
theorem readAlternatives_class (isRelative : Bool) (name : Name) (states : List State) :
    ∃ r : Reading, readAlternatives isRelative (classComponents name states) = [r] ∧
      r.selector? = some [(none, classCompound name states)] ∧ r.refersToParent = false := by
  let first : Reading := { surroundings := {}, place := if isRelative then .opening else .start }
  let r : Reading := { surroundings := {}, place := .inside, compound := [.hasClass name] }
  have hfirst : (Part.simple (.hasClass name)).read first = r := by
    cases isRelative <;> rfl
  have hread : readAlternatives isRelative (classComponents name states) =
      [{ r with compound := (stateClasses states).reverse ++ r.compound }] := by
    rw [readAlternatives, ofComponents_class]
    show readParts first first _ = _
    rw [readParts, if_pos rfl, hfirst, readParts_states first rfl rfl rfl]
    simp
  refine ⟨_, hread, ?_, rfl⟩
  simp [Reading.selector?, r, classCompound]

theorem ofComponents?_class (name : Name) (states : List State) :
    SelectorList.ofComponents? (classComponents name states) =
      some (classSelectors false name states) := by
  obtain ⟨r, hread, hselector, -⟩ := readAlternatives_class false name states
  simp [SelectorList.ofComponents?, hread, hselector, classSelectors]

/-- In a nested rule a class describes descendants. -/
theorem ofNested?_class (name : Name) (states : List State) :
    SelectorList.ofNested? (classComponents name states) =
      some (classSelectors true name states) := by
  obtain ⟨r, hread, hselector, hparent⟩ := readAlternatives_class true name states
  simp [SelectorList.ofNested?, hread, hselector, hparent, withParent, classSelectors]

theorem selectorListText_singleton (compound : Compound) :
    selectorListText [[(none, compound)]] = compoundText true compound := by
  simp [selectorListText, complexText, combinatorText]

theorem compoundText_class (isFirst : Bool) (name : Name) (rest : Compound) :
    compoundText isFirst (.hasClass name :: rest) =
      '.' :: serialized name ++ simplesText rest := rfl

theorem simplesText_states (states : List State) :
    simplesText (stateClasses states) = statesText states := by
  induction states with
  | nil => rfl
  | cons state states ih =>
      have hstate : simplesText (.pseudoClass state.name none :: stateClasses states) =
          ':' :: state.name ++ [] ++ simplesText (stateClasses states) := rfl
      rw [stateClasses, List.map_cons, ← stateClasses, hstate, ih, List.append_nil]
      rfl

/-- The compound of a class is printed as its selector is written. -/
theorem compoundText_classCompound (isFirst : Bool) (name : Name) (states : List State) :
    compoundText isFirst (classCompound name states) = classText name states := by
  rw [classCompound, compoundText_class, simplesText_states, classText]

/-- The selector of a class is printed as it is written, with the reference to the rule around it in
front if it stands in one. -/
theorem selectorListText_class (nested : Bool) (name : Name) (states : List State) :
    selectorListText (classSelectors nested name states) = ruleSelector nested name states := by
  cases nested with
  | false =>
      exact (selectorListText_singleton _).trans (compoundText_classCompound true name states)
  | true =>
      have hlist : selectorListText (classSelectors true name states) =
          '&' :: ' ' :: (compoundText false (classCompound name states) ++ []) := rfl
      rw [hlist, compoundText_classCompound, List.append_nil]
      rfl

end ElmClasses.Css
