import Untypeset.Proofs.Latex.Joined
import Untypeset.Proofs.Rendering.Likeness
import Untypeset.Proofs.Symbol.Tokens

/-!
Comments and layout. A tree may be retouched: comments are put in or left out anywhere, and blank texts wherever they are neither
in a leaf nor in anything that is ignored. No shape can see that (`likeness_retouch`). What a whole structure shows may gain or
lose blanks; the only test that layouts make on it, whether it is an integral sign, comes out the same in any text without a
backslash. So a retouched tree is converted in lockstep with the original (`retouch_invisible`).
-/

namespace Untypeset

open Untypeset.Markup Untypeset.Rendering Untypeset.Symbol Untypeset.Text

/-- the kinds whose inside stays as it is: leaves show their text, and what is ignored may hold the glyphs of a leaf -/
def Rendering.Kind.isSealed (kind : Kind) : Bool :=
  kind.isLeaf || kind = .ignored

/-- whether a node may be put in or left out: a comment anywhere, a blank text outside of what is sealed -/
def isLoose (isInside : Bool) : Node → Bool
  | .text kind content => kind = .comment || !isInside && allBlank content.toList
  | .element .. => false

/-- siblings that differ in loose nodes only, here or further in; the flag says whether they are inside of something sealed -/
inductive Retouched (shape : Shape) : Bool → List Node → List Node → Prop
  | nil {isInside : Bool} : Retouched shape isInside [] []
  | text {isInside : Bool} {kind : TextKind} {content : String} {nodes others : List Node} :
    Retouched shape isInside nodes others →
    Retouched shape isInside (.text kind content :: nodes) (.text kind content :: others)
  | element {isInside : Bool} {name : String} {attributes : List (String × String)} {children inner nodes others : List Node} :
    Retouched shape (isInside || (shape.kind (.element name attributes children)).isSealed) children inner →
    Retouched shape isInside nodes others →
    Retouched shape isInside (.element name attributes children :: nodes) (.element name attributes inner :: others)
  | leaveOut {isInside : Bool} {node : Node} {nodes others : List Node} :
    isLoose isInside node = true → Retouched shape isInside nodes others → Retouched shape isInside (node :: nodes) others
  | putIn {isInside : Bool} {node : Node} {nodes others : List Node} :
    isLoose isInside node = true → Retouched shape isInside nodes others → Retouched shape isInside nodes (node :: others)

/-- a tree and the same tree retouched -/
inductive Retouch (shape : Shape) : Node → Node → Prop
  | text {kind : TextKind} {content : String} : Retouch shape (.text kind content) (.text kind content)
  | element {name : String} {attributes : List (String × String)} {children inner : List Node} :
    Retouched shape (shape.kind (.element name attributes children)).isSealed children inner →
    Retouch shape (.element name attributes children) (.element name attributes inner)

/-! ## Loose nodes -/

variable {shape : Shape} {isInside : Bool} {node : Node} {nodes others : List Node} {a b : Node}

theorem isLoose_text_iff {kind : TextKind} {content : String} :
    isLoose isInside (.text kind content) = true ↔ kind = .comment ∨ isInside = false ∧ allBlank content.toList = true := by
  rw [isLoose, Bool.or_eq_true, Bool.and_eq_true, decide_eq_true_iff, Bool.not_eq_true']

theorem isElement_of_isLoose (h : isLoose isInside node = true) : node.isElement = false := by
  cases node with
  | text => rfl
  | element => cases h

theorem isInvisibleText_of_isLoose (h : isLoose isInside node = true) : node.isInvisibleText = true := by
  cases node with
  | element => cases h
  | text kind content =>
    rcases isLoose_text_iff.1 h with rfl | ⟨-, hblank⟩
    · rfl
    · cases kind <;> first | rfl | exact hblank

theorem kind_of_isLoose (h : isLoose isInside node = true) : shape.kind node = .ignored := by
  cases node with
  | element => cases h
  | text kind content =>
    have hkind : Kind.ofText (.text kind content) = .ignored := by
      rw [Kind.ofText, isInvisibleText_of_isLoose h]
      rfl
    cases shape <;> exact hkind

theorem isLoose_mono {isInside other : Bool} (hle : other = true → isInside = true) (h : isLoose isInside node = true) :
    isLoose other node = true := by
  cases node with
  | element => cases h
  | text kind content =>
    refine isLoose_text_iff.2 ((isLoose_text_iff.1 h).imp_right ?_)
    rintro ⟨rfl, hblank⟩
    refine ⟨?_, hblank⟩
    rw [← Bool.not_eq_true]
    exact fun hinside => Bool.false_ne_true (hle hinside)

/-- a loose node shows nothing but blanks, and inside of something sealed nothing at all -/
theorem textsFor_of_isLoose (reader : Option Enclave) (h : isLoose isInside node = true) :
    squash (node.textsFor reader).flatten = [] ∧ (isInside = true → node.textsFor reader = []) := by
  cases node with
  | element => cases h
  | text kind content =>
    rcases isLoose_text_iff.1 h with rfl | ⟨rfl, hblank⟩
    · exact ⟨rfl, fun _ => rfl⟩
    · refine ⟨?_, nofun⟩
      have hempty : squash content.toList = [] := squash_eq_nil_iff.2 (List.all_eq_true.1 hblank)
      rw [Node.textsFor]
      split
      · rwa [List.flatten_singleton]
      · rfl

/-- an element is of one kind whatever it holds -/
theorem kind_element (shape : Shape) (name : String) (attributes : List (String × String)) (children inner : List Node) :
    shape.kind (.element name attributes children) = shape.kind (.element name attributes inner) := by
  cases shape <;> rfl

/-! ## Retouched siblings -/

namespace Retouched

theorem mono (h : Retouched shape isInside nodes others) {other : Bool} (hle : other = true → isInside = true) :
    Retouched shape other nodes others := by
  induction h generalizing other with
  | nil => exact .nil
  | text _ ih => exact .text (ih hle)
  | element _ _ ihinner ih =>
    refine .element (ihinner ?_) (ih hle)
    rw [Bool.or_eq_true, Bool.or_eq_true]
    exact Or.imp_left hle
  | leaveOut hloose _ ih => exact .leaveOut (isLoose_mono hle hloose) (ih hle)
  | putIn hloose _ ih => exact .putIn (isLoose_mono hle hloose) (ih hle)

/-- what an element shows is the same but for blanks, and inside of something sealed the same -/
theorem texts (h : Retouched shape isInside nodes others) (reader : Option Enclave) :
    squash (Node.textsOfAll reader nodes).flatten = squash (Node.textsOfAll reader others).flatten ∧
      (isInside = true → Node.textsOfAll reader nodes = Node.textsOfAll reader others) := by
  induction h with
  | nil => exact ⟨rfl, fun _ => rfl⟩
  | text _ ih =>
    simp only [Node.textsOfAll, List.flatten_append, squash_append]
    exact ⟨by rw [ih.1], fun hinside => by rw [ih.2 hinside]⟩
  | element _ _ ihinner ih =>
    simp only [Node.textsOfAll, Node.textsFor, List.flatten_append, squash_append]
    refine ⟨by rw [ihinner.1, ih.1], fun hinside => ?_⟩
    rw [ihinner.2 (by rw [hinside, Bool.true_or]), ih.2 hinside]
  | leaveOut hloose _ ih =>
    obtain ⟨hblank, hnothing⟩ := textsFor_of_isLoose reader hloose
    simp only [Node.textsOfAll, List.flatten_append, squash_append]
    exact ⟨by rw [hblank, ih.1, List.nil_append], fun hinside => by rw [hnothing hinside, ih.2 hinside, List.nil_append]⟩
  | putIn hloose _ ih =>
    obtain ⟨hblank, hnothing⟩ := textsFor_of_isLoose reader hloose
    simp only [Node.textsOfAll, List.flatten_append, squash_append]
    exact ⟨by rw [hblank, ih.1, List.nil_append], fun hinside => by rw [hnothing hinside, ih.2 hinside, List.nil_append]⟩

/-- a choice of siblings that no loose node is part of -/
theorem filter (h : Retouched shape isInside nodes others) {p : Node → Bool}
    (hloose : ∀ {isInside node}, isLoose isInside node = true → p node = false)
    (helement : ∀ name attributes children inner,
      p (.element name attributes children) = p (.element name attributes inner)) :
    List.Forall₂ (Retouch shape) (nodes.filter p) (others.filter p) := by
  induction h with
  | nil => exact .nil
  | text _ ih =>
    rw [List.filter_cons, List.filter_cons]
    split
    · exact .cons .text ih
    · exact ih
  | @element isInside name attributes children inner _ _ hinner _ _ ih =>
    rw [List.filter_cons, List.filter_cons, helement name attributes inner children]
    split
    · refine .cons (.element (hinner.mono ?_)) ih
      intro hsealed
      rw [hsealed, Bool.or_true]
    · exact ih
  | leaveOut h _ ih =>
    rw [List.filter_cons_of_neg (by rw [hloose h]; exact Bool.false_ne_true)]
    exact ih
  | putIn h _ ih =>
    rw [List.filter_cons_of_neg (by rw [hloose h]; exact Bool.false_ne_true)]
    exact ih

end Retouched

/-! ## Retouched trees -/

namespace Retouch

theorem kind (h : Retouch shape a b) : shape.kind a = shape.kind b := by
  cases h with
  | text => rfl
  | element => exact kind_element ..

theorem squash_content (h : Retouch shape a b) : squash a.content = squash b.content := by
  cases h with
  | text => rfl
  | element hinner => exact (hinner.texts _).1

theorem content_of_isSealed (h : Retouch shape a b) (hk : (shape.kind a).isSealed = true) : a.content = b.content := by
  cases h with
  | text => rfl
  | element hinner => exact congrArg List.flatten ((hinner.texts _).2 hk)

end Retouch

/-- **no shape can see a retouch** -/
theorem likeness_retouch (shape : Shape) : Likeness shape (Retouch shape) where
  name h := by cases h <;> rfl
  attr h _ := by cases h <;> rfl
  kind := Retouch.kind
  elements h := by
    cases h with
    | text => exact .nil
    | element hinner => exact hinner.filter isElement_of_isLoose fun _ _ _ _ => rfl
  counted h := by
    cases h with
    | text => exact .nil
    | element hinner =>
      refine hinner.filter ?_ ?_
      · intro isInside node hloose
        rw [kind_of_isLoose hloose]
        rfl
      · intro name attributes children inner
        rw [kind_element]
  leaf h hk := h.content_of_isSealed (by rw [Kind.isSealed, hk, Bool.true_or])
  box := by
    rintro a b h rfl hnamed
    apply h.content_of_isSealed
    cases h with
    | text => cases hnamed
    | element =>
      rw [Node.isNamed, Node.name?, beq_iff_eq, Option.some.injEq] at hnamed
      subst hnamed
      rfl

/-! ## Integral signs and marks -/

/-- no function macro of these tables reads as an integral sign -/
def Symbol.SymbolTable.KeepsIntegrals (symbols : SymbolTable) : Prop :=
  ∀ name ∈ symbols.functions, trimEnd name ≠ "int".toList

theorem trim_functionOr {symbols : SymbolTable} (htables : symbols.KeepsIntegrals) {s : Latex} (hback : '\\' ∉ s)
    (hlong : ∀ c, squash s ≠ [c]) :
    trim (symbols.functionOr s) ≠ ['∫'] ∧ trim (symbols.functionOr s) ≠ integralWord := by
  unfold SymbolTable.functionOr
  split
  · rename_i hfun
    have hname : lowerCase (trim s) ∈ symbols.functions := by
      rw [SymbolTable.isFunction, Bool.and_eq_true, trim_trim] at hfun
      exact List.contains_iff_mem.1 hfun.2
    have hcalled : trim (Latex.functionMacro s) = '\\' :: trimEnd (lowerCase (trim s)) := by
      rw [Latex.functionMacro, List.cons_append, trim_cons_solid (by decide), Latex.trimEnd_append_of_blank (by decide)]
    rw [hcalled]
    refine ⟨by simp, fun h => htables _ hname ?_⟩
    rw [List.tail_eq_of_cons_eq h]
    decide
  · refine ⟨fun h => hlong '∫' (trim_eq_singleton_iff.1 h), fun h => hback (mem_trim ?_)⟩
    rw [h]
    decide

/-- a text of several characters without a backslash is no integral sign -/
theorem isIntegral_of_long {symbols : SymbolTable} (htables : symbols.KeepsIntegrals) {place : Located}
    (hback : '\\' ∉ place.node.content) (hshown : squash place.node.content ≠ [])
    (hlong : ∀ c, squash place.node.content ≠ [c]) : (Formula.read shape symbols place).isIntegral = false := by
  have htrimmed : place.node.trimmed.isEmpty = false := by
    rw [Node.trimmed, ← Bool.not_eq_true, List.isEmpty_iff, trim_eq_nil_iff]
    exact hshown
  have hsymbol : Formula.textSymbol? shape symbols place.node.trimmed = none := by
    unfold Formula.textSymbol?
    split
    · rename_i c hc
      exact absurd (trim_eq_singleton_iff.1 hc) (hlong c)
    · rfl
  have hcontent : Formula.content shape symbols place.node = symbols.functionOr place.node.trimmed := by
    rw [Formula.content, htrimmed, Formula.textContent, hsymbol]
    rfl
  have hraw : Formula.rawText shape place.node = place.node.trimmed := by
    rw [Formula.rawText, htrimmed]
    rfl
  have hcalled := trim_functionOr htables (s := place.node.trimmed) (fun h => hback (mem_trim h))
    (by rwa [Node.trimmed, squash_trim])
  have hsign : trim place.node.trimmed ≠ ['∫'] := by
    rw [Node.trimmed, trim_trim]
    exact fun h => hlong '∫' (trim_eq_singleton_iff.1 h)
  rw [← Bool.not_eq_true, Formula.isIntegral, Formula.key, Formula.facts_read]
  change ¬ (decide (trim (Formula.content shape symbols place.node) = ['∫']) ||
    decide (trim (Formula.content shape symbols place.node) = "\\int".toList) ||
    decide (trim (Formula.rawText shape place.node) = ['∫'])) = true
  rw [hcontent, hraw, Bool.or_eq_true, Bool.or_eq_true, decide_eq_true_iff, decide_eq_true_iff, decide_eq_true_iff]
  rintro ((h | h) | h)
  · exact hcalled.1 h
  · exact hcalled.2 h
  · exact hsign h

theorem isIntegral_of_trimmed {symbols : SymbolTable} {p q : Located}
    (hcodes : shape.glyphCodes p.node = shape.glyphCodes q.node) (htrimmed : p.node.trimmed = q.node.trimmed) :
    (Formula.read shape symbols p).isIntegral = (Formula.read shape symbols q).isIntegral := by
  have hcontent : Formula.content shape symbols p.node = Formula.content shape symbols q.node := by
    rw [Formula.content, Formula.content, htrimmed, hcodes]
  have hraw : Formula.rawText shape p.node = Formula.rawText shape q.node := by
    rw [Formula.rawText, Formula.rawText, htrimmed, hcodes]
  simp only [Formula.isIntegral, Formula.key, Formula.facts_read, Formula.factsAt, hcontent, hraw]

/-- blanks do not make an integral sign -/
theorem isIntegral_congr {symbols : SymbolTable} (htables : symbols.KeepsIntegrals) {p q : Located}
    (hcodes : shape.glyphCodes p.node = shape.glyphCodes q.node)
    (hsquash : squash p.node.content = squash q.node.content) (hback : '\\' ∉ p.node.content) :
    (Formula.read shape symbols p).isIntegral = (Formula.read shape symbols q).isIntegral := by
  by_cases hempty : squash p.node.content = []
  · apply isIntegral_of_trimmed hcodes
    rw [Node.trimmed, Node.trimmed, trim_eq_nil_iff.2 hempty, trim_eq_nil_iff.2 (hsquash ▸ hempty)]
  · by_cases hone : ∃ c, squash p.node.content = [c]
    · obtain ⟨c, hc⟩ := hone
      apply isIntegral_of_trimmed hcodes
      rw [Node.trimmed, Node.trimmed, trim_eq_singleton_iff.2 hc, trim_eq_singleton_iff.2 (hsquash ▸ hc)]
    · rw [not_exists] at hone
      have hback' : '\\' ∉ q.node.content := by
        intro h
        have hmem : '\\' ∈ squash q.node.content := List.mem_filter.2 ⟨h, rfl⟩
        rw [← hsquash] at hmem
        exact hback (List.mem_filter.1 hmem).1
      rw [isIntegral_of_long htables hback hempty hone, isIntegral_of_long htables hback' (hsquash ▸ hempty) (hsquash ▸ hone)]

/-- a test that no blank passes does not depend on blanks -/
theorem any_trim {test : Char → Bool} (htest : ∀ c, isBlank c = true → test c = false) (s : List Char) :
    (trim s).any test = (squash s).any test := by
  rw [← squash_trim, squash, List.any_filter]
  congr 1
  funext c
  cases hc : isBlank c with
  | true => rw [htest c hc]; rfl
  | false => rfl

/-- blanks are no marks -/
theorem marks_not_blank {marks : List Nat} (h : marks ∈ [vectorMarks, overlineMarks]) (c : Char) (hc : isBlank c = true) :
    marks.contains c.toNat = false := by
  rw [← Bool.not_eq_true, List.contains_iff_mem]
  intro hmem
  simp only [List.mem_cons, List.not_mem_nil, or_false] at h
  rcases h with rfl | rfl
  · simp only [vectorMarks, List.mem_cons, List.not_mem_nil, or_false] at hmem
    rcases hmem with hmark | hmark <;> simp [isBlank, hmark] at hc
  · simp only [overlineMarks, List.mem_cons, List.not_mem_nil, or_false] at hmem
    rcases hmem with hmark | hmark | hmark | hmark <;> simp [isBlank, hmark] at hc

theorem showsAny_congr {symbols : SymbolTable} {p q : Located} (hcodes : shape.glyphCodes p.node = shape.glyphCodes q.node)
    (hsquash : squash p.node.content = squash q.node.content) {marks : List Nat} (hmarks : marks ∈ [vectorMarks, overlineMarks]) :
    (Formula.read shape symbols p).showsAny marks = (Formula.read shape symbols q).showsAny marks := by
  have hany : p.node.trimmed.any (fun c => marks.contains c.toNat) = q.node.trimmed.any fun c => marks.contains c.toNat := by
    rw [Node.trimmed, Node.trimmed, any_trim (marks_not_blank hmarks), any_trim (marks_not_blank hmarks), hsquash]
  simp only [Formula.showsAny, Formula.facts_read, Formula.factsAt, Formula.codePoints, hcodes]
  split
  · rw [List.any_map, List.any_map]
    exact hany
  · rfl

/-! ## Texts without backslashes -/

/-- the text that a node holds itself; a comment says nothing -/
def ownText : Node → List Char
  | .text kind content => if kind = .comment then [] else content.toList
  | .element .. => []

/-- what an element shows are texts of nodes in it -/
theorem exists_ownText {c : Char} {name : String} {attributes : List (String × String)} {children : List Node}
    (h : c ∈ (Node.element name attributes children).content) :
    ∃ node ∈ (Node.element name attributes children).nodes, c ∈ ownText node := by
  rw [Node.content, Node.shownTexts, Node.textsFor_eq] at h
  obtain ⟨text, htext, hc⟩ := List.mem_flatten.1 h
  obtain ⟨node, hnode, hshown⟩ := List.mem_filterMap.1 htext
  refine ⟨node, hnode, ?_⟩
  cases node with
  | element => cases hshown
  | text kind content =>
    rw [Node.shownText?] at hshown
    split at hshown
    · rename_i hreader
      have hkind : kind ≠ .comment := by
        rintro rfl
        cases hreader
      rw [ownText, if_neg hkind]
      cases hshown
      exact hc
    · cases hshown

/-! ## Retouched trees are converted alike -/

/-- a tree without a backslash in any text, and the same tree retouched -/
def PlainRetouch (shape : Shape) (a b : Node) : Prop :=
  a.Everywhere (fun node => '\\' ∉ ownText node) ∧ Retouch shape a b

theorem likeness_plainRetouch (shape : Shape) : Likeness shape (PlainRetouch shape) :=
  (likeness_retouch shape).and fun h hchild => h.child hchild

theorem lockstep_plainRetouch (shape : Shape) {symbols : SymbolTable} (htables : symbols.KeepsIntegrals) :
    Lockstep (Likeness.Read shape symbols (PlainRetouch shape)) := by
  have hlike := likeness_plainRetouch shape
  refine hlike.lockstep symbols ?_ ?_
  · intro p q h
    have hcodes := hlike.glyphCodes h
    cases hnode : p.node with
    | text kind content =>
      have hsame : p.node.trimmed = q.node.trimmed := by
        have hretouch := h.2
        rw [hnode] at hretouch ⊢
        generalize q.node = retouched at hretouch ⊢
        cases hretouch
        rfl
      exact isIntegral_of_trimmed hcodes hsame
    | element name attributes children =>
      refine isIntegral_congr htables hcodes h.2.squash_content ?_
      intro hback
      rw [hnode] at hback
      obtain ⟨node, hmem, hchar⟩ := exists_ownText hback
      exact h.1 node (hnode ▸ hmem) hchar
  · intro p q h marks hmarks
    exact showsAny_congr (hlike.glyphCodes h) h.2.squash_content hmarks

/-- conversions in lockstep have one result, one list of notes, and one effect on counts -/
theorem convertAt_of_unplaced {symbols : SymbolTable} {p q : Located}
    (h : (walkAt shape symbols p).unplaced = (walkAt shape symbols q).unplaced) :
    convertAt shape symbols p = convertAt shape symbols q ∧
      ∀ tally : Tally, tally.follow (walkAt shape symbols p) = tally.follow (walkAt shape symbols q) := by
  have hvalue : (walkAt shape symbols p).value = (walkAt shape symbols q).value := by
    rw [← Walk.value_unplaced, h, Walk.value_unplaced]
  have hnotes : (walkAt shape symbols p).notes = (walkAt shape symbols q).notes := by
    rw [← Walk.notes_unplaced, h, Walk.notes_unplaced]
  have hfollow (tally : Tally) : tally.follow (walkAt shape symbols p) = tally.follow (walkAt shape symbols q) := by
    rw [← Tally.follow_unplaced, h, Tally.follow_unplaced]
  refine ⟨?_, hfollow⟩
  rw [convertAt, convertAt, convertWalk, convertWalk, hvalue, hnotes, hfollow]

/-- **comments and layout are invisible**: in a tree without a backslash in any text, leave out or put in comments anywhere, and
blank texts anywhere but inside of leaves and of what is ignored; the result of its conversion, the notes and the counts of nodes
and depths stay the same, whatever the tables, as long as none of their functions is called `int` -/
theorem retouch_invisible (shape : Shape) (symbols : SymbolTable) (htables : symbols.KeepsIntegrals) (place other : Located)
    (hplain : place.node.Everywhere fun node => '\\' ∉ ownText node) (h : Retouch shape place.node other.node) :
    convertAt shape symbols place = convertAt shape symbols other ∧
      ∀ tally : Tally, tally.follow (walkAt shape symbols place) = tally.follow (walkAt shape symbols other) :=
  convertAt_of_unplaced ((lockstep_plainRetouch shape htables).unplaced_latexOf ⟨place, other, ⟨hplain, h⟩, rfl, rfl⟩)

/-- a fraction with a comment in its numerator, and with comments and blanks around its arguments -/
def commentedHalf : Node :=
  .element "math" []
    [.text .comment "a half", .text .plain " ",
      .element "mfrac" []
        [.text .plain " ", .element "mi" [] [.text .plain "x", .text .comment "unknown"],
          .element "mn" [] [.text .plain "2"]]]

/-- the same fraction with a line break -/
def brokenHalf : Node :=
  .element "math" []
    [.element "mfrac" []
      [.element "mi" [] [.text .plain "x"], .text .plain "\n", .element "mn" [] [.text .plain "2"]]]

theorem keepsIntegrals_default : SymbolTable.default.KeepsIntegrals := by
  rw [SymbolTable.KeepsIntegrals, SymbolTable.default, defaultFunctions_eq]
  decide

theorem retouch_invisible_of_commentedHalf :
    (convertAt .mathml .default (.top commentedHalf)).value = "\\frac\x7bx\x7d\x7b2\x7d".toList ∧
      (Tally.start.follow (walkAt .mathml .default (.top commentedHalf))).visited = 4 := by
  have hretouch : Retouch .mathml commentedHalf brokenHalf := by
    refine .element (.leaveOut rfl (.leaveOut rfl (.element ?_ .nil)))
    exact .leaveOut rfl (.element (.text (.leaveOut rfl .nil)) (.putIn rfl (.element (.text .nil) .nil)))
  obtain ⟨hresult, hcounts⟩ := retouch_invisible .mathml .default keepsIntegrals_default (.top commentedHalf)
    (.top brokenHalf) (by decide) hretouch
  rw [hresult, hcounts]
  decide +kernel

end Untypeset
