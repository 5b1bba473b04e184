import Untypeset.Proofs.Formula.Segments
import Untypeset.Proofs.Formula.Value
import Untypeset.Proofs.Symbol.Spelled

/-!
Properties that every result of a conversion has. A property of LaTeX is compositional if a layout has it as soon as its
arguments have it, and stable if moreover it is kept by trimming, wherever that is done. A compositional property that holds
of bars and of all leaves of a formula holds of the LaTeX of the whole (`Compositional.latex`), whatever the kinds, the number
of arguments and the depth.

The induction is on the number of nodes (`Formula.sizes_induction`): an argument in parentheses or between bars is a slice
of its row and no part of any node, so an induction along the parts alone does not reach it.
-/

namespace Untypeset

open Untypeset.Rendering Untypeset.Symbol Untypeset.Text

/-! ## Induction on the number of nodes -/

/-- formulas and rows together, by the number of their nodes: a formula may use everything smaller, a row its own members
and every row with fewer nodes -/
theorem Formula.sizes_induction {A : Formula → Prop} {B : List Formula → Prop}
    (node : ∀ f : Formula, (∀ g : Formula, g.size < f.size → A g) → (∀ row, sizes row < f.size → B row) → A f)
    (row : ∀ row, (∀ f : Formula, f.size ≤ sizes row → A f) → (∀ inner, sizes inner < sizes row → B inner) → B row) :
    (∀ f, A f) ∧ ∀ row, B row := by
  have below : ∀ n, (∀ f : Formula, f.size < n → A f) ∧ ∀ row, sizes row < n → B row := by
    intro n
    induction n with
    | zero => exact ⟨fun f hf => absurd hf (Nat.not_lt_zero _), fun row hrow => absurd hrow (Nat.not_lt_zero _)⟩
    | succ n ih =>
      have formulas : ∀ f : Formula, f.size < n + 1 → A f := by
        intro f hf
        exact node f (fun g hg => ih.1 g (by omega)) fun row hrow => ih.2 row (by omega)
      exact ⟨formulas, fun inner hinner => row inner (fun f hf => formulas f (by omega)) fun r hr => ih.2 r (by omega)⟩
  exact ⟨fun f => (below (f.size + 1)).1 f (Nat.lt_succ_self _), fun row =>
    (below (sizes row + 1)).2 row (Nat.lt_succ_self _)⟩

/-! ## Leaves -/

namespace Formula

mutual

/-- the leaves of a formula from left to right -/
def leaves : Formula → List Formula
  | .node facts parts =>
    if facts.kind.isLeaf then [.node facts parts] else if facts.kind = .ignored then [] else leavesOf parts

/-- the leaves of several formulas -/
def leavesOf : List Formula → List Formula
  | [] => []
  | f :: rest => leaves f ++ leavesOf rest

end

theorem leavesOf_eq (row : List Formula) : leavesOf row = row.flatMap leaves := by
  induction row with
  | nil => rfl
  | cons f rest ih => rw [leavesOf, ih, List.flatMap_cons]

theorem leaves_of_isLeaf {f : Formula} (h : f.kind.isLeaf = true) : f.leaves = [f] := by
  cases f
  rw [leaves]
  exact if_pos h

theorem leaves_of_structure {f : Formula} (h : f.kind.isLeaf = false) (hi : f.kind ≠ .ignored) :
    f.leaves = f.parts.flatMap leaves := by
  obtain ⟨facts, parts⟩ := f
  have hleaf : ¬ facts.kind.isLeaf = true := by
    intro hl
    rw [kind, facts_node, hl] at h
    cases h
  have hcounts : facts.kind ≠ .ignored := hi
  rw [leaves, if_neg hleaf, if_neg hcounts, leavesOf_eq, parts_node]

/-- what stands between parentheses is a list of siblings -/
theorem isList_of_isParenthesized {f : Formula} (h : f.isParenthesized = true) : f.kind = .row ∨ f.kind.isPlain = true := by
  rcases kind_of_isParenthesized h with hk | hk
  · exact .inl hk
  · right
    rw [hk]
    rfl

theorem isLeaf_of_isParenthesized {f : Formula} (h : f.isParenthesized = true) : f.kind.isLeaf = false := by
  rcases kind_of_isParenthesized h with hk | hk <;> rw [hk] <;> rfl

theorem counts_of_isParenthesized {f : Formula} (h : f.isParenthesized = true) : f.kind ≠ .ignored := by
  rcases kind_of_isParenthesized h with hk | hk <;> rw [hk] <;> decide

theorem leaves_of_isParenthesized {f : Formula} (h : f.isParenthesized = true) : f.leaves = f.parts.flatMap leaves :=
  leaves_of_structure (isLeaf_of_isParenthesized h) (counts_of_isParenthesized h)

/-- what is written of a leaf where no table has anything else for it -/
def shown (f : Formula) : Latex :=
  if f.kind = .bareText then f.facts.raw else f.facts.content

end Formula

/-- the kinds that hold any number of siblings -/
theorem Rendering.Kind.cases_of_arity_none {kind : Kind} (hleaf : kind.isLeaf = false) (h : kind.arity? = none) :
    kind = .ignored ∨ kind.isPlain = true ∨ kind = .row ∨ kind = .sqrt := by
  cases kind <;> simp_all [Kind.isLeaf, Kind.arity?, Kind.isPlain]

/-! ## Compositional properties -/

/-- the words that layouts put between the LaTeX of arguments -/
def joiningWords : List String :=
  ["", "=", "^2", "\\pi "]

/-- the words that layouts put before an argument in braces -/
def groupWords : List String :=
  ["", "_", "^", "\\sqrt", "\\frac", "\\int_", "\\overrightarrow", "\\overline", "\\mathbf"]

/-- a property that a layout has if its arguments have it; what is trimmed is closed off by a delimiter or a prime -/
structure Compositional (symbols : SymbolTable) (P : Latex → Prop) : Prop where
  word : ∀ w ∈ joiningWords, P w.toList
  named : ∀ name, symbols.isFunction name = true → P (Latex.functionMacro name)
  append : ∀ {a b}, P a → P b → P (a ++ b)
  braced : ∀ control ∈ groupWords, ∀ {s}, P s → P (Latex.braced control s)
  tightBraced : ∀ control ∈ groupWords, ∀ {s}, P s → P (Latex.braced control (Text.trim s))
  parens : ∀ {s}, P s → P (Latex.parenthesized s)
  tightParens : ∀ {s}, P s → P (Latex.parenthesized (Text.trim s))
  index : ∀ {s}, P s → P ("\\sqrt[".toList ++ Text.trim s ++ [']'])
  prime : ∀ {s}, P s → P (Layout.primed s)

namespace Compositional

variable {symbols : SymbolTable} {P : Latex → Prop} {a b s : Latex}

theorem nil (hP : Compositional symbols P) : P [] :=
  hP.word "" (by decide)

theorem withPrime? (hP : Compositional symbols P) (prime : Option Formula) (hs : P s) : P (withPrime? prime s) := by
  unfold Untypeset.withPrime?
  split
  · exact hP.prime hs
  · exact hs

theorem rooted (hP : Compositional symbols P) (ha : P a) (hb : P b) : P (rooted a b) := by
  have h := hP.append (hP.index hb) (hP.tightBraced "" (by decide) ha)
  unfold Untypeset.rooted
  simpa [Latex.braced] using h

theorem exponentiated (hP : Compositional symbols P) (ha : P a) (hb : P b) : P (exponentiated a b) := by
  unfold Untypeset.exponentiated
  split
  · exact hP.append ha (hP.word "^2" (by decide))
  · exact hP.append ha (hP.braced _ (by decide) hb)

theorem superscripted (hP : Compositional symbols P) (ha : P a) (hb : P b) : P (superscripted a b) := by
  unfold Untypeset.superscripted
  split
  · exact hP.prime ha
  · exact hP.exponentiated ha hb

theorem overscripted (hP : Compositional symbols P) (ha : P a) (hb : P b) : P (overscripted a b) := by
  unfold Untypeset.overscripted
  split
  · exact ha
  · exact hP.append ha (hP.braced _ (by decide) hb)

theorem flatMap (hP : Compositional symbols P) {α : Type} {list : List α} {g : α → Latex} (h : ∀ x ∈ list, P (g x)) :
    P (list.flatMap g) := by
  induction list with
  | nil => exact hP.nil
  | cons x rest ih =>
    rw [List.flatMap_cons]
    exact hP.append (h x List.mem_cons_self) (ih fun y hy => h y (List.mem_cons_of_mem x hy))

/-- a leaf whose content has the property, with operators that have it -/
theorem leaf (hP : Compositional symbols P) (operator : ∀ entry ∈ symbols.operators, P entry.2) {f : Formula}
    (hk : f.kind.isLeaf = true) (hs : P f.shown) : P (f.latex symbols) := by
  unfold Formula.shown at hs
  cases h : f.kind <;> rw [h] at hk hs <;> cases hk
  · rw [latex_identifier h, Formula.identifierLatex]
    split
    · rename_i hfun
      exact hP.named _ hfun
    · split
      · exact hP.tightBraced _ (by decide) hs
      · exact hs
  · rw [latex_number h]
    exact hs
  · rw [latex_operator h, Formula.operatorLatex]
    split
    · exact hP.nil
    · split
      · exact hP.nil
      · cases hop : symbols.operator? f.key with
        | none => exact hs
        | some token => exact operator (f.key, token) (mem_of_lookup hop)
  · rw [latex_words h, Formula.wordsLatex]
    split
    · exact hP.word "\\pi " (by decide)
    · exact hs
  · rw [latex_bareText h]
    exact hs

/-! ## Structures -/

theorem head (hP : Compositional symbols P) {head : Head} (hsound : head.Sound symbols)
    (formula : ∀ f ∈ head.nodes, P (f.latex symbols)) : P (head.latex symbols) := by
  cases head with
  | spelled name first letters => exact hP.named name hsound.1
  | single f =>
    apply formula f
    simp [Head.nodes]

theorem argument (hP : Compositional symbols P) {argument : Argument}
    (formula : ∀ f ∈ argument.nodes, P (f.latex symbols))
    (row : ∀ row, argument.nodes = row → P (rowLatex symbols row)) : P (argument.latex symbols) := by
  cases argument with
  | absent => exact hP.nil
  | group inner => exact row inner rfl
  | barred inner => exact hP.tightParens (row inner rfl)
  | enclosed f =>
    apply formula f
    simp [Argument.nodes]
  | plain f =>
    have hf : P (f.latex symbols) := formula f (by simp [Argument.nodes])
    exact hP.tightParens hf

theorem run (hP : Compositional symbols P) {run : Run} (hsound : run.Sound symbols)
    (formula : ∀ f ∈ run.nodes, P (f.latex symbols)) (row : ∀ row, run.argument.nodes = row → P (rowLatex symbols row)) :
    P ((Segment.run run).latex symbols) := by
  have hhead : P (run.head.latex symbols) := by
    apply hP.head hsound.head
    intro f hf
    exact formula f (by simp [Run.nodes, hf])
  have hargument : P (run.argument.latex symbols) := by
    refine hP.argument ?_ row
    intro f hf
    exact formula f (by simp [Run.nodes, hf])
  rw [Segment.latex_run]
  exact hP.withPrime? run.prime (hP.append hhead hargument)

/-- a structure with the arguments it expects -/
theorem fitted (hP : Compositional symbols P) {f : Formula} (hfit : f.kind.arity? = some f.parts.length)
    (part : ∀ p ∈ f.parts, P (p.latex symbols))
    (base : f.kind = .superscript → ∀ p ∈ f.parts, P (p.baseLatex symbols)) : P (f.latex symbols) := by
  have two : f.kind.arity? = some 2 → ∃ first second, f.parts = [first, second] := by
    intro h
    exact List.length_eq_two.1 (Option.some.inj (hfit.symm.trans h))
  have three : f.kind.arity? = some 3 → ∃ first second third, f.parts = [first, second, third] := by
    intro h
    exact List.length_eq_three.1 (Option.some.inj (hfit.symm.trans h))
  cases h : f.kind <;> try (rw [h] at hfit; cases hfit)
  case root =>
    obtain ⟨first, index, hp⟩ := two (by rw [h]; rfl)
    rw [latex_root h hp]
    exact hP.rooted (part first (by simp [hp])) (part index (by simp [hp]))
  case fraction =>
    obtain ⟨numerator, denominator, hp⟩ := two (by rw [h]; rfl)
    rw [latex_fraction h hp]
    exact hP.append (hP.braced _ (by decide) (part numerator (by simp [hp])))
      (hP.braced _ (by decide) (part denominator (by simp [hp])))
  case superscript =>
    obtain ⟨first, exponent, hp⟩ := two (by rw [h]; rfl)
    rw [latex_superscript h hp]
    exact hP.superscripted (base h first (by simp [hp])) (part exponent (by simp [hp]))
  case subscript | under =>
    obtain ⟨first, script, hp⟩ := two (by rw [h]; rfl)
    rw [latex_script (by simp [h]) hp]
    exact hP.append (part first (by simp [hp])) (hP.braced _ (by decide) (part script (by simp [hp])))
  case «over» =>
    obtain ⟨first, script, hp⟩ := two (by rw [h]; rfl)
    have hfirst : P (first.latex symbols) := part first (by simp [hp])
    rw [latex_over h hp]
    split
    · exact hP.braced _ (by decide) hfirst
    · split
      · exact hP.braced _ (by decide) hfirst
      · exact hP.overscripted hfirst (part script (by simp [hp]))
  case subsup | underover =>
    obtain ⟨first, lower, upper, hp⟩ := three (by rw [h]; rfl)
    have hlower : P (lower.latex symbols) := part lower (by simp [hp])
    have hupper : P (upper.latex symbols) := part upper (by simp [hp])
    rw [latex_limits (by simp [h]) hp]
    split
    · exact hP.append (hP.braced _ (by decide) hlower) (hP.braced _ (by decide) hupper)
    · exact hP.append (hP.append (part first (by simp [hp])) (hP.braced _ (by decide) hlower))
        (hP.braced _ (by decide) hupper)

/-- a list of siblings, be it meant as one or for want of the arguments that its structure expects -/
theorem unfitted (hP : Compositional symbols P) {f : Formula} (hk : f.kind.isLeaf = false)
    (hfit : f.kind.arity? ≠ some f.parts.length) (siblings : f.kind ≠ .row → P (rowLatex symbols f.parts))
    (sides : f.kind = .row → P (f.sidesLatex symbols)) : P (f.latex symbols) := by
  by_cases hnone : f.kind.arity? = none
  · rcases Kind.cases_of_arity_none hk hnone with h | h | h | h
    · rw [latex_ignored h]
      exact hP.nil
    · rw [latex_plain h]
      apply siblings
      intro hrow
      rw [hrow] at h
      cases h
    · rw [latex_row h]
      exact sides h
    · rw [latex_sqrt h]
      exact hP.tightBraced _ (by decide) (siblings (by simp [h]))
  · obtain ⟨n, hn⟩ := Option.ne_none_iff_exists'.1 hnone
    rw [latex_misfit hn fun hlength => hfit (by rw [hn, hlength])]
    apply siblings
    intro hrow
    rw [hrow] at hn
    cases hn

/-- the sides of an equation and the sign between them -/
theorem sides (hP : Compositional symbols P) {f : Formula} (siblings : f.sides? = none → P (rowLatex symbols f.parts))
    (side : ∀ left right, f.sides? = some (left, right) → P (rowLatex symbols left) ∧ P (rowLatex symbols right)) :
    P (f.sidesLatex symbols) := by
  rw [Formula.sidesLatex]
  split
  · rename_i left right hsides
    obtain ⟨hleft, hright⟩ := side left right hsides
    exact hP.append hleft (hP.append (hP.word "=" (by decide)) hright)
  · rename_i hsides
    exact siblings hsides

/-- the base of a superscript, which loses its own parentheses before it is given new ones -/
theorem base (hP : Compositional symbols P) {f : Formula} (whole : f.isParenthesized = false → P (f.latex symbols))
    (inner : f.isParenthesized = true → P (rowLatex symbols f.innerParts)) : P (f.baseLatex symbols) := by
  unfold Formula.baseLatex
  split
  · rename_i h
    exact hP.parens (inner h)
  · rename_i h
    simp only [Bool.not_eq_true] at h
    split
    · exact hP.parens (whole h)
    · exact whole h

/-! ## From the leaves to the whole -/

/-- a formula has the property if its leaves have it -/
private def Kept (symbols : SymbolTable) (P : Latex → Prop) (f : Formula) : Prop :=
  (∀ leaf ∈ f.leaves, P (leaf.latex symbols)) → P (f.latex symbols)

/-- a row has the property if its leaves have it -/
private def KeptRow (symbols : SymbolTable) (P : Latex → Prop) (row : List Formula) : Prop :=
  (∀ leaf ∈ row.flatMap Formula.leaves, P (leaf.latex symbols)) → P (rowLatex symbols row)

private theorem kept_node (hP : Compositional symbols P) {f : Formula}
    (formulas : ∀ g : Formula, g.size < f.size → Kept symbols P g)
    (rows : ∀ row, Formula.sizes row < f.size → KeptRow symbols P row) : Kept symbols P f := by
  intro hleaves
  by_cases hk : f.kind.isLeaf = true
  · apply hleaves f
    rw [Formula.leaves_of_isLeaf hk]
    exact List.mem_singleton_self f
  · simp only [Bool.not_eq_true] at hk
    by_cases hi : f.kind = .ignored
    · rw [latex_ignored hi]
      exact hP.nil
    rw [Formula.leaves_of_structure hk hi] at hleaves
    have below : ∀ p ∈ f.parts, ∀ leaf ∈ p.leaves, P (leaf.latex symbols) := by
      intro p hp leaf hleaf
      exact hleaves leaf (List.mem_flatMap.2 ⟨p, hp, hleaf⟩)
    have part : ∀ p ∈ f.parts, P (p.latex symbols) := by
      intro p hp
      exact formulas p (Formula.size_lt_of_mem_parts hp) (below p hp)
    have slice : ∀ row ⊆ f.parts, Formula.sizes row < f.size → P (rowLatex symbols row) := by
      intro row hsub hsize
      apply rows row hsize
      intro leaf hleaf
      obtain ⟨p, hp, hmem⟩ := List.mem_flatMap.1 hleaf
      exact below p (hsub hp) leaf hmem
    have siblings : P (rowLatex symbols f.parts) := slice f.parts (List.Subset.refl _) (by rw [f.size_eq]; omega)
    by_cases hfit : f.kind.arity? = some f.parts.length
    · refine hP.fitted hfit part fun _ p hp => ?_
      apply hP.base fun _ => part p hp
      intro hparen
      apply rows p.innerParts
      · exact Nat.lt_trans p.sizes_innerParts_lt (Formula.size_lt_of_mem_parts hp)
      · intro leaf hleaf
        apply below p hp
        rw [Formula.leaves_of_isParenthesized hparen]
        obtain ⟨g, hg, hmem⟩ := List.mem_flatMap.1 hleaf
        exact List.mem_flatMap.2 ⟨g, p.innerParts_subset hg, hmem⟩
    · refine hP.unfitted hk hfit (fun _ => siblings) fun _ =>
        hP.sides (fun _ => siblings) fun left right hsides => ?_
      obtain ⟨hleft, hright⟩ := Formula.sides_subset hsides
      obtain ⟨hl, hr⟩ := Formula.sizes_sides hsides
      exact ⟨slice left hleft hl, slice right hright hr⟩

private theorem kept_row (hP : Compositional symbols P) (opening : P "\\left|".toList) (closing : P "\\right|".toList)
    {row : List Formula} (formulas : ∀ f : Formula, f.size ≤ Formula.sizes row → Kept symbols P f)
    (rows : ∀ inner, Formula.sizes inner < Formula.sizes row → KeptRow symbols P inner) : KeptRow symbols P row := by
  intro hleaves
  have below : ∀ f ∈ row, ∀ leaf ∈ f.leaves, P (leaf.latex symbols) := by
    intro f hf leaf hleaf
    exact hleaves leaf (List.mem_flatMap.2 ⟨f, hf, hleaf⟩)
  have member : ∀ f ∈ row, P (f.latex symbols) := by
    intro f hf
    exact formulas f (Formula.size_le_sizes hf) (below f hf)
  rw [rowLatex_eq]
  apply hP.flatMap
  intro segment hsegment
  have hnodes := Segment.nodes_subset hsegment
  cases segment with
  | bar f opens =>
    rw [Segment.latex_bar]
    split
    · exact opening
    · exact closing
  | single f =>
    rw [Segment.latex_single]
    apply member f
    exact hnodes (by simp [Segment.nodes])
  | run run =>
    refine hP.run (run_sound hsegment) ?_ ?_
    · intro f hf
      exact member f (hnodes hf)
    · rintro inner rfl
      apply rows run.argument.nodes (sizes_argument_lt hsegment)
      intro leaf hleaf
      obtain ⟨f, hf, hmem⟩ := List.mem_flatMap.1 hleaf
      have hrow : f ∈ row := hnodes (by simp [Segment.nodes, Run.nodes, hf])
      exact below f hrow leaf hmem

/-- **a compositional property of the bars and of the leaves is a property of the formula** -/
theorem latex (hP : Compositional symbols P) (opening : P "\\left|".toList) (closing : P "\\right|".toList) {f : Formula}
    (h : ∀ leaf ∈ f.leaves, P (leaf.latex symbols)) : P (f.latex symbols) :=
  (Formula.sizes_induction (fun _ => kept_node hP) fun _ => kept_row hP opening closing).1 f h

end Compositional

/-! ## Closable properties -/

/-- what layouts put directly before an argument -/
def openingWords : List String :=
  groupWords.map (· ++ "\x7b") ++ ["(", "\\sqrt["]

/-- what layouts put directly behind an argument -/
def closingSigns : List Char :=
  ['\x7d', ')', ']', '\x27']

/-- a property that may get lost where blanks at the end are trimmed, but is restored by what a layout puts there -/
structure Closable (symbols : SymbolTable) (P : Latex → Prop) : Prop where
  word : ∀ w ∈ joiningWords, P w.toList
  opening : ∀ w ∈ openingWords, P w.toList
  closing : ∀ c ∈ closingSigns, P [c]
  named : ∀ name, symbols.isFunction name = true → P (Latex.functionMacro name)
  append : ∀ {a b}, P a → P b → P (a ++ b)
  trimStart : ∀ {s}, P s → P (Text.trimStart s)
  close : ∀ c ∈ closingSigns, ∀ {s}, P s → P (Text.trimEnd s ++ [c])

namespace Closable

variable {symbols : SymbolTable} {P : Latex → Prop} {s : Latex}

theorem enclosed (hP : Closable symbols P) {w : String} (hw : w ∈ openingWords) {c : Char} (hc : c ∈ closingSigns)
    (hs : P s) : P (w.toList ++ s ++ [c]) :=
  hP.append (hP.append (hP.opening w hw) hs) (hP.closing c hc)

theorem tightlyEnclosed (hP : Closable symbols P) {w : String} (hw : w ∈ openingWords) {c : Char}
    (hc : c ∈ closingSigns) (hs : P s) : P (w.toList ++ trim s ++ [c]) := by
  rw [List.append_assoc]
  exact hP.append (hP.opening w hw) (hP.close c hc (hP.trimStart hs))

theorem braced_eq (control : String) (body : Latex) :
    Latex.braced control body = (control ++ "\x7b").toList ++ body ++ ['\x7d'] := by
  rw [Latex.braced, String.toList_append, show "\x7b".toList = ['\x7b'] from String.toList_ofList]
  simp

theorem parenthesized_eq (body : Latex) : Latex.parenthesized body = "(".toList ++ body ++ [')'] := by
  rw [show "(".toList = ['('] from String.toList_ofList]
  rfl

theorem mem_openingWords {control : String} (h : control ∈ groupWords) : control ++ "\x7b" ∈ openingWords :=
  List.mem_append_left _ (List.mem_map_of_mem h)

theorem compositional (hP : Closable symbols P) : Compositional symbols P where
  word := hP.word
  named := hP.named
  append := hP.append
  braced control hc s hs := by
    rw [braced_eq]
    exact hP.enclosed (mem_openingWords hc) (by decide) hs
  tightBraced control hc s hs := by
    rw [braced_eq]
    exact hP.tightlyEnclosed (mem_openingWords hc) (by decide) hs
  parens hs := by
    rw [parenthesized_eq]
    exact hP.enclosed (by decide) (by decide) hs
  tightParens hs := by
    rw [parenthesized_eq]
    exact hP.tightlyEnclosed (by decide) (by decide) hs
  index hs := hP.tightlyEnclosed (by decide) (by decide) hs
  prime hs := hP.close '\x27' (by decide) hs

end Closable

/-! ## Stable properties -/

/-- the words that layouts put around the LaTeX of arguments -/
def layoutWords : List String :=
  ["\\left|", "\\right|", "(", ")", "\x27", "=", "^2", "\\sqrt", "\\sqrt[", "]", "\\frac", "", "_", "^", "\\int_",
   "\\overrightarrow", "\\overline", "\\mathbf", "\\pi "]

/-- a property of LaTeX that layouts keep -/
structure Stable (symbols : SymbolTable) (P : Latex → Prop) : Prop where
  word : ∀ w ∈ layoutWords, P w.toList
  named : ∀ name, symbols.isFunction name = true → P (Latex.functionMacro name)
  operator : ∀ entry ∈ symbols.operators, P entry.2
  append : ∀ {a b}, P a → P b → P (a ++ b)
  group : ∀ {body}, P body → P ('\x7b' :: body ++ ['\x7d'])
  trim : ∀ {s}, P s → P (Text.trim s)
  trimEnd : ∀ {s}, P s → P (Text.trimEnd s)

namespace Stable

variable {symbols : SymbolTable} {P : Latex → Prop} {s : Latex}

theorem parenthesized (hP : Stable symbols P) (hs : P s) : P (Latex.parenthesized s) :=
  hP.append (hP.append (hP.word "(" (by decide)) hs) (hP.word ")" (by decide))

theorem braced (hP : Stable symbols P) {control : String} (hc : control ∈ groupWords) (hs : P s) :
    P (Latex.braced control s) := by
  have hwords : groupWords ⊆ layoutWords := by decide
  rw [Latex.braced, List.append_assoc]
  exact hP.append (hP.word control (hwords hc)) (hP.group hs)

theorem compositional (hP : Stable symbols P) : Compositional symbols P where
  word := by
    have hwords : joiningWords ⊆ layoutWords := by decide
    intro w hw
    exact hP.word w (hwords hw)
  named := hP.named
  append := hP.append
  braced _ hc _ hs := hP.braced hc hs
  tightBraced _ hc _ hs := hP.braced hc (hP.trim hs)
  parens := hP.parenthesized
  tightParens := fun hs => hP.parenthesized (hP.trim hs)
  index := fun hs => hP.append (hP.append (hP.word "\\sqrt[" (by decide)) (hP.trim hs)) (hP.word "]" (by decide))
  prime := fun hs => hP.append (hP.trimEnd hs) (hP.word "\x27" (by decide))

/-- **a stable property of the leaves is a property of the formula** -/
theorem latex (hP : Stable symbols P) {f : Formula} (h : ∀ leaf ∈ f.leaves, P (leaf.latex symbols)) :
    P (f.latex symbols) :=
  hP.compositional.latex (hP.word "\\left|" (by decide)) (hP.word "\\right|" (by decide)) h

end Stable

end Untypeset
