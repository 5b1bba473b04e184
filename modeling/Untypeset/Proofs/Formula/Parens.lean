import Untypeset.Conversion
import Untypeset.Proofs.Formula.Fences

/-!
The parentheses of a finished formula are balanced if those of its rows are. A conversion moves parentheses about: a function
takes a group along or is given a pair, a pair around a base is dropped and put back, an equation is cut in two between
parentheses. The slices of a row that come up on the way need not be balanced, and between the parentheses of a base such as
`(a)(b)` stands one that is not. So what is shown of a slice is that its LaTeX can be read wherever the slice itself can, to
the same effect (`Refines`), and balance is only a matter of whole rows.

Results:
- `refines_latex`: the LaTeX of a formula refines the parenthesis that it shows to its neighbours;
- `balanced_parens`: the sized parentheses of a finished formula are balanced.
-/

namespace Untypeset

open Untypeset.Latex Untypeset.Markup Untypeset.Rendering Untypeset.Symbol Untypeset.Text

/-! ## Layouts -/

theorem parens_groupWord {control : String} (h : control ∈ groupWords) : parens control.toList = [] := by
  have all : ∀ control ∈ groupWords, parens control.toList = [] := by decide
  exact all control h

theorem parens_primed (s : Latex) : parens (Layout.primed s) = parens s := by
  have hprime : parens ['\x27'] = [] := rfl
  rw [Layout.primed, parens_append, parens_trimEnd, hprime, List.append_nil]

theorem compositional_parens : Compositional .default fun s => Balanced '(' ')' (parens s) where
  word := by decide
  named name h := by
    rw [Formula.parens_macro h]
    exact .nil
  append ha hb := by
    rw [parens_append]
    exact ha.append hb
  braced control hc s h := by
    rw [parens_braced (parens_groupWord hc)]
    exact h
  tightBraced control hc s h := by
    rw [parens_braced (parens_groupWord hc), parens_trim]
    exact h
  parens h := by
    rw [parens_parenthesized]
    exact h.wrap (by decide)
  tightParens h := by
    rw [parens_parenthesized, parens_trim]
    exact h.wrap (by decide)
  index h := by
    have hword : parens "\\sqrt[".toList = [] := by decide
    rw [parens_append, parens_append, hword, parens_trim]
    exact h.append .nil
  prime h := by
    rw [parens_primed]
    exact h

namespace Formula

/-! ## Rows -/

/-- a formula without stray parentheses at any of its nodes -/
def AllFenced (f : Formula) : Prop :=
  ∀ g ∈ f.nodes, g.Fenced ∧ g.Visible

/-- what a conversion makes of a formula can be read wherever its fence can -/
def Faithful (f : Formula) : Prop :=
  f.AllFenced → Refines '(' ')' f.fence (parens (f.latex .default))

/-- what a conversion makes of a row can be read wherever its fences can -/
def FaithfulRow (row : List Formula) : Prop :=
  (∀ f ∈ row, f.AllFenced) → Refines '(' ')' (row.flatMap fence) (parens (rowLatex .default row))

theorem fence_of_letter? {f : Formula} (h : f.letter?.isSome = true) : f.fence = [] := by
  exact fence_of_kind (by rw [kind_of_letter? h]; decide)

/-- a prime is no fence -/
theorem fence_of_isPrime {f : Formula} (h : f.isPrime = true) : f.fence = [] := by
  have all : ∀ glyph ∈ primeGlyphs, parens glyph = [] := by decide
  simp only [isPrime, Bool.and_eq_true, decide_eq_true_eq] at h
  exact fence_of_key rfl (all _ (List.contains_iff_mem.1 h.2))

/-- nor is an application mark, where marks are kept apart from parentheses -/
theorem fence_of_isApplication {f : Formula} (hf : f.AllFenced) (h : f.isApplication = true) : f.fence = [] := by
  simp only [isApplication, Bool.and_eq_true, Bool.or_eq_true, decide_eq_true_eq] at h
  obtain ⟨hkind, hmark⟩ := h
  obtain ⟨hfenced, hvisible⟩ := hf f f.mem_nodes
  by_contra hfence
  rcases hmark with hrole | hraw
  · rcases hfenced.leaf (by rw [hkind]; rfl) with hplain | ⟨-, hnone⟩
    · rw [shown, if_neg (by rw [hkind]; decide)] at hplain
      exact hfence (fence_of_key rfl (by rw [key, parens_trim, hplain]))
    · exact hnone hrole
  · exact hvisible hfence applicationMark (by decide) hraw

theorem refines_head {head : Head} (hsound : head.Sound .default)
    (member : ∀ f ∈ head.nodes, Refines '(' ')' f.fence (parens (f.latex .default))) :
    Refines '(' ')' (head.nodes.flatMap fence) (parens (head.latex .default)) := by
  cases head with
  | spelled name first letters =>
    obtain ⟨hname, hkind, -, hletters⟩ := hsound
    have hnone : (Head.spelled name first letters).nodes.flatMap fence = [] := by
      rw [Head.nodes, List.flatMap_cons, fence_of_kind (by rw [hkind]; decide), List.nil_append]
      exact List.flatMap_eq_nil_iff.2 fun f hf => fence_of_letter? (hletters f hf)
    rw [hnone, Head.latex, parens_macro hname]
    exact .refl []
  | single f =>
    rw [Head.nodes, List.flatMap_singleton, Head.latex]
    exact member f (by simp [Head.nodes])

/-- an argument may be given a pair of parentheses, even if it is a closing parenthesis itself -/
theorem refines_argument {argument : Argument}
    (member : ∀ f ∈ argument.nodes, Refines '(' ')' f.fence (parens (f.latex .default)))
    (row : ∀ row, argument.nodes = row → Refines '(' ')' (row.flatMap fence) (parens (rowLatex .default row))) :
    Refines '(' ')' (argument.nodes.flatMap fence) (parens (argument.latex .default)) := by
  cases argument with
  | absent => exact .refl []
  | group inner => exact row inner rfl
  | barred inner =>
    rw [Argument.latex, parens_parenthesized, parens_trim]
    exact (row inner rfl).wrap (by decide)
  | enclosed f =>
    rw [Argument.nodes, List.flatMap_singleton, Argument.latex]
    exact member f (by simp [Argument.nodes])
  | plain f =>
    rw [Argument.nodes, List.flatMap_singleton, Argument.latex, parens_parenthesized, parens_trim]
    exact (member f (by simp [Argument.nodes])).wrap (by decide)

theorem refines_run {run : Run} (hsound : run.Sound .default) (hfenced : ∀ f ∈ run.nodes, f.AllFenced)
    (member : ∀ f ∈ run.nodes, Refines '(' ')' f.fence (parens (f.latex .default)))
    (row : ∀ row, run.argument.nodes = row → Refines '(' ')' (row.flatMap fence) (parens (rowLatex .default row))) :
    Refines '(' ')' (run.nodes.flatMap fence) (parens ((Segment.run run).latex .default)) := by
  have hmark : run.mark.toList.flatMap fence = [] := by
    apply List.flatMap_eq_nil_iff.2
    intro f hf
    exact fence_of_isApplication (hfenced f (by simp [Run.nodes, hf])) (hsound.mark f (Option.mem_toList.1 hf))
  have hprime : run.prime.toList.flatMap fence = [] := by
    apply List.flatMap_eq_nil_iff.2
    intro f hf
    exact fence_of_isPrime (hsound.prime f (Option.mem_toList.1 hf))
  have hlatex : parens ((Segment.run run).latex .default) =
      parens (run.head.latex .default) ++ parens (run.argument.latex .default) := by
    rw [Segment.latex_run, withPrime?]
    split
    · rw [parens_primed, parens_append]
    · rw [parens_append]
  rw [hlatex, Run.nodes, List.flatMap_append, List.flatMap_append, List.flatMap_append, hmark, hprime, List.append_nil,
    List.append_nil]
  refine (refines_head hsound.head ?_).append (refines_argument ?_ row)
  · intro f hf
    exact member f (by simp [Run.nodes, hf])
  · intro f hf
    exact member f (by simp [Run.nodes, hf])

private theorem faithful_row {row : List Formula} (formulas : ∀ f : Formula, f.size ≤ sizes row → f.Faithful)
    (rows : ∀ inner, sizes inner < sizes row → FaithfulRow inner) : FaithfulRow row := by
  intro hfenced
  have member : ∀ f ∈ row, Refines '(' ')' f.fence (parens (f.latex .default)) := by
    intro f hf
    exact formulas f (size_le_sizes hf) (hfenced f hf)
  have hfences : row.flatMap fence = (segments .default row).flatMap fun s => s.nodes.flatMap fence := by
    rw [← List.flatMap_assoc, nodes_segments]
  have hparens : parens (rowLatex .default row) =
      (segments .default row).flatMap fun s => parens (s.latex .default) := by
    rw [rowLatex_eq, parens, List.filter_flatMap]
    rfl
  rw [hfences, hparens]
  apply Refines.flatMap
  intro segment hsegment
  have hnodes := Segment.nodes_subset hsegment
  cases segment with
  | bar f opens =>
    have hbar := bar_isBar hsegment
    have hfence : f.fence = [] := fence_of_key (kind_of_isFence hbar).2 (by decide)
    have hlatex : parens ((Segment.bar f opens).latex .default) = [] := by
      rw [Segment.latex_bar]
      cases opens <;> decide
    rw [Segment.nodes, List.flatMap_singleton, hfence, hlatex]
    exact .refl []
  | single f =>
    rw [Segment.nodes, List.flatMap_singleton, Segment.latex_single]
    exact member f (hnodes (by simp [Segment.nodes]))
  | run run =>
    refine refines_run (run_sound hsegment) (fun f hf => hfenced f (hnodes hf)) (fun f hf => member f (hnodes hf)) ?_
    rintro inner rfl
    apply rows run.argument.nodes (sizes_argument_lt hsegment)
    intro f hf
    exact hfenced f (hnodes (by simp [Segment.nodes, Run.nodes, hf]))

/-! ## Structures -/

/-- the base of a superscript loses a pair of parentheses and is given one, so what is between them stays as open as it was -/
theorem balanced_base {f : Formula} (hf : f.AllFenced) (whole : Balanced '(' ')' (parens (f.latex .default)))
    (inner : f.isParenthesized = true →
      Refines '(' ')' (f.innerParts.flatMap fence) (parens (rowLatex .default f.innerParts))) :
    Balanced '(' ')' (parens (f.baseLatex .default)) := by
  unfold baseLatex
  split
  · rename_i hparen
    obtain ⟨opening, closing, hopening, hclosing, hparts⟩ := parts_of_isParenthesized hparen
    have hrow : Balanced '(' ')' (f.parts.flatMap fence) :=
      (hf f f.mem_nodes).1.row (isLeaf_of_isParenthesized hparen) (counts_of_isParenthesized hparen)
    have hclose : closing.fence = [')'] := by
      have hkey := (kind_of_isFence hclosing).2
      rw [fence, if_neg (by simp [isFence, hkey]), if_pos hclosing]
    have hfences : f.parts.flatMap fence = ['('] ++ (f.innerParts.flatMap fence ++ [')']) := by
      rw [hparts, List.flatMap_cons, fence, if_pos hopening, List.flatMap_append, List.flatMap_singleton, hclose]
    rw [hfences] at hrow
    rw [parens_parenthesized]
    exact .of_refines ((Refines.refl ['(']).append ((inner hparen).append (.refl [')']))) hrow
  · split
    · exact compositional_parens.parens whole
    · exact whole

/-- the sides of an equation are read one after the other -/
theorem balanced_sides {f : Formula} (hrow : Balanced '(' ')' (f.parts.flatMap fence))
    (siblings : Balanced '(' ')' (parens (rowLatex .default f.parts)))
    (slice : ∀ row ⊆ f.parts, sizes row < f.size → Refines '(' ')' (row.flatMap fence) (parens (rowLatex .default row))) :
    Balanced '(' ')' (parens (f.sidesLatex .default)) := by
  rw [sidesLatex]
  split
  · rename_i left right hsides
    obtain ⟨equals, hequals, hparts⟩ := parts_of_sides hsides
    obtain ⟨hleft, hright⟩ := sides_subset hsides
    obtain ⟨hleftSize, hrightSize⟩ := sizes_sides hsides
    have hfence : equals.fence = [] := fence_of_key (kind_of_isFence hequals).2 (by decide)
    have hparens : parens (rowLatex .default left ++ '=' :: rowLatex .default right) =
        parens (rowLatex .default left) ++ parens (rowLatex .default right) := parens_append _ ('=' :: _)
    rw [hparts, List.flatMap_append, List.flatMap_cons, hfence, List.nil_append] at hrow
    rw [hparens]
    exact .of_refines ((slice left hleft hleftSize).append (slice right hright hrightSize)) hrow
  · exact siblings

private theorem faithful_node {f : Formula} (formulas : ∀ g : Formula, g.size < f.size → g.Faithful)
    (rows : ∀ row, sizes row < f.size → FaithfulRow row) : f.Faithful := by
  intro hf
  obtain ⟨hfenced, hvisible⟩ := hf f f.mem_nodes
  by_cases hk : f.kind.isLeaf = true
  · rcases fence_cases f with hnone | ⟨c, hc, hfence, hshows⟩
    · rcases hfenced.leaf hk with hplain | ⟨hne, -⟩
      · rw [hnone, parens_leaf hk hplain]
        exact .refl []
      · exact absurd hnone hne
    · rw [hshows, latex_of_isFence hc hfence (hvisible (by simp [hshows])), parens, List.filter_cons_of_pos hc]
      exact .refl [c]
  · simp only [Bool.not_eq_true] at hk
    have hfence : f.fence = [] := by
      apply fence_of_kind
      intro hoperator
      rw [hoperator] at hk
      cases hk
    rw [hfence]
    apply Balanced.refines
    by_cases hi : f.kind = .ignored
    · rw [latex_ignored hi]
      exact .nil
    have below : ∀ p ∈ f.parts, p.AllFenced := by
      intro p hp g hg
      exact hf g (nodes_subset_of_mem_parts hk hi hp hg)
    have part : ∀ p ∈ f.parts, Refines '(' ')' p.fence (parens (p.latex .default)) := by
      intro p hp
      exact formulas p (size_lt_of_mem_parts hp) (below p hp)
    have slice : ∀ row ⊆ f.parts, sizes row < f.size →
        Refines '(' ')' (row.flatMap fence) (parens (rowLatex .default row)) := by
      intro row hsub hsize
      exact rows row hsize fun p hp => below p (hsub hp)
    have hrow : Balanced '(' ')' (f.parts.flatMap fence) := hfenced.row hk hi
    have siblings : Balanced '(' ')' (parens (rowLatex .default f.parts)) :=
      .of_refines (slice f.parts (List.Subset.refl _) (by rw [f.size_eq]; omega)) hrow
    by_cases hfit : f.kind.arity? = some f.parts.length
    · have whole : ∀ p ∈ f.parts, Balanced '(' ')' (parens (p.latex .default)) := by
        intro p hp
        refine .of_refines (part p hp) ?_
        rw [hfenced.arguments hfit p hp]
        exact .nil
      refine compositional_parens.fitted hfit whole fun _ p hp => balanced_base (below p hp) (whole p hp) fun hparen => ?_
      apply rows p.innerParts (Nat.lt_trans p.sizes_innerParts_lt (size_lt_of_mem_parts hp))
      intro q hq g hg
      exact below p hp g (nodes_subset_of_isParenthesized hparen (p.innerParts_subset hq) hg)
    · exact compositional_parens.unfitted hk hfit (fun _ => siblings) fun _ => balanced_sides hrow siblings slice

/-- **the LaTeX of a formula can be read wherever the parenthesis can that it shows to its neighbours**, and of a row wherever
the parentheses can that its siblings show -/
theorem refines_latex {f : Formula} (hf : f.AllFenced) : Refines '(' ')' f.fence (parens (f.latex .default)) :=
  (sizes_induction (fun _ => faithful_node) fun _ => faithful_row).1 f hf

end Formula

/-! ## The finished formula -/

theorem allFenced_read {shape : Shape} {place : Located} (h : ∀ g ∈ (Formula.read shape .default place).nodes, g.Fenced) :
    (Formula.read shape .default place).AllFenced := by
  intro g hg
  obtain ⟨below, rfl⟩ := Formula.exists_read_of_mem_nodes hg
  exact ⟨h _ hg, Formula.visible_read shape below⟩

/-- **the sized parentheses of a formula without stray ones are balanced**, unless it is a parenthesis itself -/
theorem balanced_parens (shape : Shape) (place : Located)
    (h : ∀ g ∈ (Formula.read shape .default place).nodes, g.Fenced)
    (hroot : (Formula.read shape .default place).fence = []) :
    Balanced '(' ')' (delimiters '(' ')' (convertAt shape .default place).value) := by
  have hrefines := Formula.refines_latex (allFenced_read h)
  rw [hroot] at hrefines
  have hwalk : Balanced '(' ')' (parens (walkAt shape .default place).value) := .of_refines hrefines .nil
  rw [convertAt, convertWalk, delimiters_sized]
  exact hwalk

/-- a square of two factors in parentheses, and a function that takes a closing one along -/
def squaredFactors : Located :=
  .top (.element "math" []
    [.element "mo" [] [.text .plain "("],
     .element "msup" []
      [.element "mrow" []
        [.element "mo" [] [.text .plain "("], .element "mi" [] [.text .plain "a"], .element "mo" [] [.text .plain ")"],
         .element "mo" [] [.text .plain "("], .element "mi" [] [.text .plain "b"], .element "mo" [] [.text .plain ")"]],
       .element "mn" [] [.text .plain "2"]],
     .element "mi" [] [.text .plain "f"], .element "mo" [] [.text .plain "\u2061"],
     .element "mo" [] [.text .plain ")"]])

theorem balanced_parens_of_squaredFactors :
    (∀ g ∈ (Formula.read .mathml .default squaredFactors).nodes, g.Fenced) ∧
      (Formula.read .mathml .default squaredFactors).fence = [] ∧
      (convertAt .mathml .default squaredFactors).value =
        "\\left(\\left(a\\right)\\left(b\\right)^2f\\left(\\right)\\right)".toList ∧
      Balanced '(' ')' (delimiters '(' ')' (convertAt .mathml .default squaredFactors).value) := by
  have h : ∀ g ∈ (Formula.read .mathml .default squaredFactors).nodes, g.Fenced := by decide +kernel
  have hroot : (Formula.read .mathml .default squaredFactors).fence = [] := by decide +kernel
  exact ⟨h, hroot, by decide +kernel, balanced_parens .mathml squaredFactors h hroot⟩

/-- an opening parenthesis by itself -/
def loneParen : Located :=
  .top (.element "mo" [] [.text .plain "("])

/-- that a formula has no stray parentheses is not enough: a lone one has no row to be balanced in -/
theorem lone_paren_unbalanced :
    (∀ g ∈ (Formula.read .mathml .default loneParen).nodes, g.Fenced) ∧
      ¬ Balanced '(' ')' (delimiters '(' ')' (convertAt .mathml .default loneParen).value) := by
  decide +kernel

end Untypeset
