import Mathlib.Data.List.Chain
import Untypeset.Proofs.Formula.Segments
import Untypeset.Proofs.Formula.Stable
import Untypeset.Proofs.Latex.Digits

/-!
No digit of a formula is lost, repeated or moved. `Formula.digits` reads the digits off the leaves; the only structure that
changes their order is a root, whose index is written first. A formula is legible if its leaves show the digits they stand
for, and if what a layout leaves out (the script under a mark, the sign of an integral, an application mark) has none.

Results:
- `digits_rowLatex`: a legible row shows the digits of its siblings, however it is cut into segments;
- `digits_latex`: the LaTeX of a legible formula shows the digits of its leaves.

The proof goes by the number of nodes; what carries it is that the siblings of a run stand next to each other
(`run_contiguous`), so a slice of a legible row is legible.
-/

namespace Untypeset

open Untypeset.Latex Untypeset.Rendering Untypeset.Symbol Untypeset.Text

/-- the digits of a node: its own if it is a leaf, those of its parts from left to right if it is a structure, except that the
index of a root comes before its base -/
def orderedDigits (kind : Kind) (own : List Char) (parts : List (List Char)) : List Char :=
  if kind.isLeaf then own
  else if kind = .ignored then []
  else if kind = .root then
    match parts with
    | [base, index] => index ++ base
    | others => others.flatten
  else parts.flatten

section

variable {kind : Kind} {own : List Char} {parts : List (List Char)}

theorem orderedDigits_of_isLeaf (h : kind.isLeaf = true) : orderedDigits kind own parts = own := by
  unfold orderedDigits
  rw [if_pos h]

theorem orderedDigits_ignored : orderedDigits .ignored own parts = [] := rfl

theorem orderedDigits_root (base index : List Char) : orderedDigits .root own [base, index] = index ++ base := rfl

theorem orderedDigits_of_structure (hk : kind.isLeaf = false) (hi : kind ≠ .ignored)
    (hr : kind = .root → parts.length ≠ 2) : orderedDigits kind own parts = parts.flatten := by
  unfold orderedDigits
  rw [if_neg (by simp [hk]), if_neg hi]
  split
  · rename_i hroot
    split
    · exact absurd rfl (hr hroot)
    · rfl
  · rfl

/-- in whatever order they come, the digits of a structure are those of its parts -/
theorem mem_orderedDigits {c : Char} (h : c ∈ orderedDigits kind own parts) :
    kind.isLeaf = true ∧ c ∈ own ∨ c ∈ parts.flatten := by
  unfold orderedDigits at h
  split at h
  · rename_i hleaf
    exact .inl ⟨hleaf, h⟩
  · right
    split at h
    · cases h
    · split at h
      · split at h
        · simpa [or_comm] using h
        · exact h
      · exact h

end

namespace Formula

mutual

/-- the digits of the leaves of a formula, in order -/
def digits : Formula → List Char
  | .node facts parts => orderedDigits facts.kind (Latex.digits facts.raw) (digitsOf parts)

/-- the digits of each of several formulas -/
def digitsOf : List Formula → List (List Char)
  | [] => []
  | f :: rest => digits f :: digitsOf rest

end

theorem digitsOf_eq (row : List Formula) : digitsOf row = row.map digits := by
  induction row with
  | nil => rfl
  | cons f rest ih => rw [digitsOf, ih, List.map_cons]

theorem digits_eq (f : Formula) :
    f.digits = orderedDigits f.kind (Latex.digits f.facts.raw) (f.parts.map digits) := by
  obtain ⟨facts, parts⟩ := f
  rw [digits, digitsOf_eq]
  rfl

/-- the second of two neighbours is no application mark with digits, if the first is an identifier -/
def Unmarked (f next : Formula) : Prop :=
  f.kind = .identifier → next.isApplication = true → next.digits = []

/-- a node at which no digit is lost -/
structure Legible (f : Formula) : Prop where
  leaf : f.kind.isLeaf = true → Latex.digits f.facts.content = Latex.digits f.facts.raw
  overscript : f.kind = .over → ∀ base script, f.parts = [base, script] → script.digits = []
  integral : f.kind = .subsup ∨ f.kind = .underover →
    ∀ base lower upper, f.parts = [base, lower, upper] → base.isIntegral = true → base.digits = []
  marks : f.parts.IsChain Unmarked

/-- a formula that is legible at all its nodes -/
inductive AllLegible : Formula → Prop
  | intro {f : Formula} : f.Legible → (∀ part ∈ f.parts, AllLegible part) → AllLegible f

theorem AllLegible.top {f : Formula} (h : f.AllLegible) : f.Legible := by
  cases h with
  | intro top _ => exact top

theorem AllLegible.part {f part : Formula} (h : f.AllLegible) (hpart : part ∈ f.parts) : part.AllLegible := by
  cases h with
  | intro _ parts => exact parts part hpart

/-- a row of legible siblings -/
structure LegibleRow (row : List Formula) : Prop where
  siblings : ∀ f ∈ row, f.AllLegible
  marks : row.IsChain Unmarked

theorem AllLegible.row {f : Formula} (h : f.AllLegible) : LegibleRow f.parts :=
  ⟨fun _ => h.part, h.top.marks⟩

theorem LegibleRow.slice (before : List Formula) {row after : List Formula} (h : LegibleRow (before ++ row ++ after)) :
    LegibleRow row :=
  ⟨fun f hf => h.siblings f (by simp [hf]), h.marks.left_of_append.right_of_append⟩

/-! ## Leaves -/

variable {f : Formula}

theorem digits_of_isLeaf (hk : f.kind.isLeaf = true) : f.digits = Latex.digits f.facts.raw := by
  rw [digits_eq, orderedDigits_of_isLeaf hk]

theorem digits_key (f : Formula) : Latex.digits f.key = Latex.digits f.facts.content :=
  digits_trim f.facts.content

/-- a legible leaf that its neighbours know by a key without digits has no digits -/
theorem Legible.digits_eq_nil (h : f.Legible) (hk : f.kind.isLeaf = true) (hkey : Latex.digits f.key = []) :
    f.digits = [] := by
  rw [digits_of_isLeaf hk, ← h.leaf hk, ← digits_key, hkey]

theorem Legible.digits_of_isFence (h : f.Legible) {c : Char} (hf : f.isFence c = true) (hc : isAsciiDigit c = false) :
    f.digits = [] := by
  simp only [isFence, Bool.and_eq_true, decide_eq_true_eq] at hf
  refine h.digits_eq_nil (by rw [hf.1]; rfl) ?_
  rw [hf.2, digits_cons_of_not hc, digits_nil]

theorem Legible.digits_of_isPrime (h : f.Legible) (hf : f.isPrime = true) : f.digits = [] := by
  simp only [isPrime, Bool.and_eq_true, decide_eq_true_eq] at hf
  refine h.digits_eq_nil (by rw [hf.1]; rfl) ?_
  have all : ∀ glyph ∈ primeGlyphs, Latex.digits glyph = [] := by decide
  exact all _ (List.contains_iff_mem.1 hf.2)

theorem not_digit_of_isLetter {c : Char} (h : isLetter c = true) : isAsciiDigit c = false := by
  by_contra hdigit
  simp only [Bool.not_eq_false] at hdigit
  rw [isLetter, if_pos (ascii_of_digit hdigit)] at h
  rw [not_digit_of_letter h] at hdigit
  cases hdigit

theorem Legible.digits_of_letter? (h : f.Legible) (hl : f.letter?.isSome = true) : f.digits = [] := by
  have hk := kind_of_letter? hl
  refine h.digits_eq_nil (by rw [hk]; rfl) ?_
  rw [letter?, if_pos hk] at hl
  split at hl
  · rename_i c hkey
    split at hl
    · rename_i hletter
      rw [hkey, digits_cons_of_not (not_digit_of_isLetter hletter), digits_nil]
    · cases hl
  · cases hl

/-- no function name starts with a digit -/
theorem not_digit_of_startsFunction {c : Char} (h : SymbolTable.default.startsFunction [c] = true) :
    isAsciiDigit c = false := by
  by_contra hdigit
  simp only [Bool.not_eq_false] at hdigit
  have all : ∀ name ∈ spelledFunctions.1, Latex.digits name = [] := by decide
  rw [SymbolTable.startsFunction, SymbolTable.default, defaultFunctions_eq, Bool.and_eq_true, List.any_eq_true] at h
  obtain ⟨-, name, hname, hstart⟩ := h
  have hmem : c ∈ lowerCase [c] := mem_lowerCaseAfter hdigit [] (List.mem_singleton_self c)
  have hnot := digits_eq_nil_iff.1 (all name hname) c ((List.isPrefixOf_iff_prefix.1 hstart).subset hmem)
  rw [hnot] at hdigit
  cases hdigit

/-- the LaTeX of a legible leaf shows its digits -/
theorem Legible.digits_leaf (h : f.Legible) (hk : f.kind.isLeaf = true) :
    Latex.digits (f.latex .default) = f.digits := by
  rw [digits_of_isLeaf hk]
  have hcontent := h.leaf hk
  cases hkind : f.kind <;> rw [hkind] at hk <;> cases hk
  · rw [latex_identifier hkind, identifierLatex]
    split
    · rename_i hfun
      rw [(digits_of_isFunction hfun).2, ← hcontent, ← digits_key, (digits_of_isFunction hfun).1]
    · split
      · rw [digits_braced (by decide), digits_key, hcontent]
      · exact hcontent
  · rw [latex_number hkind]
    exact hcontent
  · rw [latex_operator hkind, operatorLatex]
    split
    · rename_i hinvisible
      obtain ⟨c, hc, hraw⟩ := List.any_eq_true.1 hinvisible
      have all : ∀ c ∈ invisibleOperators, Latex.digits [c] = [] := List.all_iff_forall_prop.1 (by decide)
      rw [of_decide_eq_true hraw, all c hc, digits_nil]
    · split
      · rename_i hempty
        rw [← hcontent, ← digits_key, List.isEmpty_iff.1 hempty]
      · cases hop : SymbolTable.default.operator? f.key with
        | none => exact hcontent
        | some token =>
          rw [Option.getD_some, (digits_of_operator hop).2, ← hcontent, ← digits_key, (digits_of_operator hop).1]
  · rw [latex_words hkind, wordsLatex]
    split
    · rename_i hpi
      rw [← hcontent, ← digits_key, hpi]
      decide
    · exact hcontent
  · rw [latex_bareText hkind]

/-! ## Segments -/

theorem digits_withPrime? (prime : Option Formula) (s : Latex) : Latex.digits (withPrime? prime s) = Latex.digits s := by
  unfold withPrime?
  split
  · rw [Layout.primed, digits_append, digits_trimEnd]
    exact List.append_nil _
  · rfl

/-- a head shows the digits of its siblings; one that is spelled has none -/
theorem digits_head {head : Head} (hsound : head.Sound .default) (hrow : ∀ f ∈ head.nodes, f.AllLegible)
    (member : ∀ f ∈ head.nodes, Latex.digits (f.latex .default) = f.digits) :
    Latex.digits (head.latex .default) = head.nodes.flatMap digits := by
  cases head with
  | spelled name first letters =>
    obtain ⟨hname, hkind, ⟨c, hkey, hstart⟩, hletters⟩ := hsound
    have hfirst : first.digits = [] := by
      refine (hrow first (by simp [Head.nodes])).top.digits_eq_nil (by rw [hkind]; rfl) ?_
      rw [hkey, digits_cons_of_not (not_digit_of_startsFunction hstart), digits_nil]
    have hrest : letters.flatMap digits = [] := by
      apply List.flatMap_eq_nil_iff.2
      intro f hf
      have hlegible : f.AllLegible := hrow f (by simp [Head.nodes, hf])
      exact hlegible.top.digits_of_letter? (hletters f hf)
    rw [Head.latex, (digits_of_isFunction hname).2, Head.nodes, List.flatMap_cons, hfirst, hrest, List.append_nil]
  | single f =>
    rw [Head.latex, member f (by simp [Head.nodes]), Head.nodes, List.flatMap_singleton]

theorem digits_argument {argument : Argument}
    (member : ∀ f ∈ argument.nodes, Latex.digits (f.latex .default) = f.digits)
    (row : ∀ row, argument.nodes = row → Latex.digits (rowLatex .default row) = row.flatMap digits) :
    Latex.digits (argument.latex .default) = argument.nodes.flatMap digits := by
  cases argument with
  | absent => rfl
  | group inner => exact row inner rfl
  | barred inner =>
    rw [Argument.latex, digits_parenthesized, digits_trim, row inner rfl]
    rfl
  | enclosed f =>
    rw [Argument.latex, member f (by simp [Argument.nodes]), Argument.nodes, List.flatMap_singleton]
  | plain f =>
    rw [Argument.latex, digits_parenthesized, digits_trim, member f (by simp [Argument.nodes]), Argument.nodes,
      List.flatMap_singleton]

/-- the mark of a run stands behind an identifier, so it has no digits -/
theorem digits_mark {run : Run} (hsound : run.Sound .default) (hrow : LegibleRow run.nodes) :
    run.mark.toList.flatMap digits = [] := by
  cases hmark : run.mark with
  | none => rfl
  | some mark =>
    have hchain := hrow.marks
    rw [Run.nodes, hmark, List.append_assoc, List.append_assoc] at hchain
    have hlast := hchain.rel_getLast_head_of_append run.head.nodes_ne_nil (by simp)
    have hdigits := hlast (kind_of_mem_head hsound.head (List.getLast_mem _)) (hsound.mark mark (by simp [hmark]))
    rw [Option.toList_some, List.flatMap_singleton]
    exact hdigits

theorem digits_prime {run : Run} (hsound : run.Sound .default) (hrow : LegibleRow run.nodes) :
    run.prime.toList.flatMap digits = [] := by
  cases hprime : run.prime with
  | none => rfl
  | some prime =>
    have hlegible := hrow.siblings prime (by simp [Run.nodes, hprime])
    rw [Option.toList_some, List.flatMap_singleton]
    exact hlegible.top.digits_of_isPrime (hsound.prime prime (by simp [hprime]))

theorem digits_run {run : Run} (hsound : run.Sound .default) (hrow : LegibleRow run.nodes)
    (member : ∀ f ∈ run.nodes, Latex.digits (f.latex .default) = f.digits)
    (row : ∀ row, run.argument.nodes = row → Latex.digits (rowLatex .default row) = row.flatMap digits) :
    Latex.digits ((Segment.run run).latex .default) = run.nodes.flatMap digits := by
  have hhead : ∀ f ∈ run.head.nodes, f ∈ run.nodes := by
    intro f hf
    simp [Run.nodes, hf]
  have hargument : ∀ f ∈ run.argument.nodes, f ∈ run.nodes := by
    intro f hf
    simp [Run.nodes, hf]
  rw [Segment.latex_run, digits_withPrime?, digits_append,
    digits_head hsound.head (fun f hf => hrow.siblings f (hhead f hf)) (fun f hf => member f (hhead f hf)),
    digits_argument (fun f hf => member f (hargument f hf)) row]
  simp only [Run.nodes, List.flatMap_append, digits_mark hsound hrow, digits_prime hsound hrow, List.append_nil]

/-! ## Structures -/

private def Kept (f : Formula) : Prop :=
  f.AllLegible → Latex.digits (f.latex .default) = f.digits

private def KeptRow (row : List Formula) : Prop :=
  LegibleRow row → Latex.digits (rowLatex .default row) = row.flatMap digits

private theorem kept_row {row : List Formula} (formulas : ∀ f : Formula, f.size ≤ sizes row → Kept f)
    (rows : ∀ inner, sizes inner < sizes row → KeptRow inner) : KeptRow row := by
  intro hrow
  have member : ∀ f ∈ row, Latex.digits (f.latex .default) = f.digits := by
    intro f hf
    exact formulas f (size_le_sizes hf) (hrow.siblings f hf)
  have segment : ∀ s ∈ segments .default row,
      Latex.digits (s.latex .default) = s.nodes.flatMap digits := by
    intro s hs
    have hnodes := Segment.nodes_subset hs
    cases s with
    | bar f opens =>
      have hbar := (hrow.siblings f (hnodes (by simp [Segment.nodes]))).top.digits_of_isFence (bar_isBar hs) (by decide)
      rw [Segment.latex_bar, Segment.nodes, List.flatMap_singleton, hbar]
      cases opens
      · decide
      · decide
    | single f =>
      rw [Segment.latex_single, Segment.nodes, List.flatMap_singleton]
      exact member f (hnodes (by simp [Segment.nodes]))
    | run run =>
      obtain ⟨before, after, hsplit⟩ := run_contiguous hs
      rw [← hsplit] at hrow
      have hrun : LegibleRow run.nodes := hrow.slice
      refine digits_run (run_sound hs) hrun ?_ ?_
      · intro f hf
        exact member f (hnodes hf)
      · -- the argument is a slice of the run in its turn
        rintro inner rfl
        apply rows run.argument.nodes (sizes_argument_lt hs)
        rw [Run.nodes] at hrun
        exact hrun.slice
  calc Latex.digits (rowLatex .default row)
      = (segments .default row).flatMap fun s => Latex.digits (s.latex .default) := by rw [rowLatex_eq, digits_flatMap]
    _ = (segments .default row).flatMap fun s => s.nodes.flatMap digits := List.flatMap_congr segment
    _ = row.flatMap digits := by rw [← List.flatMap_assoc, nodes_segments]

theorem digits_of_structure (hk : f.kind.isLeaf = false) (hi : f.kind ≠ .ignored)
    (hr : f.kind = .root → f.parts.length ≠ 2) : f.digits = f.parts.flatMap digits := by
  rw [digits_eq, orderedDigits_of_structure hk hi fun h => by simpa using hr h, List.flatMap_def]

theorem digits_root {base index : Formula} (h : f.kind = .root) (hp : f.parts = [base, index]) :
    f.digits = index.digits ++ base.digits := by
  rw [digits_eq, h, hp]
  exact orderedDigits_root _ _

/-- the base of a superscript loses its parentheses and is given new ones -/
theorem digits_base (hf : f.AllLegible) (whole : Latex.digits (f.latex .default) = f.digits)
    (inner : ∀ row, sizes row < f.size → LegibleRow row → Latex.digits (rowLatex .default row) = row.flatMap digits) :
    Latex.digits (f.baseLatex .default) = f.digits := by
  unfold baseLatex
  split
  · rename_i hparen
    obtain ⟨opening, closing, hopening, hclosing, hparts⟩ := parts_of_isParenthesized hparen
    have hrow := hf.row
    have hfirst : opening.digits = [] :=
      (hf.part (by simp [hparts])).top.digits_of_isFence hopening (by decide)
    have hlast : closing.digits = [] :=
      (hf.part (by simp [hparts])).top.digits_of_isFence hclosing (by decide)
    have hkind := kind_of_isParenthesized hparen
    have hdigits : f.digits = f.innerParts.flatMap digits := by
      rw [digits_of_structure (isLeaf_of_isParenthesized hparen) (counts_of_isParenthesized hparen)
        (by rcases hkind with h | h <;> simp [h]), hparts, List.flatMap_cons, List.flatMap_append, hfirst,
        List.flatMap_singleton, hlast, List.append_nil, List.nil_append]
    rw [hparts, ← List.singleton_append, ← List.append_assoc] at hrow
    rw [digits_parenthesized, inner _ f.sizes_innerParts_lt hrow.slice, hdigits]
  · split
    · rw [digits_parenthesized, whole]
    · exact whole

theorem digits_superscripted {base exponent : Latex} :
    Latex.digits (superscripted base exponent) = Latex.digits base ++ Latex.digits exponent := by
  unfold superscripted exponentiated
  split
  · rename_i hprime
    have all : ∀ glyph ∈ primeGlyphs, Latex.digits glyph = [] := by decide
    have hexponent := all _ (List.contains_iff_mem.1 hprime)
    rw [digits_trim] at hexponent
    rw [hexponent, Layout.primed, digits_append, digits_trimEnd]
    rfl
  · split
    · rename_i htwo
      rw [htwo, digits_append]
      rfl
    · rw [digits_append, digits_braced (by decide)]

theorem digits_rooted (base index : Latex) :
    Latex.digits (rooted base index) = Latex.digits index ++ Latex.digits base := by
  have hopening : Latex.digits "\\sqrt[".toList = [] := by decide
  have hclosing : Latex.digits (']' :: '\x7b' :: trim base ++ ['\x7d']) = Latex.digits base := by
    rw [List.cons_append, digits_cons_of_not (by decide), digits_group, digits_trim]
  unfold rooted
  rw [List.append_assoc, digits_append, hclosing, digits_append, hopening, digits_trim]
  rfl

/-- a structure with another number of parts than its layout takes is written as a row -/
theorem shown_of_pair (h : f.kind.arity? = some 2) (whole : Latex.digits (rowLatex .default f.parts) = f.parts.flatMap digits)
    (hpair : ∀ first second, f.parts = [first, second] → Latex.digits (f.latex .default) = f.parts.flatMap digits) :
    Latex.digits (f.latex .default) = f.parts.flatMap digits :=
  latex_of_pair (P := fun s => Latex.digits s = f.parts.flatMap digits) h whole hpair

theorem shown_of_triple (h : f.kind.arity? = some 3)
    (whole : Latex.digits (rowLatex .default f.parts) = f.parts.flatMap digits)
    (htriple : ∀ base lower upper, f.parts = [base, lower, upper] →
      Latex.digits (f.latex .default) = f.parts.flatMap digits) :
    Latex.digits (f.latex .default) = f.parts.flatMap digits :=
  latex_of_triple (P := fun s => Latex.digits s = f.parts.flatMap digits) h whole htriple

/-- the sides of an equation are slices of the row, and the sign between them has no digits -/
theorem digits_sides (hf : f.AllLegible) {left right : List Formula} (hsides : f.sides? = some (left, right))
    (row : ∀ row, sizes row < f.size → LegibleRow row → Latex.digits (rowLatex .default row) = row.flatMap digits) :
    Latex.digits (rowLatex .default left ++ '=' :: rowLatex .default right) = f.parts.flatMap digits := by
  obtain ⟨equals, hequals, hparts⟩ := parts_of_sides hsides
  obtain ⟨hleftSize, hrightSize⟩ := sizes_sides hsides
  have hsign : equals.digits = [] := by
    have hlegible : equals.AllLegible := hf.part (by simp [hparts])
    exact hlegible.top.digits_of_isFence hequals (by decide)
  have hrow : LegibleRow (left ++ equals :: right) := hparts ▸ hf.row
  have hleft : Latex.digits (rowLatex .default left) = left.flatMap digits := by
    apply row left hleftSize
    exact LegibleRow.slice [] hrow
  have hright : Latex.digits (rowLatex .default right) = right.flatMap digits := by
    apply row right hrightSize
    have hslice : LegibleRow ((left ++ [equals]) ++ right ++ []) := by simpa using hrow
    exact hslice.slice
  calc Latex.digits (rowLatex .default left ++ '=' :: rowLatex .default right)
      = left.flatMap digits ++ right.flatMap digits := by
        rw [Latex.digits_append, digits_cons_of_not (by decide), hleft, hright]
    _ = f.parts.flatMap digits := by simp [hparts, hsign]

theorem digits_fraction {numerator denominator : Formula} (h : f.kind = .fraction)
    (hp : f.parts = [numerator, denominator]) (part : ∀ p ∈ f.parts, Latex.digits (p.latex .default) = p.digits) :
    Latex.digits (f.latex .default) = f.parts.flatMap digits := by
  have hnumerator := part numerator (by simp [hp])
  have hdenominator := part denominator (by simp [hp])
  calc Latex.digits (f.latex .default)
      = numerator.digits ++ denominator.digits := by
        rw [latex_fraction h hp, Latex.digits_append, digits_braced (by decide), digits_braced (by decide), hnumerator,
          hdenominator]
    _ = f.parts.flatMap digits := by simp [hp]

theorem digits_superscript (hf : f.AllLegible) {base exponent : Formula} (h : f.kind = .superscript)
    (hp : f.parts = [base, exponent]) (part : ∀ p ∈ f.parts, Latex.digits (p.latex .default) = p.digits)
    (row : ∀ row, sizes row < f.size → LegibleRow row → Latex.digits (rowLatex .default row) = row.flatMap digits) :
    Latex.digits (f.latex .default) = f.parts.flatMap digits := by
  have hmem : base ∈ f.parts := by simp [hp]
  have hbase : Latex.digits (base.baseLatex .default) = base.digits := by
    apply digits_base (hf.part hmem) (part base hmem)
    intro inner hsize
    exact row inner (Nat.lt_trans hsize (size_lt_of_mem_parts hmem))
  have hexponent := part exponent (by simp [hp])
  calc Latex.digits (f.latex .default)
      = base.digits ++ exponent.digits := by rw [latex_superscript h hp, digits_superscripted, hbase, hexponent]
    _ = f.parts.flatMap digits := by simp [hp]

theorem digits_script {base script : Formula} (h : f.kind = .subscript ∨ f.kind = .under)
    (hp : f.parts = [base, script]) (part : ∀ p ∈ f.parts, Latex.digits (p.latex .default) = p.digits) :
    Latex.digits (f.latex .default) = f.parts.flatMap digits := by
  have hbase := part base (by simp [hp])
  have hscript := part script (by simp [hp])
  calc Latex.digits (f.latex .default)
      = base.digits ++ script.digits := by
        rw [latex_script h hp, Latex.digits_append, digits_braced (by decide), hbase, hscript]
    _ = f.parts.flatMap digits := by simp [hp]

/-- marks are drawn as marks or as scripts; legible ones have no digits, so that both come to the base -/
theorem digits_over (hf : f.AllLegible) {base script : Formula} (h : f.kind = .over)
    (hp : f.parts = [base, script]) (part : ∀ p ∈ f.parts, Latex.digits (p.latex .default) = p.digits) :
    Latex.digits (f.latex .default) = f.parts.flatMap digits := by
  have hbase := part base (by simp [hp])
  have hscript := part script (by simp [hp])
  have hnone : script.digits = [] := hf.top.overscript h base script hp
  have hrest : f.parts.flatMap digits = base.digits := by simp [hp, hnone]
  rw [hrest, latex_over h hp]
  split
  · rw [digits_braced (by decide), hbase]
  · split
    · rw [digits_braced (by decide), hbase]
    · unfold overscripted
      split
      · exact hbase
      · rw [Latex.digits_append, digits_braced (by decide), hbase, hscript, hnone, List.append_nil]

theorem digits_limits (hf : f.AllLegible) {base lower upper : Formula} (h : f.kind = .subsup ∨ f.kind = .underover)
    (hp : f.parts = [base, lower, upper]) (part : ∀ p ∈ f.parts, Latex.digits (p.latex .default) = p.digits) :
    Latex.digits (f.latex .default) = f.parts.flatMap digits := by
  have hbase := part base (by simp [hp])
  have hlower := part lower (by simp [hp])
  have hupper := part upper (by simp [hp])
  rw [latex_limits h hp]
  split
  · rename_i hintegral
    -- the sign is written instead of the base
    have hnone : base.digits = [] := hf.top.integral h base lower upper hp hintegral
    rw [Latex.digits_append, digits_braced (by decide), digits_braced (by decide), hlower, hupper]
    simp [hp, hnone]
  · rw [Latex.digits_append, Latex.digits_append, digits_braced (by decide), digits_braced (by decide), hbase, hlower,
      hupper]
    simp [hp]

/-- a structure shows the digits of its parts, if its parts and its slices show their own -/
theorem AllLegible.digits_node (hf : f.AllLegible) (hk : f.kind.isLeaf = false)
    (part : ∀ p ∈ f.parts, Latex.digits (p.latex .default) = p.digits)
    (row : ∀ row, sizes row < f.size → LegibleRow row → Latex.digits (rowLatex .default row) = row.flatMap digits) :
    Latex.digits (f.latex .default) = f.digits := by
  have whole : Latex.digits (rowLatex .default f.parts) = f.parts.flatMap digits := by
    apply row f.parts
    · rw [f.size_eq]
      omega
    · exact hf.row
  by_cases hi : f.kind = .ignored
  · rw [latex_ignored hi, digits_eq, hi, orderedDigits_ignored]
    rfl
  by_cases hroot : f.kind = .root
  · by_cases hlength : f.parts.length = 2
    · obtain ⟨base, index, hp⟩ := List.length_eq_two.1 hlength
      rw [digits_root hroot hp, latex_root hroot hp, digits_rooted, part base (by simp [hp]), part index (by simp [hp])]
    · rw [latex_misfit (by rw [hroot]; rfl) hlength, whole, digits_of_structure hk hi fun _ => hlength]
  rw [digits_of_structure hk hi fun h => absurd h hroot]
  cases h : f.kind with
  | identifier | number | operator | words | bareText =>
    rw [h] at hk
    cases hk
  | ignored => exact absurd h hi
  | root => exact absurd h hroot
  | math | style | container =>
    rw [latex_plain (by rw [h]; rfl)]
    exact whole
  | row =>
    rw [latex_row h, sidesLatex]
    split
    · rename_i left right hsides
      exact digits_sides hf hsides row
    · exact whole
  | sqrt => rw [latex_sqrt h, digits_braced (by decide), digits_trim, whole]
  | fraction =>
    refine shown_of_pair (by rw [h]; rfl) whole ?_
    intro numerator denominator hp
    exact digits_fraction h hp part
  | superscript =>
    refine shown_of_pair (by rw [h]; rfl) whole ?_
    intro base exponent hp
    exact digits_superscript hf h hp part row
  | subscript | under =>
    refine shown_of_pair (by rw [h]; rfl) whole ?_
    intro base script hp
    exact digits_script (by simp [h]) hp part
  | «over» =>
    refine shown_of_pair (by rw [h]; rfl) whole ?_
    intro base script hp
    exact digits_over hf h hp part
  | subsup | underover =>
    refine shown_of_triple (by rw [h]; rfl) whole ?_
    intro base lower upper hp
    exact digits_limits hf (by simp [h]) hp part

private theorem kept_node {f : Formula} (formulas : ∀ g : Formula, g.size < f.size → Kept g)
    (rows : ∀ row, sizes row < f.size → KeptRow row) : Kept f := by
  intro hf
  by_cases hk : f.kind.isLeaf = true
  · exact hf.top.digits_leaf hk
  · exact hf.digits_node (by simpa using hk) (fun p hp => formulas p (size_lt_of_mem_parts hp) (hf.part hp)) rows

/-- **a legible row shows the digits of its siblings** -/
theorem digits_rowLatex {row : List Formula} (h : LegibleRow row) :
    Latex.digits (rowLatex .default row) = row.flatMap digits :=
  (sizes_induction (fun _ => kept_node) fun _ => kept_row).2 row h

/-- **the LaTeX of a legible formula shows the digits of its leaves** -/
theorem digits_latex (h : f.AllLegible) : Latex.digits (f.latex .default) = f.digits :=
  (sizes_induction (fun _ => kept_node) fun _ => kept_row).1 f h

end Formula

end Untypeset
