import Mathlib.Data.List.Basic
import Untypeset.Proofs.Formula.Steps
import Untypeset.Proofs.Latex.Joined

/-!
The LaTeX of a formula as a value, without the steps of the walk that reaches it. There is one equation for each kind of
structure; what is proved about the result of a conversion uses these equations and never the walk itself.
-/

namespace Untypeset

open Untypeset.Rendering Untypeset.Symbol Untypeset.Text Untypeset.Layout

variable (symbols : SymbolTable)

/-- the LaTeX of a formula -/
def Formula.latex (f : Formula) : Latex :=
  (latexOf symbols f).value

/-- the LaTeX of a row of siblings -/
def rowLatex (row : List Formula) : Latex :=
  (latexOfRow symbols row).value

/-- the LaTeX of a segment of a row -/
def Segment.latex (segment : Segment) : Latex :=
  (latexOfSegment symbols segment).value

/-- the LaTeX of what a run begins with -/
def Head.latex : Head → Latex
  | .spelled name _ _ => Latex.functionMacro name
  | .single f => f.latex symbols

/-- the LaTeX of an argument; one without parentheses of its own is given a pair -/
def Argument.latex : Argument → Latex
  | .absent => []
  | .group row => rowLatex symbols row
  | .barred row => Latex.parenthesized (trim (rowLatex symbols row))
  | .enclosed f => f.latex symbols
  | .plain f => Latex.parenthesized (trim (f.latex symbols))

/-- a source, and the same with a prime if there is one -/
def withPrime? (prime : Option Formula) (s : Latex) : Latex :=
  if prime.isSome then primed s else s

/-- the base of a superscript -/
def Formula.baseLatex (base : Formula) : Latex :=
  if base.isParenthesized then Latex.parenthesized (rowLatex symbols base.innerParts)
  else if base.isCompound then Latex.parenthesized (base.latex symbols)
  else base.latex symbols

/-- an exponent behind its base -/
def exponentiated (base exponent : Latex) : Latex :=
  if exponent = ['2'] then base ++ ['^', '2'] else base ++ Latex.braced "^" exponent

/-- a base with an exponent, which may be a prime -/
def superscripted (base exponent : Latex) : Latex :=
  if primeGlyphs.contains (trim exponent) then primed base else exponentiated base exponent

/-- a base under a script, which is left out if it is blank -/
def overscripted (base script : Latex) : Latex :=
  if (trim script).isEmpty then base else base ++ Latex.braced "^" script

/-- a root with its index -/
def rooted (base index : Latex) : Latex :=
  "\\sqrt[".toList ++ trim index ++ ']' :: '\x7b' :: trim base ++ ['\x7d']

theorem Layout.value_superscript (base exponent : Walk Latex) :
    (Layout.superscript base exponent).value = superscripted base.value exponent.value := by
  simp only [Layout.superscript, Walk.value_bind, superscripted, exponentiated]
  split
  · rfl
  · simp only [Walk.value_bind]
    split <;> rfl

theorem Layout.value_overscript (base script : Walk Latex) :
    (Layout.overscript base script).value = overscripted base.value script.value := by
  simp only [Layout.overscript, Walk.value_bind, overscripted]
  split <;> rfl

/-! ## Rows and segments -/

theorem rowLatex_eq (row : List Formula) :
    rowLatex symbols row = (segments symbols row).flatMap (Segment.latex symbols) := by
  rw [rowLatex, latexOfRow_eq, Walk.value_concat, List.map_map, List.flatMap_def]
  rfl

@[simp] theorem Segment.latex_bar (f : Formula) (opens : Bool) :
    (Segment.bar f opens).latex symbols = if opens then "\\left|".toList else "\\right|".toList := by
  rw [Segment.latex, latexOfSegment_bar, Walk.value_pure]

@[simp] theorem Segment.latex_single (f : Formula) : (Segment.single f).latex symbols = f.latex symbols := by
  rw [Segment.latex, latexOfSegment_single, Formula.latex]

@[simp] theorem Segment.latex_run (run : Run) :
    (Segment.run run).latex symbols =
      withPrime? run.prime (run.head.latex symbols ++ run.argument.latex symbols) := by
  obtain ⟨head, mark, argument, prime⟩ := run
  rw [Segment.latex, latexOfSegment_run, withPrime?]
  cases head <;> cases argument <;> cases prime <;> rfl

/-- a prime is set directly behind a closing parenthesis -/
theorem withPrime?_parenthesized (prime : Option Formula) (s t : Latex) :
    withPrime? prime (s ++ Latex.parenthesized t) = s ++ Latex.parenthesized t ++ if prime.isSome then ['\x27'] else [] := by
  rw [withPrime?, primed, Latex.trimEnd_append_parenthesized]
  split
  · rfl
  · rw [List.append_nil]

/-! ## Leaves and lists -/

variable {symbols} {f base script index lower upper : Formula}

theorem latex_ignored (h : f.kind = .ignored) : f.latex symbols = [] := by
  rw [Formula.latex, latexOf_ignored h, Walk.value_pure]

/-- inside a node nothing but its structure counts -/
theorem latex_eq_structure (h : f.kind ≠ .ignored) : f.latex symbols = (structureOf symbols f).value := by
  rw [Formula.latex, latexOf_counted h, Walk.value_inside]

theorem latex_leaf (h : f.kind.isLeaf = true) : f.latex symbols = f.leafLatex symbols := by
  rw [latex_eq_structure (by intro hk; rw [hk] at h; cases h), structureOf_leaf h, Walk.value_pure]

theorem latex_identifier (h : f.kind = .identifier) : f.latex symbols = f.identifierLatex symbols := by
  rw [latex_leaf (by rw [h]; rfl), Formula.leafLatex, h]

theorem latex_number (h : f.kind = .number) : f.latex symbols = f.facts.content := by
  rw [latex_leaf (by rw [h]; rfl), Formula.leafLatex, h]

theorem latex_operator (h : f.kind = .operator) : f.latex symbols = f.operatorLatex symbols := by
  rw [latex_leaf (by rw [h]; rfl), Formula.leafLatex, h]

theorem latex_words (h : f.kind = .words) : f.latex symbols = f.wordsLatex := by
  rw [latex_leaf (by rw [h]; rfl), Formula.leafLatex, h]

theorem latex_bareText (h : f.kind = .bareText) : f.latex symbols = f.facts.raw := by
  rw [latex_leaf (by rw [h]; rfl), Formula.leafLatex, h]

/-- the LaTeX of a row, which may be cut at its equals sign -/
def Formula.sidesLatex (symbols : SymbolTable) (f : Formula) : Latex :=
  match f.sides? with
  | some (left, right) => rowLatex symbols left ++ '=' :: rowLatex symbols right
  | none => rowLatex symbols f.parts

theorem latex_row (h : f.kind = .row) : f.latex symbols = f.sidesLatex symbols := by
  rw [latex_eq_structure (by simp [h]), structureOf_row h, Formula.sidesWalk, Formula.sidesLatex]
  cases f.sides? <;> rfl

theorem latex_sqrt (h : f.kind = .sqrt) :
    f.latex symbols = Latex.braced "\\sqrt" (trim (rowLatex symbols f.parts)) := by
  rw [latex_eq_structure (by simp [h]), structureOf_sqrt h]
  rfl

theorem latex_plain (h : f.kind.isPlain = true) : f.latex symbols = rowLatex symbols f.parts := by
  rw [latex_eq_structure (by intro hk; rw [hk] at h; cases h), structureOf_plain h, rowLatex]

/-! ## Structures with arguments -/

theorem latex_root (h : f.kind = .root) (hp : f.parts = [base, index]) :
    f.latex symbols = rooted (base.latex symbols) (index.latex symbols) := by
  rw [latex_eq_structure (by simp [h]), structureOf_root h hp]
  rfl

theorem latex_fraction (h : f.kind = .fraction) (hp : f.parts = [base, script]) :
    f.latex symbols = Latex.braced "\\frac" (base.latex symbols) ++ Latex.braced "" (script.latex symbols) := by
  rw [latex_eq_structure (by simp [h]), structureOf_fraction h hp]
  rfl

theorem value_baseWalk : (base.baseWalk symbols).value = base.baseLatex symbols := by
  unfold Formula.baseWalk Formula.baseLatex
  split
  · rfl
  · split <;> rfl

theorem latex_superscript (h : f.kind = .superscript) (hp : f.parts = [base, script]) :
    f.latex symbols = superscripted (base.baseLatex symbols) (script.latex symbols) := by
  rw [latex_eq_structure (by simp [h]), structureOf_superscript h hp, Layout.value_superscript, value_baseWalk, Formula.latex]

theorem latex_script (h : f.kind = .subscript ∨ f.kind = .under) (hp : f.parts = [base, script]) :
    f.latex symbols = base.latex symbols ++ Latex.braced "_" (script.latex symbols) := by
  rw [latex_eq_structure (by rcases h with h | h <;> simp [h]), structureOf_script h hp]
  rfl

theorem latex_limits (h : f.kind = .subsup ∨ f.kind = .underover) (hp : f.parts = [base, lower, upper]) :
    f.latex symbols =
      if base.isIntegral then
        Latex.braced "\\int_" (lower.latex symbols) ++ Latex.braced "^" (upper.latex symbols)
      else
        base.latex symbols ++ Latex.braced "_" (lower.latex symbols) ++ Latex.braced "^" (upper.latex symbols) := by
  rw [latex_eq_structure (by rcases h with h | h <;> simp [h]), structureOf_limits h hp]
  split <;> rfl

theorem latex_over (h : f.kind = .over) (hp : f.parts = [base, script]) :
    f.latex symbols =
      if script.showsAny vectorMarks then Latex.braced "\\overrightarrow" (base.latex symbols)
      else if script.showsAny overlineMarks || f.facts.type = some "overscore" then
        Latex.braced "\\overline" (base.latex symbols)
      else overscripted (base.latex symbols) (script.latex symbols) := by
  rw [latex_eq_structure (by simp [h]), structureOf_over h hp]
  split
  · rfl
  · split
    · rfl
    · exact Layout.value_overscript _ _

/-- with an unexpected number of arguments, a structure is no more than a list of siblings -/
theorem latex_misfit {n : Nat} (h : f.kind.arity? = some n) (hn : f.parts.length ≠ n) :
    f.latex symbols = rowLatex symbols f.parts := by
  rw [latex_eq_structure (by intro hk; rw [hk] at h; cases h), structureOf_misfit h hn, rowLatex]

/-- what holds of a structure with its two arguments, and of a mere row where there are more or fewer, holds -/
theorem latex_of_pair {P : Latex → Prop} (h : f.kind.arity? = some 2) (misfit : P (rowLatex symbols f.parts))
    (fit : ∀ first second, f.parts = [first, second] → P (f.latex symbols)) : P (f.latex symbols) := by
  by_cases hlen : f.parts.length = 2
  · obtain ⟨first, second, hp⟩ := List.length_eq_two.1 hlen
    exact fit first second hp
  · rw [latex_misfit h hlen]
    exact misfit

/-- the same for three arguments -/
theorem latex_of_triple {P : Latex → Prop} (h : f.kind.arity? = some 3) (misfit : P (rowLatex symbols f.parts))
    (fit : ∀ base lower upper, f.parts = [base, lower, upper] → P (f.latex symbols)) : P (f.latex symbols) := by
  by_cases hlen : f.parts.length = 3
  · obtain ⟨base, lower, upper, hp⟩ := List.length_eq_three.1 hlen
    exact fit base lower upper hp
  · rw [latex_misfit h hlen]
    exact misfit

end Untypeset
