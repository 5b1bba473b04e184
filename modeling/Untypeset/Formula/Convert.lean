import Untypeset.Formula.Layout
import Untypeset.Formula.Row

/-!
Conversion of a formula to LaTeX, as a walk through it. Every node is converted by its kind; a structure with an
unexpected number of arguments is converted as a plain row. Siblings are converted segment by segment.
-/

namespace Untypeset

open Untypeset.Rendering Untypeset.Symbol Untypeset.Text

namespace Formula

/-- the two sides of a row whose role is equality: it has exactly one equals sign, which does not come first -/
def sides? (f : Formula) : Option (List Formula × List Formula) :=
  if f.facts.role = some "equality" && f.parts.countP (·.isEquals) = 1 then
    match f.parts.takeWhile fun part => !part.isEquals with
    | [] => none
    | left@(_ :: _) => some (left, (f.parts.dropWhile fun part => !part.isEquals).tail)
  else
    none

/-- what stands between the first and the last of the parts -/
def innerParts (f : Formula) : List Formula :=
  f.parts.tail.dropLast

theorem sizes_sides {f : Formula} {left right : List Formula} (h : f.sides? = some (left, right)) :
    sizes left < f.size ∧ sizes right < f.size := by
  unfold sides? at h
  split at h
  · split at h
    · cases h
    · rename_i head rest hleft
      simp only [Option.some.injEq, Prod.mk.injEq] at h
      obtain ⟨rfl, rfl⟩ := h
      have h₁ := sizes_le_of_sublist (List.takeWhile_sublist fun part : Formula => !part.isEquals) (b := f.parts)
      have h₂ := sizes_le_of_sublist
        ((List.tail_sublist _).trans (List.dropWhile_sublist (fun part : Formula => !part.isEquals) (l := f.parts)))
      rw [hleft] at h₁
      rw [size_eq f]
      omega
  · cases h

theorem size_lt_of_mem_parts {f part : Formula} (h : part ∈ f.parts) : part.size < f.size := by
  have := size_le_sizes h
  rw [size_eq f]
  omega

theorem sizes_innerParts_lt (f : Formula) : sizes f.innerParts < f.size := by
  have := sizes_le_of_sublist ((List.dropLast_sublist f.parts.tail).trans (List.tail_sublist f.parts))
  rw [size_eq f]
  simp only [innerParts]
  omega

end Formula

mutual

/-- the LaTeX of a formula -/
def latexOf (symbols : SymbolTable) (f : Formula) : Walk Latex :=
  if f.kind = .ignored then pure [] else Walk.inside f.facts.position (structureOf symbols f)
termination_by 4 * f.size + 1

/-- the LaTeX of a formula by its kind -/
def structureOf (symbols : SymbolTable) (f : Formula) : Walk Latex :=
  match f.kind with
  | .identifier => pure (f.identifierLatex symbols)
  | .number => pure f.facts.content
  | .operator => pure (f.operatorLatex symbols)
  | .words => pure f.wordsLatex
  | .bareText => pure f.facts.raw
  | .row =>
    match _h : f.sides? with
    | some (left, right) => Layout.equality (latexOfRow symbols left) (latexOfRow symbols right)
    | none => latexOfRow symbols f.parts
  | .sqrt => Layout.squareRoot (latexOfRow symbols f.parts)
  | .root =>
    match _h : f.parts with
    | [base, index] => Layout.root (latexOf symbols base) (latexOf symbols index)
    | others => latexOfRow symbols others
  | .fraction =>
    match _h : f.parts with
    | [numerator, denominator] => Layout.fraction (latexOf symbols numerator) (latexOf symbols denominator)
    | others => latexOfRow symbols others
  | .superscript =>
    match _h : f.parts with
    | [base, exponent] =>
      let baseLatex :=
        if base.isParenthesized then Layout.inParens (latexOfRow symbols base.innerParts)
        else if base.isCompound then Layout.inParens (latexOf symbols base)
        else latexOf symbols base
      Layout.superscript baseLatex (latexOf symbols exponent)
    | others => latexOfRow symbols others
  | .subscript | .under =>
    match _h : f.parts with
    | [base, script] => Layout.subscript (latexOf symbols base) (latexOf symbols script)
    | others => latexOfRow symbols others
  | .subsup | .underover =>
    match _h : f.parts with
    | [base, lower, upper] =>
      if base.isIntegral then Layout.integral (latexOf symbols lower) (latexOf symbols upper)
      else Layout.limits (latexOf symbols base) (latexOf symbols lower) (latexOf symbols upper)
    | others => latexOfRow symbols others
  | .over =>
    match _h : f.parts with
    | [base, script] =>
      if script.showsAny vectorMarks then Layout.overMark "\\overrightarrow" (latexOf symbols base)
      else if script.showsAny overlineMarks || f.facts.type = some "overscore" then
        Layout.overMark "\\overline" (latexOf symbols base)
      else Layout.overscript (latexOf symbols base) (latexOf symbols script)
    | others => latexOfRow symbols others
  | .math | .style | .container | .ignored => latexOfRow symbols f.parts
termination_by 4 * f.size
decreasing_by
  all_goals
    have hsize := f.size_eq
    try have hsides := Formula.sizes_sides _h
    try have hbase := Formula.sizes_innerParts_lt base
    try simp only [_h, Formula.sizes] at hsize
    omega

/-- the LaTeX of a row of siblings -/
def latexOfRow (symbols : SymbolTable) (row : List Formula) : Walk Latex :=
  Walk.concat ((segments symbols row).attach.map fun segment => latexOfSegment symbols segment.1)
termination_by 4 * Formula.sizes row + 3
decreasing_by
  have := size_le_of_mem_segments segment.2
  omega

/-- the LaTeX of a segment of a row -/
def latexOfSegment (symbols : SymbolTable) (segment : Segment) : Walk Latex :=
  match _h : segment with
  | .bar _ opens => pure (if opens then "\\left|".toList else "\\right|".toList)
  | .single f => latexOf symbols f
  | .run run =>
    let head : Walk Latex :=
      match _h : run.head with
      | .spelled name _ _ => Layout.functionName name
      | .single f => latexOf symbols f
    let argument : Walk Latex :=
      match _h : run.argument with
      | .absent => pure []
      | .group row => latexOfRow symbols row
      | .barred row => Layout.inTightParens (latexOfRow symbols row)
      | .enclosed f => latexOf symbols f
      | .plain f => Layout.inTightParens (latexOf symbols f)
    let bare := Layout.beside head argument
    if run.prime.isSome then Layout.withPrime bare else bare
termination_by 4 * segment.size + 2
decreasing_by
  all_goals
    first
      | (simp only [Segment.size, Segment.nodes, Formula.sizes]; omega)
      | (have hsize := size_run run
         have hhead := run.head.sizes_nodes_pos
         simp only [_h, Head.nodes, Argument.nodes, Formula.sizes] at hsize hhead ⊢
         omega)

end

theorem latexOf_eq (symbols : SymbolTable) (f : Formula) :
    latexOf symbols f =
      if f.kind = .ignored then pure [] else Walk.inside f.facts.position (structureOf symbols f) := by
  rw [latexOf]

theorem latexOfRow_eq (symbols : SymbolTable) (row : List Formula) :
    latexOfRow symbols row = Walk.concat ((segments symbols row).map (latexOfSegment symbols)) := by
  rw [latexOfRow]
  simp

end Untypeset
