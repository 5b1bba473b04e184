import Untypeset.Formula.Convert

/-!
The walk through a formula, by its kind. There is one equation for each kind of structure, for each kind of segment and for
what a run holds; whatever is proved about a conversion, about its steps or about its result, starts from these equations and
never from the definition of the walk.
-/

namespace Untypeset

open Untypeset.Rendering Untypeset.Symbol Untypeset.Text Untypeset.Layout

/-! ## Kinds -/

/-- the kinds of node that are converted from what they show, without a look at any parts -/
def Rendering.Kind.isLeaf : Kind → Bool
  | .identifier | .number | .operator | .words | .bareText => true
  | _ => false

/-- the kinds that are no more than a list of siblings -/
def Rendering.Kind.isPlain : Kind → Bool
  | .math | .style | .container => true
  | _ => false

/-- the number of arguments of a structure that has a fixed one -/
def Rendering.Kind.arity? : Kind → Option Nat
  | .root | .fraction | .superscript | .subscript | .under | .over => some 2
  | .subsup | .underover => some 3
  | _ => none

/-! ## Segments -/

variable (symbols : SymbolTable)

/-- the walk through what a run begins with -/
def Head.walk : Head → Walk Latex
  | .spelled name _ _ => functionName name
  | .single f => latexOf symbols f

/-- the walk through an argument -/
def Argument.walk : Argument → Walk Latex
  | .absent => pure []
  | .group row => latexOfRow symbols row
  | .barred row => inTightParens (latexOfRow symbols row)
  | .enclosed f => latexOf symbols f
  | .plain f => inTightParens (latexOf symbols f)

/-- the walk through a run -/
def Run.walk (run : Run) : Walk Latex :=
  let bare := beside (run.head.walk symbols) (run.argument.walk symbols)
  if run.prime.isSome then withPrime bare else bare

theorem latexOfSegment_bar (f : Formula) (opens : Bool) :
    latexOfSegment symbols (.bar f opens) = pure (if opens then "\\left|".toList else "\\right|".toList) := by
  rw [latexOfSegment]

theorem latexOfSegment_single (f : Formula) : latexOfSegment symbols (.single f) = latexOf symbols f := by
  rw [latexOfSegment]

theorem latexOfSegment_run (run : Run) : latexOfSegment symbols (.run run) = run.walk symbols := by
  obtain ⟨head, mark, argument, prime⟩ := run
  rw [latexOfSegment, Run.walk]
  cases head <;> cases argument <;> rfl

/-! ## Leaves and lists -/

/-- what a leaf is converted to -/
def Formula.leafLatex (f : Formula) : Latex :=
  match f.kind with
  | .identifier => f.identifierLatex symbols
  | .operator => f.operatorLatex symbols
  | .words => f.wordsLatex
  | .bareText => f.facts.raw
  | _ => f.facts.content

/-- the walk through a row, which may be cut at its equals sign -/
def Formula.sidesWalk (f : Formula) : Walk Latex :=
  match f.sides? with
  | some (left, right) => equality (latexOfRow symbols left) (latexOfRow symbols right)
  | none => latexOfRow symbols f.parts

variable {symbols} {f base script index lower upper : Formula}

theorem latexOf_ignored (h : f.kind = .ignored) : latexOf symbols f = pure [] := by
  rw [latexOf_eq, if_pos h]

theorem latexOf_counted (h : f.kind ≠ .ignored) :
    latexOf symbols f = Walk.inside f.facts.position (structureOf symbols f) := by
  rw [latexOf_eq, if_neg h]

theorem structureOf_leaf (h : f.kind.isLeaf = true) : structureOf symbols f = pure (f.leafLatex symbols) := by
  rw [structureOf, Formula.leafLatex]
  cases hk : f.kind <;> rw [hk] at h <;> first | rfl | cases h

theorem structureOf_plain (h : f.kind.isPlain = true) : structureOf symbols f = latexOfRow symbols f.parts := by
  rw [structureOf]
  cases hk : f.kind <;> rw [hk] at h <;> first | rfl | cases h

theorem structureOf_row (h : f.kind = .row) : structureOf symbols f = f.sidesWalk symbols := by
  rw [structureOf, Formula.sidesWalk]
  simp only [h]
  split <;> rename_i hsides <;> rw [hsides]

theorem structureOf_sqrt (h : f.kind = .sqrt) :
    structureOf symbols f = squareRoot (latexOfRow symbols f.parts) := by
  rw [structureOf]
  simp only [h]

/-! ## Structures with arguments -/

/-- the walk through the base of a superscript -/
def Formula.baseWalk (symbols : SymbolTable) (base : Formula) : Walk Latex :=
  if base.isParenthesized then inParens (latexOfRow symbols base.innerParts)
  else if base.isCompound then inParens (latexOf symbols base)
  else latexOf symbols base

theorem structureOf_root (h : f.kind = .root) (hp : f.parts = [base, index]) :
    structureOf symbols f = root (latexOf symbols base) (latexOf symbols index) := by
  rw [structureOf]
  simp only [h]
  split
  · rename_i hq
    rw [hp] at hq
    cases hq
    rfl
  · rename_i hne
    exact absurd hp (hne _ _)

theorem structureOf_fraction (h : f.kind = .fraction) (hp : f.parts = [base, script]) :
    structureOf symbols f = fraction (latexOf symbols base) (latexOf symbols script) := by
  rw [structureOf]
  simp only [h]
  split
  · rename_i hq
    rw [hp] at hq
    cases hq
    rfl
  · rename_i hne
    exact absurd hp (hne _ _)

theorem structureOf_superscript (h : f.kind = .superscript) (hp : f.parts = [base, script]) :
    structureOf symbols f = superscript (base.baseWalk symbols) (latexOf symbols script) := by
  rw [structureOf]
  simp only [h]
  split
  · rename_i hq
    rw [hp] at hq
    cases hq
    rfl
  · rename_i hne
    exact absurd hp (hne _ _)

theorem structureOf_script (h : f.kind = .subscript ∨ f.kind = .under) (hp : f.parts = [base, script]) :
    structureOf symbols f = subscript (latexOf symbols base) (latexOf symbols script) := by
  rw [structureOf]
  rcases h with h | h
  all_goals
    simp only [h]
    split
    · rename_i hq
      rw [hp] at hq
      cases hq
      rfl
    · rename_i hne
      exact absurd hp (hne _ _)

theorem structureOf_limits (h : f.kind = .subsup ∨ f.kind = .underover) (hp : f.parts = [base, lower, upper]) :
    structureOf symbols f =
      if base.isIntegral then integral (latexOf symbols lower) (latexOf symbols upper)
      else limits (latexOf symbols base) (latexOf symbols lower) (latexOf symbols upper) := by
  rw [structureOf]
  rcases h with h | h
  all_goals
    simp only [h]
    split
    · rename_i hq
      rw [hp] at hq
      cases hq
      rfl
    · rename_i hne
      exact absurd hp (hne _ _ _)

theorem structureOf_over (h : f.kind = .over) (hp : f.parts = [base, script]) :
    structureOf symbols f =
      if script.showsAny vectorMarks then overMark "\\overrightarrow" (latexOf symbols base)
      else if script.showsAny overlineMarks || f.facts.type = some "overscore" then
        overMark "\\overline" (latexOf symbols base)
      else overscript (latexOf symbols base) (latexOf symbols script) := by
  rw [structureOf]
  simp only [h]
  split
  · rename_i hq
    rw [hp] at hq
    cases hq
    rfl
  · rename_i hne
    exact absurd hp (hne _ _)

/-- with an unexpected number of arguments, a structure is no more than a list of siblings -/
theorem structureOf_misfit {n : Nat} (h : f.kind.arity? = some n) (hn : f.parts.length ≠ n) :
    structureOf symbols f = latexOfRow symbols f.parts := by
  rw [structureOf]
  cases hk : f.kind <;> rw [hk] at h <;> cases h
  all_goals
    dsimp only
    split
    · rename_i hq
      rw [hq] at hn
      exact absurd rfl hn
    · rfl

end Untypeset
