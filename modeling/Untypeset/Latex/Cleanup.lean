import Untypeset.Latex.Basic

/-!
Clean-up of finished LaTeX for people who copy it: non-breaking spaces become plain ones, and one period that ends a
sentence is dropped. An ellipsis is kept.
-/

namespace Untypeset.Latex

open Untypeset.Text

/-- the non-breaking space -/
def nonBreakingSpace : Char := '\u00a0'

/-- the source with plain spaces for non-breaking ones -/
def plainSpaces (s : Latex) : Latex :=
  s.map fun c => if c = nonBreakingSpace then ' ' else c

/-- drops a final period and the blanks around it; without a final period, or with two of them, nothing is dropped -/
def dropPeriod (s : Latex) : Latex :=
  match (trimEnd s).reverse with
  | '.' :: '.' :: _ => s
  | '.' :: rest => trimEnd rest.reverse
  | _ => s

/-- the passes that are switched on -/
def cleaned (spaces period : Bool) (s : Latex) : Latex :=
  let spaced := if spaces then plainSpaces s else s
  if period then dropPeriod spaced else spaced

end Untypeset.Latex
