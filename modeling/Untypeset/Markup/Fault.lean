import Untypeset.Number.Numeral
import Untypeset.Text.Quoted

/-!
Faults of markup. Nearly everything can be read as markup; what cannot is a marked section whose keyword is missing or
unknown, and a decimal reference with more digits than a number may have. A fault is a cause; its wording is a function
of it.
-/

namespace Untypeset.Markup

open Untypeset.Text

/-- why a text is no document -/
inductive Fault where
  /-- a marked section without a keyword, given by its first characters -/
  | namelessSection (start : List Char)
  /-- a marked section with an unknown keyword, given with the blanks behind it -/
  | unknownSection (keyword : List Char)
  /-- a decimal reference with too many digits -/
  | longReference (digits : Nat)
  deriving DecidableEq, Repr, Inhabited

namespace Fault

/-- how much of a marked section its fault shows -/
def shownLength : Nat := 20

/-- the complaint about markup that is turned down -/
def rejection (reason : List Char) : List Char :=
  ("The markup you provided was rejected by the parser. Trying a different parser or a different encoding may help." ++
    "\n\nOriginal exception(s) from parser:\n AssertionError: ").toList ++ reason

/-- the wording of a fault -/
def message : Fault → List Char
  | .namelessSection start => rejection ("expected name token at ".toList ++ quoted start)
  | .unknownSection keyword =>
    rejection ("unknown status keyword ".toList ++ quoted keyword ++ " in marked section".toList)
  | .longReference digits => Number.unreadableMessage digits

end Fault

end Untypeset.Markup
