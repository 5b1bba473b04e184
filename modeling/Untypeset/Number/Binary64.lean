import Untypeset.Number.Numeral
import Untypeset.Text.Case

/-!
The double-precision numbers of IEEE 754, exactly: a finite number is a whole multiple of 2⁻¹⁰⁷⁴, the smallest positive
one. Reading a decimal numeral and adding round to the nearest number, ties to the even one. Both zeros are one value,
since only the order of numbers is looked at.
-/

namespace Untypeset.Number

open Untypeset.Text

/-- a double-precision number; `finite n` is n · 2⁻¹⁰⁷⁴ -/
inductive Binary64 where
  | finite (units : Int)
  | infinity (negative : Bool)
  | nan
  deriving DecidableEq, Repr, Inhabited

/-- the whole number nearest to `num / den`, the even one of two -/
def roundHalfEven (num den : Nat) : Nat :=
  let quotient := num / den
  let rest := num % den
  if 2 * rest < den then quotient
  else if den < 2 * rest then quotient + 1
  else if quotient % 2 = 0 then quotient
  else quotient + 1

/-- the quotient `num / den` rounded to at most 53 significant bits -/
def roundToPrecision (num den : Nat) : Nat :=
  let grain := Nat.pow 2 (Nat.log2 (num / den) + 1 - 53)
  roundHalfEven num (den * grain) * grain

namespace Binary64

/-- the number nearest to `num / den` units; beyond the largest finite number it is infinite -/
def ofUnits (negative : Bool) (num den : Nat) : Binary64 :=
  let units := roundToPrecision num den
  if units < Nat.pow 2 2098 then .finite (if negative then -units else units) else .infinity negative

/-- zero, where every offset starts -/
def zero : Binary64 := .finite 0

/-- addition; opposite infinities have no sum -/
def add : Binary64 → Binary64 → Binary64
  | .finite a, .finite b => ofUnits (decide (a + b < 0)) (a + b).natAbs 1
  | .infinity a, .infinity b => if a = b then .infinity a else .nan
  | .nan, _ => .nan
  | _, .nan => .nan
  | .infinity a, .finite _ => .infinity a
  | .finite _, .infinity b => .infinity b

/-- the strict order; a value that is not a number stands in no order to any other -/
def less : Binary64 → Binary64 → Bool
  | .finite a, .finite b => decide (a < b)
  | .finite _, .infinity negative => !negative
  | .infinity negative, .finite _ => negative
  | .infinity a, .infinity b => a && !b
  | _, _ => false

/-- the number `digits · 10^exponent`; exponents far outside the range are cut off before any power is computed -/
def ofDecimal (negative : Bool) (digits : List Char) (exponent : Int) : Binary64 :=
  let significant := digits.dropWhile (· == '0')
  let magnitude := exponent + significant.length
  if significant.isEmpty || magnitude < -330 then zero
  else if 310 < magnitude then .infinity negative
  else
    let n := digitsNumber significant * Nat.pow 2 1074
    if exponent < 0 then ofUnits negative n (Nat.pow 10 (-exponent).toNat)
    else ofUnits negative (n * Nat.pow 10 exponent.toNat) 1

/-- the exponent after the digits of a numeral: nothing, or an `e` with an optional sign and at least one digit -/
def exponent? : List Char → Option Int
  | [] => some 0
  | e :: rest =>
    if e = 'e' ∨ e = 'E' then
      let (negative, digits) := takeSign rest
      if digits.isEmpty || !digits.all isAsciiDigit then none
      else if negative then some (-(digitsNumber digits : Int))
      else some (digitsNumber digits)
    else
      none

/-- an unsigned numeral: digits with a point before, after or among them, and an exponent -/
def magnitude? (negative : Bool) (s : List Char) : Option Binary64 :=
  let whole := s.takeWhile isAsciiDigit
  let afterWhole := s.dropWhile isAsciiDigit
  let (fraction, rest) :=
    match afterWhole with
    | '.' :: tail => (tail.takeWhile isAsciiDigit, tail.dropWhile isAsciiDigit)
    | _ => ([], afterWhole)
  let digits := whole ++ fraction
  if digits.isEmpty then none
  else (exponent? rest).map fun exponent => ofDecimal negative digits (exponent - fraction.length)

/-- the names of the values that have no digits, in any case of their letters -/
def named? (negative : Bool) (s : List Char) : Option Binary64 :=
  let name := s.map Char.toLower
  if name = "inf".toList ∨ name = "infinity".toList then some (.infinity negative)
  else if name = "nan".toList then some .nan
  else none

/-- reads a decimal numeral -/
def parse? (s : List Char) : Option Binary64 := do
  let plain ← ungroup? false (plainNumeral s)
  let (negative, rest) := takeSign plain
  (named? negative rest).or (magnitude? negative rest)

end Binary64

end Untypeset.Number
