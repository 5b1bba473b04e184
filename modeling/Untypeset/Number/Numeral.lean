import Untypeset.Text.Blank
import Untypeset.Text.Digit

/-!
What integer and decimal numerals have in common: digits of every script, blanks around the numeral, and single
underscores that group digits.
-/

namespace Untypeset.Number

open Untypeset.Text

/-- a character of a numeral in ASCII; a character that no numeral may hold becomes a question mark -/
def plainChar (c : Char) : Char :=
  if c.toNat < 0x7F then c
  else if isBlank c then ' '
  else
    match digitValue? c with
    | some value => Char.ofNat (0x30 + value)
    | none => '?'

/-- the numeral in ASCII, without the blanks around it -/
def plainNumeral (s : List Char) : List Char :=
  dropEndWhile isPlainBlank ((s.map plainChar).dropWhile isPlainBlank)

/-- removes the underscores, each of which has to stand between two digits -/
def ungroup? (afterDigit : Bool) : List Char → Option (List Char)
  | [] => some []
  | '_' :: rest =>
    if afterDigit && (rest.head?.map isAsciiDigit).getD false then ungroup? false rest else none
  | c :: rest => (ungroup? (isAsciiDigit c) rest).map (c :: ·)

/-- the number that a row of ASCII digits denotes -/
def digitsNumber (digits : List Char) : Nat :=
  digits.foldl (fun n c => 10 * n + (c.toNat - 0x30)) 0

/-- how many digits the decimal numeral of an integer may have -/
def digitLimit : Nat := 4300

/-- the complaint about an integer with too many digits; `detail` tells more about it -/
def limitMessage (detail : List Char) : List Char :=
  "Exceeds the limit (".toList ++ (Nat.repr digitLimit).toList ++ " digits) for integer string conversion".toList ++
    detail ++ "; use sys.set_int_max_str_digits() to increase the limit".toList

/-- the complaint about a numeral that is too long to be read -/
def unreadableMessage (digits : Nat) : List Char :=
  limitMessage (": value has ".toList ++ (Nat.repr digits).toList ++ " digits".toList)

/-- the decimal numeral of a number, or the complaint that it would be too long -/
def decimal (n : Nat) : Except (List Char) (List Char) :=
  if (Nat.repr n).length ≤ digitLimit then .ok (Nat.repr n).toList else .error (limitMessage [])

/-- splits a sign off; the flag says whether it is a minus -/
def takeSign : List Char → Bool × List Char
  | '-' :: rest => (true, rest)
  | '+' :: rest => (false, rest)
  | rest => (false, rest)

end Untypeset.Number
