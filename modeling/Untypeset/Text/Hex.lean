import Untypeset.Text.Digit

/-!
Hexadecimal numerals: reading a row of digits of either case, and writing a number with upper-case digits.
-/

namespace Untypeset.Text

/-- an ASCII hexadecimal digit, of either case -/
def isHexDigit (c : Char) : Bool :=
  isAsciiDigit c || ('a' ≤ c && c ≤ 'f') || ('A' ≤ c && c ≤ 'F')

/-- the value of a hexadecimal digit, and 0 for any other character -/
def hexValue (c : Char) : Nat :=
  if '0' ≤ c ∧ c ≤ '9' then c.toNat - 0x30
  else if 'a' ≤ c ∧ c ≤ 'f' then c.toNat - 0x57
  else if 'A' ≤ c ∧ c ≤ 'F' then c.toNat - 0x37
  else 0

/-- the number that a row of hexadecimal digits denotes -/
def hexNumber (digits : List Char) : Nat :=
  digits.foldl (fun n c => 16 * n + hexValue c) 0

/-- the upper-case digit of a value below sixteen -/
def hexDigit (value : Nat) : Char :=
  if value < 10 then Char.ofNat (0x30 + value) else Char.ofNat (0x37 + value)

/-- the number in upper-case hexadecimal, without leading zeros -/
def hexDigits (n : Nat) : List Char :=
  if n < 16 then [hexDigit n] else hexDigits (n / 16) ++ [hexDigit (n % 16)]

/-- the digits without the zeros in front, of which a lone zero keeps one -/
def significant (digits : List Char) : List Char :=
  if digits.all (· == '0') then ['0'] else digits.dropWhile (· == '0')

/-- the digits with zeros in front up to the given width -/
def padZeros (width : Nat) (digits : List Char) : List Char :=
  List.replicate (width - digits.length) '0' ++ digits

end Untypeset.Text
