import Untypeset.Text.Blank
import Untypeset.Text.CodePoint
import Untypeset.Text.Hex

/-!
Glyph codes: the spellings of a code point that rendered formulas use, such as `1D434`, `u+3c0`, `0x2212` and `&#x41;`.
A code has a key, `U+` and at least four upper-case digits, under which its entry stands in a table; the code is read to the
number that the digits of its key denote. The key of a code is built from the digits of the code, and that of a number from the
number.
-/

namespace Untypeset.Symbol

open Untypeset.Text

/-- the prefixes a code may carry, in lower case -/
def codePrefixes : List (List Char) :=
  ["u+".toList, "0x".toList, "&#x".toList]

/-- drops a prefix, whatever the case of its letters -/
def dropCodePrefix (s : List Char) : List Char :=
  match codePrefixes.find? fun p => p.isPrefixOf (s.map Char.toLower) with
  | some p => s.drop p.length
  | none => s

/-- drops one closing semicolon -/
def dropSemicolon (s : List Char) : List Char :=
  if s.getLast? = some ';' then s.dropLast else s

/-- the hexadecimal digits of a glyph code; blanks around it do not count -/
def codeDigits? (raw : List Char) : Option (List Char) :=
  let digits := dropSemicolon (dropCodePrefix (trim raw))
  if digits.isEmpty || !digits.all isHexDigit then none else some digits

/-- the key with these digits: in upper case, without the zeros in front, and padded to four -/
def digitsKey (digits : List Char) : List Char :=
  'U' :: '+' :: padZeros 4 (significant (digits.map Char.toUpper))

/-- the canonical key of a glyph code -/
def canonicalKey? (raw : List Char) : Option (List Char) :=
  (codeDigits? raw).map digitsKey

/-- the key of a number: `U+` and the number in hexadecimal, at least four digits wide -/
def codeKey (code : Nat) : List Char :=
  'U' :: '+' :: padZeros 4 (hexDigits code)

/-- the number that the digits of a key denote -/
def keyNumber (key : List Char) : Nat :=
  hexNumber (key.drop 2)

/-- reads a glyph code -/
def readCode? (raw : List Char) : Option Nat :=
  (canonicalKey? raw).map keyNumber

/-- the character that shows the code point with a number; a number that is too large has none -/
def charOfCode? (code : Nat) : Option Char :=
  (CodePoint.ofCode? code).map CodePoint.shown

/-- the combining marks: characters that are drawn onto the one before them -/
def isCombining (code : Int) : Bool :=
  (0x0300 ≤ code && code ≤ 0x036F) || (0x20D0 ≤ code && code ≤ 0x20FF)

theorem charOfCode?_toNat (c : Char) : charOfCode? c.toNat = some c := by
  rw [charOfCode?, show CodePoint.ofCode? c.toNat = some (.ofChar c) from CodePoint.ofCode?_code (.ofChar c), Option.map_some,
    CodePoint.shown_ofChar]

theorem charOfCode?_eq_none_iff {code : Nat} : charOfCode? code = none ↔ 0x10FFFF < code := by
  simp [charOfCode?, CodePoint.ofCode?]

end Untypeset.Symbol
