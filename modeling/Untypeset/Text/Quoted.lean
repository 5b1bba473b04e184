import Untypeset.Text.Hex
import Untypeset.Text.Printable

/-!
Quoted form of a text, as notes and error messages show it: one line, every character that cannot be shown as itself
written as an escape.
-/

namespace Untypeset.Text

/-- a number in at least `width` lower-case hexadecimal digits -/
def paddedHex (width n : Nat) : List Char :=
  padZeros width ((hexDigits n).map Char.toLower)

/-- one character between quotes -/
def quoteChar (quote c : Char) : List Char :=
  if c = quote ∨ c = '\\' then ['\\', c]
  else if c = '\n' then ['\\', 'n']
  else if c = '\r' then ['\\', 'r']
  else if c = '\t' then ['\\', 't']
  else if isPrintable c then [c]
  else if c.toNat < 0x100 then '\\' :: 'x' :: paddedHex 2 c.toNat
  else if c.toNat < 0x10000 then '\\' :: 'u' :: paddedHex 4 c.toNat
  else '\\' :: 'U' :: paddedHex 8 c.toNat

/-- the quote in use: an apostrophe, unless the text holds one and no quotation mark -/
def quoteFor (s : List Char) : Char :=
  if s.contains '\x27' && !s.contains '\x22' then '\x22' else '\x27'

/-- the text in quotes -/
def quoted (s : List Char) : List Char :=
  let quote := quoteFor s
  quote :: s.flatMap (quoteChar quote) ++ [quote]

end Untypeset.Text
