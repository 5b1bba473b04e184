import Untypeset.Text.CodePoint

/-!
Bytes as text, in one of the encoding forms of Unicode. A text that begins with two ASCII characters shows its form by
which of its first bytes are zero. A half of a surrogate pair without the other half reads as the replacement character.
-/

namespace Untypeset.Text

/-! ## Surrogate pairs -/

/-- whether a unit of sixteen bits is the first half of a surrogate pair -/
def isHighHalf (unit : Nat) : Bool :=
  0xD800 ≤ unit && unit < 0xDC00

/-- whether a unit of sixteen bits is the second half of a surrogate pair -/
def isLowHalf (unit : Nat) : Bool :=
  0xDC00 ≤ unit && unit < 0xE000

/-- the character of a surrogate pair -/
def pairedChar (high low : Nat) : Char :=
  scalar (0x10000 + (high - 0xD800) * 0x400 + (low - 0xDC00))

/-- the text of a row of units of sixteen bits -/
def ofUnits : List Nat → List Char
  | [] => []
  | [unit] => [scalar unit]
  | high :: low :: rest =>
    if isHighHalf high && isLowHalf low then pairedChar high low :: ofUnits rest
    else scalar high :: ofUnits (low :: rest)

/-! ## Encoding forms -/

/-- which byte of a unit comes first -/
inductive ByteOrder where
  | bigEndian
  | littleEndian
  deriving DecidableEq, Repr

namespace ByteOrder

/-- the number that the bytes of a unit denote -/
def number : ByteOrder → List UInt8 → Nat
  | .bigEndian, bytes => bytes.foldl (fun n byte => 256 * n + byte.toNat) 0
  | .littleEndian, bytes => bytes.foldr (fun byte n => byte.toNat + 256 * n) 0

/-- the units of two bytes each; there must be no byte left over -/
def pairs? (order : ByteOrder) : List UInt8 → Option (List Nat)
  | [] => some []
  | [_] => none
  | a :: b :: rest => (order.pairs? rest).map (order.number [a, b] :: ·)

/-- the units of four bytes each; there must be no byte left over -/
def quads? (order : ByteOrder) : List UInt8 → Option (List Nat)
  | [] => some []
  | a :: b :: c :: d :: rest => (order.quads? rest).map (order.number [a, b, c, d] :: ·)
  | _ => none

end ByteOrder

/-- an encoding form of Unicode -/
inductive Encoding where
  | utf8
  | utf16 (order : ByteOrder)
  | utf32 (order : ByteOrder)
  deriving DecidableEq, Repr

namespace Encoding

/-- the encoding form that bytes are in, by which of the first four, or of only two, are zero -/
def ofBytes : List UInt8 → Encoding
  | [a, b] => if a = 0 then .utf16 .bigEndian else if b = 0 then .utf16 .littleEndian else .utf8
  | a :: b :: c :: d :: _ =>
    if a = 0 then if b = 0 then .utf32 .bigEndian else .utf16 .bigEndian
    else if b = 0 then if c = 0 ∧ d = 0 then .utf32 .littleEndian else .utf16 .littleEndian
    else .utf8
  | _ => .utf8

/-- the mark that some writers put in front of a text -/
def byteOrderMark : Char := '\ufeff'

/-- the last code point -/
def lastCode : Nat := 0x10FFFF

/-- the text without a mark in front of it -/
def dropMark : List Char → List Char
  | [] => []
  | c :: rest => if c = byteOrderMark then rest else c :: rest

/-- the text of bytes in an encoding form; in UTF-8 a mark in front of the text is dropped -/
def decode? (encoding : Encoding) (bytes : List UInt8) : Option (List Char) :=
  match encoding with
  | .utf8 => (String.fromUTF8? bytes.toByteArray).map fun text => dropMark text.toList
  | .utf16 order => (order.pairs? bytes).map ofUnits
  | .utf32 order => ((order.quads? bytes).filter (·.all (· ≤ lastCode))).map (·.map scalar)

end Encoding

/-- the text of bytes, in whatever encoding form they are -/
def decodeBytes? (bytes : List UInt8) : Option (List Char) :=
  (Encoding.ofBytes bytes).decode? bytes

end Untypeset.Text
