/-!
Code points. A set of them is given as ascending inclusive spans. A number up to U+10FFFF is a code point, and all code points but
the halves of surrogate pairs are characters. A source consists of characters; the half of a pair, which has none, is shown in
it as the replacement character.
-/

namespace Untypeset.Text

/-- an inclusive range of code points, first and last -/
abbrev Span := Nat × Nat

/-- membership of a code point in a table of spans -/
def inSpans (spans : List Span) (code : Nat) : Bool :=
  spans.any fun span => span.1 ≤ code && code ≤ span.2

/-- the character of a number; one that no character has is replaced -/
def scalar (code : Nat) : Char :=
  if code.isValidChar then Char.ofNat code else '\ufffd'

/-- a code point: a character, or half of a surrogate pair -/
structure CodePoint where
  code : Nat
  code_le : code ≤ 0x10FFFF
  deriving DecidableEq, Repr

namespace CodePoint

/-- the code point with a number, unless the number is too large -/
def ofCode? (code : Nat) : Option CodePoint :=
  if h : code ≤ 0x10FFFF then some ⟨code, h⟩ else none

/-- a character as a code point -/
def ofChar (c : Char) : CodePoint where
  code := c.toNat
  code_le := by
    have hvalid : c.toNat.isValidChar := c.valid
    simp only [Nat.isValidChar] at hvalid
    omega

/-- the character that shows a code point -/
def shown (p : CodePoint) : Char :=
  scalar p.code

/-- the code points of a text -/
def ofText (s : List Char) : List CodePoint :=
  s.map ofChar

/-- the text that shows code points -/
def toText (ps : List CodePoint) : List Char :=
  ps.map shown

end CodePoint

theorem scalar_toNat (c : Char) : scalar c.toNat = c := by
  rw [scalar, if_pos (show c.toNat.isValidChar from c.valid), Char.ofNat_toNat]

namespace CodePoint

@[simp] theorem shown_ofChar (c : Char) : (ofChar c).shown = c :=
  scalar_toNat c

@[simp] theorem toText_ofText (s : List Char) : toText (ofText s) = s := by
  rw [toText, ofText, List.map_map, show shown ∘ ofChar = id from funext shown_ofChar, List.map_id]

theorem ofCode?_code (p : CodePoint) : ofCode? p.code = some p :=
  dif_pos p.code_le

theorem ofCode?_of_large {code : Nat} (h : 0x10FFFF < code) : ofCode? code = none :=
  dif_neg (Nat.not_le.2 h)

theorem code_of_ofCode? {code : Nat} {p : CodePoint} (h : ofCode? code = some p) : p.code = code := by
  unfold ofCode? at h
  split at h
  · rw [← Option.some.inj h]
  · cases h

end CodePoint

end Untypeset.Text
