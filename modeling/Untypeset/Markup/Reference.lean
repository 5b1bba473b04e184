import Untypeset.Markup.Reference.Names
import Untypeset.Number.Numeral
import Untypeset.Text.Hex

/-!
Character references. In running text a reference is read when the character behind it is there; in the value of an
attribute also a name that merely begins like a reference counts, and numbers that stand for no character vanish.
-/

namespace Untypeset.Markup

open Untypeset.Text

/-- the character shown for a number that no character has -/
def replacement : Char := '\ufffd'

/-- the code points that the numbers from 0x80 to 0x9F stand for: those of the Western code page -/
def westernCodes : List Nat :=
  [0x20AC, 0x81, 0x201A, 0x0192, 0x201E, 0x2026, 0x2020, 0x2021, 0x02C6, 0x2030, 0x0160, 0x2039, 0x0152, 0x8D, 0x017D,
   0x8F, 0x90, 0x2018, 0x2019, 0x201C, 0x201D, 0x2022, 0x2013, 0x2014, 0x02DC, 0x2122, 0x0161, 0x203A, 0x0153, 0x9D,
   0x017E, 0x0178]

/-- the code point that a numeric reference stands for -/
def westernCode (n : Nat) : Nat :=
  if 0x80 ≤ n then (westernCodes[n - 0x80]?).getD n else n

/-- the character of a numeric reference -/
def numberedChar (n : Nat) : Char :=
  let code := westernCode n
  if 0 < code && code.isValidChar then Char.ofNat code else replacement

/-- whether a number stands for nothing in the value of an attribute: a control character or a noncharacter -/
def isVoidNumber (n : Nat) : Bool :=
  (0x01 ≤ n && n ≤ 0x08) || n == 0x0B || (0x0E ≤ n && n ≤ 0x1F) || n == 0x7F || (0xFDD0 ≤ n && n ≤ 0xFDEF) ||
    (n ≤ 0x10FFFF && 0xFFFE ≤ n % 0x10000)

/-- what a numeric reference becomes in the value of an attribute -/
def numberedText (n : Nat) : List Char :=
  if isVoidNumber n then [] else [numberedChar n]

/-- the text of a named reference, the name without a semicolon -/
def namedText? (name : List Char) : Option (List Char) :=
  (namedReferences.lookup (String.ofList name)).map fun codes => codes.map Char.ofNat

/-- the text of a name that needs no semicolon -/
def bareText? (name : List Char) : Option (List Char) :=
  if bareReferences.contains (String.ofList name) then namedText? name else none

/-- the longest start of a name that needs no semicolon, of at least two and at most `length` characters, and the rest
of the name -/
def longestBare? (name : List Char) : Nat → Option (List Char × List Char)
  | 0 | 1 => none
  | length + 2 =>
    match bareText? (name.take (length + 2)) with
    | some text => some (text, name.drop (length + 2))
    | none => longestBare? name (length + 1)

/-- what a name becomes in the value of an attribute; `closed` says that a semicolon follows -/
def referenceText (name : List Char) (closed : Bool) : List Char :=
  let tail := if closed then [';'] else []
  match if closed then namedText? name else bareText? name with
  | some text => text
  | none =>
    match longestBare? name (if closed then name.length else name.length - 1) with
    | some (text, rest) => text ++ rest ++ tail
    | none => '&' :: name ++ tail

/-- a character that may stand in a name within the value of an attribute -/
def isReferenceChar (c : Char) : Bool :=
  !("\t\n\x0c <&#;".toList.contains c)

/-- how many characters of a name are looked at -/
def nameLimit : Nat := 32

/-- splits one closing semicolon off -/
def takeSemicolon : List Char → Bool × List Char
  | ';' :: rest => (true, rest)
  | rest => (false, rest)

/-- reads the reference after an ampersand: what it becomes, and the text after it; without one the ampersand stays -/
def takeReference (s : List Char) : List Char × List Char :=
  match s with
  | '#' :: rest =>
    match rest with
    | x :: tail =>
      if isAsciiDigit x then
        (numberedText (Number.digitsNumber (rest.takeWhile isAsciiDigit)),
          (takeSemicolon (rest.dropWhile isAsciiDigit)).2)
      else if (x = 'x' ∨ x = 'X') ∧ tail.head?.any isHexDigit then
        (numberedText (hexNumber (tail.takeWhile isHexDigit)), (takeSemicolon (tail.dropWhile isHexDigit)).2)
      else
        (['&'], s)
    | [] => (['&'], s)
  | _ =>
    let name := (s.take nameLimit).takeWhile isReferenceChar
    if name.isEmpty then (['&'], s)
    else
      let (closed, rest) := takeSemicolon (s.drop name.length)
      (referenceText name closed, rest)

theorem takeSemicolon_length (s : List Char) : (takeSemicolon s).2.length ≤ s.length := by
  unfold takeSemicolon
  split <;> simp

theorem takeReference_length (s : List Char) : (takeReference s).2.length ≤ s.length := by
  have hdrop (p : Char → Bool) (t : List Char) : (t.dropWhile p).length ≤ t.length :=
    (List.dropWhile_sublist p).length_le
  unfold takeReference
  split
  · rename_i rest
    split
    · rename_i x tail
      split
      · have := takeSemicolon_length ((x :: tail).dropWhile isAsciiDigit)
        have := hdrop isAsciiDigit (x :: tail)
        simp only [List.length_cons] at *
        omega
      · split
        · have := takeSemicolon_length (tail.dropWhile isHexDigit)
          have := hdrop isHexDigit tail
          simp only [List.length_cons] at *
          omega
        · exact Nat.le_refl _
    · exact Nat.le_refl _
  · dsimp only
    split
    · exact Nat.le_refl _
    · have := takeSemicolon_length (s.drop ((s.take nameLimit).takeWhile isReferenceChar).length)
      simp only [List.length_drop] at *
      omega

/-- the value of an attribute with its references decoded -/
def decodeValue : List Char → List Char
  | [] => []
  | c :: rest =>
    if c = '&' then (takeReference rest).1 ++ decodeValue (takeReference rest).2 else c :: decodeValue rest
termination_by s => s.length
decreasing_by
  · have := takeReference_length rest
    simp only [List.length_cons]
    omega
  · simp

/-- the number of digits of the first decimal reference in the value of an attribute that has too many of them -/
def longReferenceIn? : List Char → Option Nat
  | '&' :: '#' :: rest =>
    let count := (rest.takeWhile isAsciiDigit).length
    if Number.digitLimit < count then some count else longReferenceIn? rest
  | _ :: rest => longReferenceIn? rest
  | [] => none

end Untypeset.Markup
