import Untypeset.Number.Numeral
import Untypeset.Text.Encoding
import Untypeset.Text.Hex

/-!
JSON texts as request bodies carry them. Beyond the standard, the numbers `NaN`, `Infinity` and `-Infinity` are read; an
integer with more digits than a number may have ends the reading. A value below another one is always shorter than it,
so the length of the text bounds how deep reading goes.
-/

namespace Untypeset.Web

open Untypeset.Text

/-- a JSON value; numbers are not looked into -/
inductive Json where
  | null
  | bool (value : Bool)
  | number (digits : List Char)
  | text (content : List Char)
  | list (items : List Json)
  | object (members : List (List Char × Json))
  deriving Repr, Inhabited

/-- why a text is no JSON value -/
inductive JsonError where
  | malformed
  | longInteger
  deriving DecidableEq, Repr

namespace Json

/-- the blanks between tokens -/
def isSpace (c : Char) : Bool :=
  c == ' ' || c == '\t' || c == '\n' || c == '\r'

/-- the text without leading blanks -/
def skipSpaces (s : List Char) : List Char :=
  s.dropWhile isSpace

/-- drops a word that a text begins with -/
def dropWord? (word : String) (s : List Char) : Option (List Char) :=
  if word.toList.isPrefixOf s then some (s.drop word.length) else none

/-! ## Texts -/

/-- the number of four hexadecimal digits -/
def hexFour? (s : List Char) : Option (Nat × List Char) :=
  let digits := s.take 4
  if digits.length = 4 && digits.all isHexDigit then some (hexNumber digits, s.drop 4) else none

/-- what the letter of a short escape stands for -/
def shortEscape? (c : Char) : Option Char :=
  [('\x22', '\x22'), ('\\', '\\'), ('/', '/'), ('b', '\x08'), ('f', '\x0c'), ('n', '\n'), ('r', '\r'),
    ('t', '\t')].lookup c

/-- the character of a code unit, and the text after it; the second half of a pair is taken along -/
def escapedChar (unit : Nat) (s : List Char) : Char × List Char :=
  let second? : Option (Nat × List Char) :=
    if isHighHalf unit then
      match s with
      | '\\' :: 'u' :: rest => (hexFour? rest).filter fun taken => isLowHalf taken.1
      | _ => none
    else
      none
  match second? with
  | some (low, rest) => (pairedChar unit low, rest)
  | none => (scalar unit, s)

/-- reads a text after its opening quote; `fuel` bounds the number of characters -/
def takeText? : Nat → List Char → Option (List Char × List Char)
  | 0, _ => none
  | _ + 1, [] => none
  | fuel + 1, c :: rest =>
    if c == '\x22' then some ([], rest)
    else if c == '\\' then
      match rest with
      | 'u' :: digits =>
        (hexFour? digits).bind fun (unit, after) =>
          let (char, after) := escapedChar unit after
          (takeText? fuel after).map fun (more, last) => (char :: more, last)
      | e :: after =>
        (shortEscape? e).bind fun char => (takeText? fuel after).map fun (more, last) => (char :: more, last)
      | [] => none
    else if c.toNat < 0x20 then none
    else (takeText? fuel rest).map fun (more, last) => (c :: more, last)

/-! ## Numbers -/

/-- the digits a text begins with, at least one, and the text after them -/
def takeDigits? (s : List Char) : Option (List Char × List Char) :=
  let digits := s.takeWhile isAsciiDigit
  if digits.isEmpty then none else some (digits, s.dropWhile isAsciiDigit)

/-- the whole part of a number: one zero, or digits that do not begin with zero -/
def takeWhole? : List Char → Option (List Char × List Char)
  | '0' :: rest => some (['0'], rest)
  | rest => takeDigits? rest

/-- an optional part of a number -/
def takeOptional (take? : List Char → Option (List Char × List Char)) (s : List Char) : List Char × List Char :=
  (take? s).getD ([], s)

/-- the fraction of a number -/
def takeFraction? : List Char → Option (List Char × List Char)
  | '.' :: rest => (takeDigits? rest).map fun (digits, after) => ('.' :: digits, after)
  | _ => none

/-- the exponent of a number -/
def takeExponent? : List Char → Option (List Char × List Char)
  | e :: rest =>
    if e == 'e' || e == 'E' then
      match rest with
      | sign :: tail =>
        if sign == '+' || sign == '-' then (takeDigits? tail).map fun (digits, after) => (e :: sign :: digits, after)
        else (takeDigits? rest).map fun (digits, after) => (e :: digits, after)
      | [] => none
    else none
  | [] => none

/-- a number; one without fraction and exponent is an integer -/
def takeNumber (s : List Char) : Except JsonError (Json × List Char) :=
  let (sign, unsigned) :=
    match s with
    | '-' :: rest => (['-'], rest)
    | _ => ([], s)
  match takeWhole? unsigned with
  | none => .error .malformed
  | some (whole, afterWhole) =>
    let (fraction, afterFraction) := takeOptional takeFraction? afterWhole
    let (exponent, after) := takeOptional takeExponent? afterFraction
    if fraction.isEmpty && exponent.isEmpty && Number.digitLimit < whole.length then .error .longInteger
    else .ok (.number (sign ++ whole ++ fraction ++ exponent), after)

/-! ## Values -/

/-- the values that are words -/
def wordValues : List (String × Json) :=
  [("null", .null), ("true", .bool true), ("false", .bool false), ("NaN", .number "NaN".toList),
   ("Infinity", .number "Infinity".toList), ("-Infinity", .number "-Infinity".toList)]

/-- a value that is a word -/
def takeWordValue? (s : List Char) : Option (Json × List Char) :=
  wordValues.findSome? fun (word, value) => (dropWord? word s).map fun after => (value, after)

/-- a value that has to be there -/
def required {α : Type} : Option α → Except JsonError α
  | some value => .ok value
  | none => .error .malformed

mutual

/-- a value at the start of a text -/
def takeValue : Nat → List Char → Except JsonError (Json × List Char)
  | 0, _ => .error .malformed
  | fuel + 1, s =>
    match s with
    | '\x22' :: rest => (required (takeText? fuel rest)).map fun (content, after) => (.text content, after)
    | '[' :: rest =>
      match skipSpaces rest with
      | ']' :: after => .ok (.list [], after)
      | items => (takeItems fuel items).map fun (values, after) => (.list values, after)
    | '\x7b' :: rest =>
      match skipSpaces rest with
      | '\x7d' :: after => .ok (.object [], after)
      | members => (takeMembers fuel members).map fun (values, after) => (.object values, after)
    | _ =>
      match takeWordValue? s with
      | some taken => .ok taken
      | none => takeNumber s

/-- the items of a list up to its closing bracket -/
def takeItems : Nat → List Char → Except JsonError (List Json × List Char)
  | 0, _ => .error .malformed
  | fuel + 1, s => do
    let (value, after) ← takeValue fuel s
    match skipSpaces after with
    | ']' :: last => return ([value], last)
    | ',' :: more =>
      let (values, last) ← takeItems fuel (skipSpaces more)
      return (value :: values, last)
    | _ => throw .malformed

/-- the members of an object up to its closing brace -/
def takeMembers : Nat → List Char → Except JsonError (List (List Char × Json) × List Char)
  | 0, _ => .error .malformed
  | fuel + 1, s =>
    match s with
    | '\x22' :: rest => do
      let (key, afterKey) ← required (takeText? fuel rest)
      match skipSpaces afterKey with
      | ':' :: afterColon =>
        let (value, after) ← takeValue fuel (skipSpaces afterColon)
        match skipSpaces after with
        | '\x7d' :: last => return ([(key, value)], last)
        | ',' :: more =>
          let (members, last) ← takeMembers fuel (skipSpaces more)
          return ((key, value) :: members, last)
        | _ => throw .malformed
      | _ => throw .malformed
    | _ => .error .malformed

end

/-- reads a JSON text, which must hold one value and nothing else -/
def parse (s : List Char) : Except JsonError Json := do
  let (value, after) ← takeValue (2 * s.length + 2) (skipSpaces s)
  if (skipSpaces after).isEmpty then return value else throw .malformed

/-- the value of a member of an object; of several with one name the last -/
def member? (value : Json) (key : String) : Option Json :=
  match value with
  | .object members => members.reverse.lookup key.toList
  | _ => none

end Json

end Untypeset.Web
