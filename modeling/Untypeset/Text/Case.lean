import Untypeset.Text.Case.Tables

/-!
Full case mappings of texts. A capital sigma is lowered by its place: at the end of a word it becomes the final form.
-/

namespace Untypeset.Text

/-- looks a code point up in the expansions first, then in the runs; without an entry it stays as it is -/
def mapCase (expansions : List (Nat × List Nat)) (runs : List CaseRun) (c : Char) : List Char :=
  match expansions.lookup c.toNat with
  | some codes => codes.map Char.ofNat
  | none =>
    match runs.findSome? (·.image? c.toNat) with
    | some code => [Char.ofNat code]
    | none => [c]

/-- the lower case of one character, whatever stands around it -/
def lowerChar (c : Char) : List Char :=
  if c.toNat < 0x80 then [c.toLower] else mapCase lowerExpansions lowerRuns c

/-- the upper case of one character -/
def upperChar (c : Char) : List Char :=
  if c.toNat < 0x80 then [c.toUpper] else mapCase upperExpansions upperRuns c

/-- whether the first character that is not case-ignorable is a cased one -/
def meetsCased (s : List Char) : Bool :=
  match s.dropWhile fun c => inSpans caseIgnorableSpans c.toNat with
  | [] => false
  | c :: _ => inSpans casedSpans c.toNat

/-- the lower case of a text that follows the characters `before`, nearest first -/
def lowerCaseAfter (before : List Char) : List Char → List Char
  | [] => []
  | c :: rest =>
    let lowered :=
      if c = 'Σ' then [if meetsCased before && !meetsCased rest then 'ς' else 'σ'] else lowerChar c
    lowered ++ lowerCaseAfter (c :: before) rest

/-- the lower case of a text -/
def lowerCase (s : List Char) : List Char :=
  lowerCaseAfter [] s

/-- the upper case of a text -/
def upperCase (s : List Char) : List Char :=
  s.flatMap upperChar

theorem lowerChar_ascii {c : Char} (h : c.toNat < 0x80) : lowerChar c = [c.toLower] := by
  simp [lowerChar, h]

end Untypeset.Text
