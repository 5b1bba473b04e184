import Untypeset.Text.Blank
import Untypeset.Text.Case
import Untypeset.Text.Letter

/-!
LaTeX source as a list of characters, and the ways in which tokens are put next to each other without running together.
-/

namespace Untypeset

open Untypeset.Text

/-- LaTeX source -/
abbrev Latex := List Char

namespace Latex

/-- the macro of a function name: a backslash, the name in lower case and one space -/
def functionMacro (name : Latex) : Latex :=
  '\\' :: lowerCase (trim name) ++ [' ']

/-- whether the source ends in a control word, a backslash and at least one ASCII letter -/
def endsInControlWord (s : Latex) : Bool :=
  match s.reverse.takeWhile isAsciiLetter with
  | [] => false
  | _ :: _ => (s.reverse.dropWhile isAsciiLetter).head? == some '\\'

/-- a token that another one follows: its padding goes, but a control word keeps one space behind it -/
def separated (token : Latex) : Latex :=
  let bare := trimEnd token
  if endsInControlWord bare then bare ++ [' '] else bare

/-- one token out of the tokens of several glyphs; the last keeps its padding -/
def joinGlyphs : List Latex → Latex
  | [] => []
  | [last] => last
  | token :: next :: rest => separated token ++ joinGlyphs (next :: rest)

/-- the source between a control word with its opening brace and the closing brace -/
def braced (control : String) (body : Latex) : Latex :=
  control.toList ++ '\x7b' :: body ++ ['\x7d']

/-- the source in round parentheses -/
def parenthesized (body : Latex) : Latex :=
  '(' :: body ++ [')']

@[simp] theorem joinGlyphs_nil : joinGlyphs [] = [] := rfl

@[simp] theorem joinGlyphs_singleton (token : Latex) : joinGlyphs [token] = token := rfl

theorem joinGlyphs_cons {token : Latex} {rest : List Latex} (h : rest ≠ []) :
    joinGlyphs (token :: rest) = separated token ++ joinGlyphs rest := by
  cases rest with
  | nil => exact absurd rfl h
  | cons next rest => rfl

end Latex

end Untypeset
