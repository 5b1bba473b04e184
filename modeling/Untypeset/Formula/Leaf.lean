import Untypeset.Formula.Basic

/-!
What leaves and rows mean to their neighbours: fences, bars, primes, application marks, functions that take an argument,
and the LaTeX of a leaf on its own.
-/

namespace Untypeset

open Untypeset.Rendering Untypeset.Symbol Untypeset.Text

/-- the invisible mark of function application -/
def applicationMark : Char := '\u2061'

/-- the operators that are never shown -/
def invisibleOperators : List Char :=
  ['\u2061', '\u2062', '\u2063', '\u2064']

/-- the glyphs of a prime -/
def primeGlyphs : List Latex :=
  [['\x27'], ['′']]

/-- the marks over a vector -/
def vectorMarks : List Nat :=
  [0x20D7, 0x2192]

/-- the marks that make an overline -/
def overlineMarks : List Nat :=
  [0x0305, 0x00AF, 0x2015, 0x203E]

namespace Formula

/-- the content without the blanks around it, which is what neighbours look at -/
def key (f : Formula) : Latex :=
  trim f.facts.content

/-- whether this is an operator that shows just this character -/
def isFence (f : Formula) (c : Char) : Bool :=
  f.kind = .operator && f.key = [c]

/-- whether this is a vertical bar -/
def isBar (f : Formula) : Bool :=
  f.isFence '|'

/-- whether this is an equals sign -/
def isEquals (f : Formula) : Bool :=
  f.isFence '='

/-- whether this is an operator that shows a prime -/
def isPrime (f : Formula) : Bool :=
  f.kind = .operator && primeGlyphs.contains f.key

/-- whether this operator applies the function before it -/
def isApplication (f : Formula) : Bool :=
  f.kind = .operator && (f.facts.role = some "application" || f.facts.raw = [applicationMark])

/-- whether this is a function that takes what follows without a mark -/
def takesArgument (f : Formula) : Bool :=
  f.facts.role = some "prefix function" || f.facts.type = some "function"

/-- whether this may be the argument of such a function: anything but an operator, or an opening parenthesis -/
def canBeArgument (f : Formula) : Bool :=
  f.kind ≠ .operator || f.isFence '('

/-- whether a list starts with an opening and ends with a closing parenthesis -/
def areFenced (row : List Formula) : Bool :=
  2 ≤ row.length && (row.head?.any (·.isFence '(')) && (row.getLast?.any (·.isFence ')'))

/-- whether this is a row or a mere container between parentheses of its own -/
def isParenthesized (f : Formula) : Bool :=
  (f.kind = .row || f.kind = .container) && areFenced f.parts

/-- whether this is a row with parentheses of both sides somewhere in it -/
def isCompound (f : Formula) : Bool :=
  f.kind = .row && f.parts.any (·.isFence '(') && f.parts.any (·.isFence ')')

/-- whether this shows an integral sign -/
def isIntegral (f : Formula) : Bool :=
  f.key = ['∫'] || f.key = "\\int".toList || trim f.facts.raw = ['∫']

/-- whether this shows one of these code points -/
def showsAny (f : Formula) (marks : List Nat) : Bool :=
  f.facts.points.any marks.contains

/-! ## Leaves on their own -/

/-- an identifier: a function macro, a bold letter, or the content as it is -/
def identifierLatex (symbols : SymbolTable) (f : Formula) : Latex :=
  if symbols.isFunction f.key then Latex.functionMacro f.key
  else if !f.key.isEmpty && f.facts.variant = some "bold" then Latex.braced "\\mathbf" f.key
  else f.facts.content

/-- an operator: nothing if it is invisible or empty, else its entry in the table or its content -/
def operatorLatex (symbols : SymbolTable) (f : Formula) : Latex :=
  if invisibleOperators.any fun c => f.facts.raw = [c] then []
  else if f.key.isEmpty then []
  else (symbols.operator? f.key).getD f.facts.content

/-- running text; a lone π becomes its macro -/
def wordsLatex (f : Formula) : Latex :=
  if f.key = ['π'] then "\\pi ".toList else f.facts.content

end Formula

end Untypeset
