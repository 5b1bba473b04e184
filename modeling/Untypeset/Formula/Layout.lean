import Untypeset.Formula.Leaf
import Untypeset.Formula.Walk

/-!
Layouts: how the LaTeX of a structure is put together from walks through its arguments. Each takes its arguments as
walks and fixes the order in which they are made.
-/

namespace Untypeset.Layout

open Untypeset.Text Untypeset.Latex

/-- the two sides of an equation, with a bare equals sign between them -/
def equality (left right : Walk Latex) : Walk Latex := do
  let l ← left
  let r ← right
  Walk.note (.processed .equality)
  pure (l ++ '=' :: r)

/-- a square root -/
def squareRoot (radicand : Walk Latex) : Walk Latex := do
  let body ← radicand
  Walk.note (.processed .squareRoot)
  pure (braced "\\sqrt" (trim body))

/-- a root with an index -/
def root (base index : Walk Latex) : Walk Latex := do
  let b ← base
  let i ← index
  Walk.note (.processed .root)
  pure ("\\sqrt[".toList ++ trim i ++ ']' :: '\x7b' :: trim b ++ ['\x7d'])

/-- a fraction -/
def fraction (numerator denominator : Walk Latex) : Walk Latex := do
  let n ← numerator
  let d ← denominator
  Walk.note (.processed .fraction)
  pure (braced "\\frac" n ++ braced "" d)

/-- a base and a script below it -/
def subscript (base script : Walk Latex) : Walk Latex := do
  let b ← base
  let s ← script
  pure (b ++ braced "_" s)

/-- a source with a prime instead of the blanks behind it -/
def primed (base : Latex) : Latex :=
  trimEnd base ++ ['\x27']

/-- a base and an exponent; a prime is set directly behind the base, and the exponent 2 needs no braces -/
def superscript (base exponent : Walk Latex) : Walk Latex := do
  let b ← base
  let e ← exponent
  if primeGlyphs.contains (trim e) then
    pure (primed b)
  else do
    Walk.note (.processed .superscript)
    if e = ['2'] then pure (b ++ ['^', '2']) else pure (b ++ braced "^" e)

/-- an integral with its limits -/
def integral (lower upper : Walk Latex) : Walk Latex := do
  let l ← lower
  let u ← upper
  Walk.note (.processed .integral)
  pure (braced "\\int_" l ++ braced "^" u)

/-- an operator with a lower and an upper limit; the limits are walked first -/
def limits (base lower upper : Walk Latex) : Walk Latex := do
  let l ← lower
  let u ← upper
  let b ← base
  pure (b ++ braced "_" l ++ braced "^" u)

/-- a base under a mark that LaTeX draws over it -/
def overMark (control : String) (base : Walk Latex) : Walk Latex := do
  let b ← base
  pure (braced control b)

/-- a base under some other script, which becomes an exponent unless it is blank -/
def overscript (base script : Walk Latex) : Walk Latex := do
  let b ← base
  let s ← script
  if (trim s).isEmpty then pure b else pure (b ++ braced "^" s)

/-- a function name that was put together from letters -/
def functionName (name : Latex) : Walk Latex := do
  Walk.note (.reassembled name)
  pure (functionMacro name)

/-- one source beside the other -/
def beside (left right : Walk Latex) : Walk Latex := do
  let l ← left
  let r ← right
  pure (l ++ r)

/-- the walk with its source in round parentheses -/
def inParens (walk : Walk Latex) : Walk Latex := do
  let body ← walk
  pure (parenthesized body)

/-- the walk with its trimmed source in round parentheses -/
def inTightParens (walk : Walk Latex) : Walk Latex := do
  let body ← walk
  pure (parenthesized (trim body))

/-- the walk with a prime behind its source -/
def withPrime (walk : Walk Latex) : Walk Latex := do
  let body ← walk
  pure (primed body)

end Untypeset.Layout
