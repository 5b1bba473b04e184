import Untypeset.Rendering.Shape
import Untypeset.Symbol.Table

/-!
What a leaf of a rendered formula shows. A leaf with text shows the text; a leaf without shows its glyphs, each looked
up in the symbol table and joined into one token. Content that spells a function name becomes the macro of the
function. Every glyph code up to the last code point shows a character; half of a surrogate pair shows the replacement
character.
-/

namespace Untypeset.Formula

open Untypeset.Markup Untypeset.Rendering Untypeset.Symbol Untypeset.Text

/-- the token of a glyph; where ASCII glyphs are bare, such a glyph is its own character -/
def glyphToken (shape : Shape) (symbols : SymbolTable) (code : List Char) : Latex :=
  match (readCode? code).filter fun n => shape.keepsAsciiBare && n < 0x80 with
  | some n => [Char.ofNat n]
  | none => symbols.codeToken code

/-- the table entry of a text that is one character beyond ASCII, where the shape looks texts up -/
def textSymbol? (shape : Shape) (symbols : SymbolTable) (text : List Char) : Option Latex :=
  match text with
  | [c] => if shape.looksUpText && 0x7F < c.toNat then symbols.charToken? [c] else none
  | _ => none

/-- the content of a text that is not empty -/
def textContent (shape : Shape) (symbols : SymbolTable) (text : List Char) : Latex :=
  (textSymbol? shape symbols text).getD (symbols.functionOr text)

/-- the content of a row of glyphs -/
def glyphContent (shape : Shape) (symbols : SymbolTable) (codes : List (List Char)) : Latex :=
  if codes.isEmpty then [] else symbols.functionOr (Latex.joinGlyphs (codes.map (glyphToken shape symbols)))

/-- what a leaf shows, as LaTeX -/
def content (shape : Shape) (symbols : SymbolTable) (node : Node) : Latex :=
  if node.trimmed.isEmpty then glyphContent shape symbols (shape.glyphCodes node)
  else textContent shape symbols node.trimmed

/-- the character that shows a glyph code -/
def glyphChar? (code : List Char) : Option Char :=
  (readCode? code).bind charOfCode?

/-- the characters that a leaf shows, before any table is consulted -/
def rawText (shape : Shape) (node : Node) : List Char :=
  if node.trimmed.isEmpty then (shape.glyphCodes node).filterMap glyphChar? else node.trimmed

/-- the code points that a tree shows: those of its glyphs, or without any readable glyph those of its text -/
def codePoints (shape : Shape) (node : Node) : List Nat :=
  let points := (shape.glyphCodes node).filterMap readCode?
  if points.isEmpty then node.trimmed.map (·.toNat) else points

end Untypeset.Formula
