import Untypeset.Latex.Basic
import Untypeset.Symbol.GlyphCode
import Untypeset.Symbol.Glyphs
import Untypeset.Symbol.Operators

/-!
The symbol table that a conversion consults: what operators and glyphs become, and which names are functions. The entry of a
glyph is looked up by a textual key, built from the digits of a code or from a character; the table itself lists the entries
by number. What a glyph code stands for is a row of code points, since a code may denote half of a surrogate pair; in a
source it is shown by characters.
-/

namespace Untypeset.Symbol

open Untypeset.Text

/-- the lookup tables of a conversion -/
structure SymbolTable where
  operators : List (Latex × Latex)
  glyphs : List (Nat × Latex)
  functions : List Latex

/-- the default operators -/
def defaultOperators : List (Latex × Latex) :=
  operatorEntries.map fun entry => (entry.1.toList, entry.2.toList)

/-- the default glyphs -/
def defaultGlyphs : List (Nat × Latex) :=
  glyphEntries.map fun entry => (entry.1, entry.2.toList)

/-- the default functions -/
def defaultFunctions : List Latex :=
  functionNames.map (·.toList)

/-- glyph entries given under textual keys; an entry whose key is not the canonical one can never be found -/
def glyphsOfKeys (entries : List (Latex × Latex)) : List (Nat × Latex) :=
  entries.filterMap fun entry =>
    match readCode? entry.1 with
    | some code => if codeKey code = entry.1 then some (code, entry.2) else none
    | none => none

/-- the token of a code that cannot be read: the code in upper case, in brackets -/
def unreadableToken (raw : Latex) : Latex :=
  "[U+".toList ++ upperCase (trim raw) ++ [']']

/-- what a number without an entry stands for: its code point and a space, a combining mark without the space, and its key in
brackets where it is too large for a code point -/
def literalPoints (key : Latex) (code : Nat) : List CodePoint :=
  match CodePoint.ofCode? code with
  | none => CodePoint.ofText ('[' :: key ++ [']'])
  | some p => if isCombining code then [p] else [p, .ofChar ' ']

namespace SymbolTable

/-- the default tables -/
def default : SymbolTable :=
  ⟨defaultOperators, defaultGlyphs, defaultFunctions⟩

/-- whether the name, apart from blanks around it and the case of its letters, is that of a function -/
def isFunction (symbols : SymbolTable) (name : Latex) : Bool :=
  !name.isEmpty && symbols.functions.contains (lowerCase (trim name))

/-- whether a function's name starts like this, whatever the case of the letters -/
def startsFunction (symbols : SymbolTable) (start : Latex) : Bool :=
  !start.isEmpty && symbols.functions.any fun name => (lowerCase start).isPrefixOf name

/-- what an operator becomes -/
def operator? (symbols : SymbolTable) (key : Latex) : Option Latex :=
  symbols.operators.lookup key

/-- the entry of a code point -/
def glyph? (symbols : SymbolTable) (code : Nat) : Option Latex :=
  symbols.glyphs.lookup code

/-- the entry under a textual key; only the key of a number can have one -/
def glyphOfKey? (symbols : SymbolTable) (key : Latex) : Option Latex :=
  if codeKey (keyNumber key) = key then symbols.glyph? (keyNumber key) else none

/-- what a glyph code stands for: the entry of its key, or its number by itself; a code without a key is shown in brackets -/
def tokenPoints (symbols : SymbolTable) (raw : Latex) : List CodePoint :=
  match canonicalKey? raw with
  | none => CodePoint.ofText (unreadableToken raw)
  | some key =>
    match symbols.glyphOfKey? key with
    | some token => CodePoint.ofText token
    | none => literalPoints key (keyNumber key)

/-- the token of a glyph code; it has one, whatever the code says -/
def codeToken (symbols : SymbolTable) (raw : Latex) : Latex :=
  CodePoint.toText (symbols.tokenPoints raw)

/-- the entry of a text that is a single code point -/
def pointToken? (symbols : SymbolTable) : List CodePoint → Option Latex
  | [p] => symbols.glyphOfKey? (codeKey p.code)
  | _ => none

/-- the entry of a text that is a single character -/
def charToken? (symbols : SymbolTable) (text : Latex) : Option Latex :=
  symbols.pointToken? (CodePoint.ofText text)

/-- the macro of a text that spells a function; any other text as it is -/
def functionOr (symbols : SymbolTable) (content : Latex) : Latex :=
  if symbols.isFunction (trim content) then Latex.functionMacro content else content

end SymbolTable

/-- the token of a code that may be missing -/
def codeTokenOrNone (symbols : SymbolTable) : Option Latex → Latex
  | some raw => symbols.codeToken raw
  | none => unreadableToken "None".toList

end Untypeset.Symbol
