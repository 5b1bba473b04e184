import Untypeset.Proofs.Text.Squash
import Untypeset.Symbol.Table

/-!
The default tables, written out in characters. A literal string is unfolded to its characters only with much computation,
and a statement about every entry of a table would unfold all of them; the tables below hold the characters themselves, so
that such a statement is decided by looking at them (`defaultGlyphs_eq`, `defaultOperators_eq`, `defaultFunctions_eq`).
-/

namespace Untypeset.Symbol

/-- strings, and the characters of each -/
inductive Spells : List String → List Latex → Prop
  | nil : Spells [] []
  | cons {letters : Latex} {strings : List String} {spelled : List Latex} :
    Spells strings spelled → Spells (String.ofList letters :: strings) (letters :: spelled)

theorem Spells.map_toList {strings : List String} {spelled : List Latex} (h : Spells strings spelled) :
    strings.map (·.toList) = spelled := by
  induction h with
  | nil => rfl
  | cons _ ih => rw [List.map_cons, ih, String.toList_ofList]

/-! ## Glyphs -/

set_option maxRecDepth 20000 in
/-- the tokens of the default glyphs -/
def glyphTokens : { spelled : List Latex // Spells (glyphEntries.map (·.2)) spelled } :=
  ⟨_, by
    dsimp only [glyphEntries, asciiGlyphs, latinGlyphs, diacriticGlyphs, greekGlyphs, punctuationGlyphs,
      scriptDigitGlyphs, symbolMarkGlyphs, letterlikeGlyphs, arrowGlyphs, operatorGlyphs, technicalGlyphs,
      bracketGlyphs, boldGlyphs, italicGlyphs, scriptGlyphs, frakturGlyphs, doubleStruckGlyphs, italicGreekGlyphs,
      List.cons_append, List.nil_append, List.map]
    repeat (first | exact Spells.nil | apply Spells.cons)⟩

/-- the default glyphs, written out -/
def spelledGlyphs : List (Nat × Latex) :=
  (glyphEntries.map (·.1)).zip glyphTokens.1

theorem defaultGlyphs_eq : defaultGlyphs = spelledGlyphs := by
  rw [spelledGlyphs, ← glyphTokens.2.map_toList, List.map_map, List.zip_map']
  rfl

/-! ## Operators -/

/-- the keys of the default operators -/
def operatorKeys : { spelled : List Latex // Spells (operatorEntries.map (·.1)) spelled } :=
  ⟨_, by
    dsimp only [operatorEntries, List.map]
    repeat (first | exact Spells.nil | apply Spells.cons)⟩

/-- the tokens of the default operators -/
def operatorTokens : { spelled : List Latex // Spells (operatorEntries.map (·.2)) spelled } :=
  ⟨_, by
    dsimp only [operatorEntries, List.map]
    repeat (first | exact Spells.nil | apply Spells.cons)⟩

/-- the default operators, written out -/
def spelledOperators : List (Latex × Latex) :=
  operatorKeys.1.zip operatorTokens.1

theorem defaultOperators_eq : defaultOperators = spelledOperators := by
  rw [spelledOperators, ← operatorKeys.2.map_toList, ← operatorTokens.2.map_toList, List.map_map, List.map_map,
    List.zip_map']
  rfl

/-! ## Functions -/

/-- the default functions, written out -/
def spelledFunctions : { spelled : List Latex // Spells functionNames spelled } :=
  ⟨_, by
    dsimp only [functionNames]
    repeat (first | exact Spells.nil | apply Spells.cons)⟩

theorem defaultFunctions_eq : defaultFunctions = spelledFunctions.1 :=
  spelledFunctions.2.map_toList

/-! ## Lookups in tables -/

/-- what is looked up in a table is one of its entries -/
theorem mem_of_lookup {α β : Type} [BEq α] [LawfulBEq α] {table : List (α × β)} {key : α} {value : β}
    (h : table.lookup key = some value) : (key, value) ∈ table := by
  obtain ⟨before, after, hsplit, -⟩ := List.lookup_eq_some_iff.1 h
  rw [hsplit]
  simp

/-- blanks around a name do not count -/
theorem functionMacro_trim (name : Latex) : Latex.functionMacro (Text.trim name) = Latex.functionMacro name := by
  rw [Latex.functionMacro, Latex.functionMacro, Text.trim_trim]

theorem operator?_default (key : Latex) : SymbolTable.default.operator? key = spelledOperators.lookup key := by
  rw [SymbolTable.operator?, SymbolTable.default, defaultOperators_eq]

theorem glyph?_default (code : Nat) : SymbolTable.default.glyph? code = spelledGlyphs.lookup code := by
  rw [SymbolTable.glyph?, SymbolTable.default, defaultGlyphs_eq]

theorem isFunction_default (name : Latex) :
    SymbolTable.default.isFunction name =
      (!name.isEmpty && spelledFunctions.1.contains (Text.lowerCase (Text.trim name))) := by
  rw [SymbolTable.isFunction, SymbolTable.default, defaultFunctions_eq]

theorem mem_of_isFunction {name : Latex} (h : SymbolTable.default.isFunction name = true) :
    Text.lowerCase (Text.trim name) ∈ spelledFunctions.1 := by
  rw [isFunction_default, Bool.and_eq_true] at h
  exact List.contains_iff_mem.1 h.2

end Untypeset.Symbol
