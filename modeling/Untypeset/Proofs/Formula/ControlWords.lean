import Untypeset.Conversion
import Untypeset.Proofs.Formula.Content
import Untypeset.Proofs.Latex.ControlWords
import Untypeset.Proofs.Symbol.Spelled

/-!
The control words of a finished formula. A macro is told from a letter behind it by the space that its table entry ends in;
that space is trimmed only before a delimiter or a prime, and between glyphs it is put back. So every source that a layout
makes is sealed, and no control word comes out that did not go in.

Results:
- `unsigned_sealed`: sources sealed with given control words are kept by all layouts;
- `controlWords_emitted`: every control word of a finished formula is one of the tables, of a function or of a layout.
-/

namespace Untypeset

open Untypeset.Latex Untypeset.Markup Untypeset.Rendering Untypeset.Symbol Untypeset.Text

/-- the control words that layouts put around their arguments -/
def layoutMacros : List Latex :=
  ["\\frac".toList, "\\sqrt".toList, "\\mathbf".toList, "\\overline".toList, "\\overrightarrow".toList,
   "\\int".toList, "\\pi".toList]

/-! ## Sealed layouts -/

variable {W : Latex → Prop}

theorem Latex.Sealed.mono {V W : Latex → Prop} (h : ∀ w, V w → W w) {s : Latex} (hs : Sealed V s) : Sealed W s :=
  ⟨⟨hs.guarded, fun w hw => h w (hs.words w hw)⟩, hs.closed⟩

theorem sealed_macro (hfunctions : ∀ name ∈ SymbolTable.default.functions, W ('\\' :: name)) {name : Latex}
    (h : SymbolTable.default.isFunction name = true) : Sealed W (functionMacro name) := by
  have all : ∀ name ∈ spelledFunctions.1, Sealed (fun w => w = '\\' :: name) ('\\' :: name ++ [' ']) := by
    decide
  have hname := mem_of_isFunction h
  refine (all _ hname).mono fun w hw => ?_
  rw [hw]
  apply hfunctions
  rw [SymbolTable.default, defaultFunctions_eq]
  exact hname

/-- a layout joins no control word of its arguments to anything -/
theorem closable_sealed (hlayout : ∀ w ∈ layoutMacros, W w)
    (hfunctions : ∀ name ∈ SymbolTable.default.functions, W ('\\' :: name)) : Closable .default (Sealed W) where
  word := by
    have all : ∀ w ∈ joiningWords, Sealed (fun word => word ∈ layoutMacros) w.toList := by decide
    intro w hw
    exact (all w hw).mono hlayout
  opening := by
    have all : ∀ w ∈ openingWords, Sealed (fun word => word ∈ layoutMacros) w.toList := by decide
    intro w hw
    exact (all w hw).mono hlayout
  closing := by
    have all : ∀ c ∈ closingSigns, '\\' ∉ [c] := List.all_iff_forall_prop.1 (by decide)
    exact fun c hc => .of_plain (all c hc)
  named _ := sealed_macro hfunctions
  append := Sealed.append
  trimStart := Sealed.trimStart
  close c hc s hs := by
    have all : ∀ c ∈ closingSigns, isAsciiLetter c = false ∧ '\\' ∉ [c] :=
      List.all_iff_forall_prop.1 (by decide)
    exact hs.trimEnd.close (all c hc).1 (.of_plain (all c hc).2)

/-- the entries of the tables are sealed with their own control words -/
theorem sealed_operators : ∀ entry ∈ SymbolTable.default.operators, Sealed (fun w => w ∈ controlWords entry.2) entry.2 := by
  rw [SymbolTable.default, defaultOperators_eq]
  decide

theorem sealed_glyphs : ∀ entry ∈ SymbolTable.default.glyphs, Sealed (fun w => w ∈ controlWords entry.2) entry.2 := by
  rw [SymbolTable.default, defaultGlyphs_eq]
  decide +kernel

/-- with control words of one sort in the tables and the layouts, a leaf without a backslash of its own is sealed -/
theorem unsigned_sealed (hlayout : ∀ w ∈ layoutMacros, W w)
    (hfunctions : ∀ name ∈ SymbolTable.default.functions, W ('\\' :: name))
    (hoperators : ∀ entry ∈ SymbolTable.default.operators, ∀ w ∈ controlWords entry.2, W w)
    (hglyphs : ∀ entry ∈ SymbolTable.default.glyphs, ∀ w ∈ controlWords entry.2, W w) :
    Unsigned .default ['\\'] (Sealed W) where
  compositional := (closable_sealed hlayout hfunctions).compositional
  separated h := .separated h.toWorded
  operator entry h := (sealed_operators entry h).mono (hoperators entry h)
  glyph entry h := (sealed_glyphs entry h).mono (hglyphs entry h)
  isSign := List.all_iff_forall_prop.1 (by decide)
  plain h := .of_plain (h '\\' (by decide))

/-! ## Emitted control words -/

/-- the control words that a conversion may emit: those of an entry of the tables, of a function, of a layout, and of sized
bars and parentheses -/
inductive Emitted (w : Latex) : Prop where
  | operator (entry : Latex × Latex) (listed : entry ∈ SymbolTable.default.operators) (occurs : w ∈ controlWords entry.2)
  | glyph (entry : Nat × Latex) (listed : entry ∈ SymbolTable.default.glyphs) (occurs : w ∈ controlWords entry.2)
  | function (name : Latex) (listed : name ∈ SymbolTable.default.functions) (spells : w = '\\' :: name)
  | layout (listed : w ∈ layoutMacros)
  | sizing (listed : w = leftWord ∨ w = rightWord)

theorem unsigned_emitted : Unsigned .default ['\\'] (Sealed Emitted) :=
  unsigned_sealed (fun _ => .layout) (fun name h => .function name h rfl) (fun entry h _ => .operator entry h)
    fun entry h _ => .glyph entry h

/-- **no control word is joined to what follows**: each one of a finished formula whose leaves bring in no backslash is
emitted as it stands -/
theorem controlWords_emitted (shape : Shape) (place : Located)
    (h : ∀ leaf ∈ Formula.leafPlaces shape place, '\\' ∉ broughtIn shape leaf.node) :
    ∀ w ∈ controlWords (convertAt shape .default place).value, Emitted w := by
  have hbar : ∀ bar ∈ ["\\left|", "\\right|"], Sealed (fun w => w = leftWord ∨ w = rightWord) bar.toList := by
    decide +kernel
  have hwalk : Sealed Emitted (walkAt shape .default place).value := by
    apply unsigned_emitted.compositional.latex
    · exact (hbar _ (by decide)).mono fun w => .sizing
    · exact (hbar _ (by decide)).mono fun w => .sizing
    · intro leaf hleaf
      rw [Formula.leaves_read] at hleaf
      obtain ⟨below, hbelow, rfl⟩ := List.mem_map.1 hleaf
      apply unsigned_emitted.leaf (Formula.isLeaf_of_mem_leafPlaces hbelow)
      simpa using h below hbelow
  intro w hw
  rcases controlWords_sized _ w hw with hw | hw
  · exact hwalk.words w hw
  · exact .sizing hw

/-- two macros and letters under a root, where the space behind the last macro is trimmed -/
def macrosUnderRoot : Located :=
  .top (.element "msqrt" []
    [.element "mi" [] [.text .plain "π"], .element "mi" [] [.text .plain "r"], .element "mi" [] [.text .plain "sin"],
     .element "mi" [] [.text .plain "θ"]])

theorem controlWords_of_macrosUnderRoot :
    (∀ leaf ∈ Formula.leafPlaces .mathml macrosUnderRoot, '\\' ∉ broughtIn .mathml leaf.node) ∧
      (convertAt .mathml .default macrosUnderRoot).value = "\\sqrt\x7b\\pi r\\sin \\theta\x7d".toList ∧
      ∀ w ∈ controlWords (convertAt .mathml .default macrosUnderRoot).value, Emitted w := by
  have h : ∀ leaf ∈ Formula.leafPlaces .mathml macrosUnderRoot, '\\' ∉ broughtIn .mathml leaf.node := by
    decide +kernel
  exact ⟨h, by decide +kernel, controlWords_emitted .mathml macrosUnderRoot h⟩

end Untypeset
