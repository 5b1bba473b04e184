import Untypeset.Conversion
import Untypeset.Proofs.Formula.Content
import Untypeset.Proofs.Latex.Braces
import Untypeset.Proofs.Symbol.Spelled

/-!
The groups of a finished formula are balanced. Loose braces come from layouts, from table entries and from function macros,
and each of these is tidy on its own; being tidy is stable, so the rest is about leaves. A leaf may show a brace only as an
operator that shows nothing else, since the operator table escapes it there.

Results:
- `tidy_latex`: a formula whose leaves are harmless has tidy LaTeX;
- `balanced_groups`: its groups are balanced, before and after its parentheses are sized, for every shape of markup.
-/

namespace Untypeset

open Untypeset.Latex Untypeset.Markup Untypeset.Rendering Untypeset.Symbol Untypeset.Text

/-! ## The default tables are tidy -/

theorem tidy_macro {name : Latex} (h : SymbolTable.default.isFunction name = true) : Tidy (functionMacro name) := by
  have all : ∀ name ∈ spelledFunctions.1, Tidy ('\\' :: name ++ [' ']) := by decide
  exact all _ (mem_of_isFunction h)

theorem tidy_operators : ∀ entry ∈ SymbolTable.default.operators, Tidy entry.2 := by
  rw [SymbolTable.default, defaultOperators_eq]
  decide

theorem tidy_glyphs : ∀ entry ∈ SymbolTable.default.glyphs, Tidy entry.2 := by
  rw [SymbolTable.default, defaultGlyphs_eq]
  decide +kernel

theorem stable_tidy : Stable .default Tidy where
  word := by decide
  named _ := tidy_macro
  operator := tidy_operators
  append := Tidy.append
  group := Tidy.group
  trim := Tidy.trim
  trimEnd := Tidy.trimEnd

/-! ## Plain leaves -/

/-- a character that takes no part in grouping -/
def Plain (c : Char) : Prop :=
  c ≠ '\\' ∧ isBrace c = false

instance (c : Char) : Decidable (Plain c) :=
  inferInstanceAs (Decidable (_ ∧ _))

/-- a leaf that shows nothing but one character, as its text or as its only glyph -/
def ShowsOnly (shape : Shape) (node : Node) (c : Char) : Prop :=
  node.trimmed = [c] ∨ node.trimmed = [] ∧ (shape.glyphCodes node).map readCode? = [some c.toNat]

/-- a leaf that brings in no backslash and no brace, or an operator that shows a single brace -/
def Harmless (shape : Shape) (node : Node) : Prop :=
  (∀ c ∈ broughtIn shape node, Plain c) ∨
    shape.kind node = .operator ∧ (ShowsOnly shape node '\x7b' ∨ ShowsOnly shape node '\x7d')

/-- the characters that take part in grouping -/
def groupSigns : List Char :=
  ['\\', '\x7b', '\x7d']

theorem forall_plain_iff {s : List Char} : (∀ c ∈ s, Plain c) ↔ ∀ sign ∈ groupSigns, sign ∉ s := by
  constructor
  · intro h sign hsign hmem
    have hall : ∀ sign ∈ groupSigns, ¬ Plain sign := List.all_iff_forall_prop.1 (by decide)
    exact hall sign hsign (h sign hmem)
  · intro h c hc
    by_contra hplain
    apply h c _ hc
    simp only [Plain, isBrace, not_and_or, not_not, Bool.not_eq_false, Bool.or_eq_true, decide_eq_true_eq, ne_eq] at hplain
    simpa [groupSigns] using hplain

theorem unsigned_tidy : Unsigned .default groupSigns Tidy where
  compositional := stable_tidy.compositional
  separated := stable_tidy.separated (by decide)
  operator := tidy_operators
  glyph := tidy_glyphs
  isSign := List.all_iff_forall_prop.1 (by decide)
  plain := fun h => Tidy.of_plain (forall_plain_iff.2 h)

/-! ## Brace operators -/

theorem eq_of_isBrace {c : Char} (h : isBrace c = true) : c = '\x7b' ∨ c = '\x7d' := by
  simpa [isBrace] using h

/-- the contents that a leaf with a single brace can have -/
def braceContents : List Latex :=
  [['\x7b'], ['\x7d'], ['\\', '\x7b', ' '], ['\\', '\x7d', ' ']]

theorem functionOr_brace {s : Latex} (h : s ∈ braceContents) : SymbolTable.default.functionOr s = s := by
  have all : ∀ s ∈ braceContents, (spelledFunctions.1.contains (lowerCase (trim (trim s)))) = false := by decide
  rw [SymbolTable.functionOr, isFunction_default, all s h, Bool.and_false]
  exact if_neg (by decide)

theorem codePointToken_brace {c : Char} (hc : isBrace c = true) :
    SymbolTable.default.codePointToken c.toNat = ['\\', c, ' '] := by
  rw [SymbolTable.codePointToken, glyph?_default]
  rcases eq_of_isBrace hc with rfl | rfl
  · decide
  · decide

/-- a leaf with a single brace shows the brace, or the escaped one of the glyph table -/
theorem content_of_showsOnly {shape : Shape} {node : Node} {c : Char} (hc : isBrace c = true)
    (h : ShowsOnly shape node c) : Formula.content shape .default node ∈ braceContents := by
  have hbare : [c] ∈ braceContents := by rcases eq_of_isBrace hc with rfl | rfl <;> decide
  have hescaped : ['\\', c, ' '] ∈ braceContents := by rcases eq_of_isBrace hc with rfl | rfl <;> decide
  rcases h with htext | ⟨hempty, hcodes⟩
  · have hsymbol : Formula.textSymbol? shape .default [c] = none := by
      have hascii : ¬ 0x7F < c.toNat := by rcases eq_of_isBrace hc with rfl | rfl <;> decide
      simp [Formula.textSymbol?, hascii]
    rw [Formula.content, htext, if_neg (by simp), Formula.textContent, hsymbol, Option.getD_none, functionOr_brace hbare]
    exact hbare
  · obtain ⟨code, hcode, hread⟩ : ∃ code, shape.glyphCodes node = [code] ∧ readCode? code = some c.toNat := by
      cases hlist : shape.glyphCodes node with
      | nil => simp [hlist] at hcodes
      | cons code rest =>
        rw [hlist, List.map_cons, List.cons.injEq, List.map_eq_nil_iff] at hcodes
        exact ⟨code, by rw [hcodes.2], hcodes.1⟩
    rw [Formula.content, hempty, if_pos List.isEmpty_nil, Formula.glyphContent, hcode, if_neg (by simp),
      List.map_singleton, joinGlyphs_singleton, glyphToken_of_readCode? hread]
    split
    · rw [Char.ofNat_toNat, functionOr_brace hbare]
      exact hbare
    · rw [codePointToken_brace hc, functionOr_brace hescaped]
      exact hescaped

/-- an operator that shows a single brace is written as its table has it -/
theorem tidy_operatorLatex {f : Formula} (h : f.facts.content ∈ braceContents) : Tidy (f.operatorLatex .default) := by
  unfold Formula.operatorLatex
  split
  · exact ⟨rfl, rfl⟩
  · split
    · exact ⟨rfl, rfl⟩
    · have all : ∀ s ∈ braceContents, (spelledOperators.lookup (trim s)).isSome = true := by decide
      have hfound : (SymbolTable.default.operator? f.key).isSome = true := by
        rw [operator?_default]
        exact all _ h
      obtain ⟨token, htoken⟩ := Option.isSome_iff_exists.1 hfound
      rw [htoken]
      exact tidy_operators (f.key, token) (mem_of_lookup htoken)

/-! ## Formulas -/

/-- a harmless leaf is tidy -/
theorem tidy_leaf {shape : Shape} {place : Located} (hk : (shape.kind place.node).isLeaf = true)
    (h : Harmless shape place.node) : Tidy ((Formula.read shape .default place).latex .default) := by
  have hkind := Formula.kind_read shape .default place
  rcases h with hplain | ⟨hoperator, hbrace⟩
  · exact unsigned_tidy.leaf hk (forall_plain_iff.1 hplain)
  · rw [latex_operator (hkind.trans hoperator)]
    refine tidy_operatorLatex ?_
    rw [Formula.facts_read]
    rcases hbrace with hbrace | hbrace
    · exact content_of_showsOnly (by decide) hbrace
    · exact content_of_showsOnly (by decide) hbrace

theorem tidy_latex {shape : Shape} {place : Located}
    (h : ∀ leaf ∈ Formula.leafPlaces shape place, Harmless shape leaf.node) :
    Tidy ((Formula.read shape .default place).latex .default) := by
  apply stable_tidy.latex
  intro leaf hleaf
  rw [Formula.leaves_read] at hleaf
  obtain ⟨below, hbelow, rfl⟩ := List.mem_map.1 hleaf
  exact tidy_leaf (Formula.isLeaf_of_mem_leafPlaces hbelow) (h below hbelow)

/-- **the groups of a formula whose leaves are harmless are balanced**, in what the walk comes to and in the result with
its parentheses sized -/
theorem balanced_groups (shape : Shape) (place : Located)
    (h : ∀ leaf ∈ Formula.leafPlaces shape place, Harmless shape leaf.node) :
    Balanced '\x7b' '\x7d' (looseBraces (walkAt shape .default place).value) ∧
      Balanced '\x7b' '\x7d' (looseBraces (convertAt shape .default place).value) := by
  have hwalk : Balanced '\x7b' '\x7d' (looseBraces (walkAt shape .default place).value) := (tidy_latex h).balanced
  refine ⟨hwalk, ?_⟩
  rw [convertAt, convertWalk, looseBraces_sized]
  exact hwalk

/-- a brace and a letter in a row -/
def braceAndLetter : Located :=
  .top (.element "mrow" [] [.element "mo" [] [.text .plain "\x7b"], .element "mi" [] [.text .plain "x"]])

theorem balanced_groups_of_brace :
    (∀ leaf ∈ Formula.leafPlaces .mathml braceAndLetter, Harmless .mathml leaf.node) ∧
      Balanced '\x7b' '\x7d' (looseBraces (walkAt .mathml .default braceAndLetter).value) ∧
      Balanced '\x7b' '\x7d' (looseBraces (convertAt .mathml .default braceAndLetter).value) := by
  have h : ∀ leaf ∈ Formula.leafPlaces .mathml braceAndLetter, Harmless .mathml leaf.node := by
    intro leaf hleaf
    rw [Formula.leafPlaces_eq, if_neg (by decide), if_neg (by decide)] at hleaf
    obtain ⟨part, hpart, hleaf⟩ := List.mem_flatMap.1 hleaf
    have hparts : (Formula.partPlaces .mathml braceAndLetter).map (·.node) =
        [.element "mo" [] [.text .plain "\x7b"], .element "mi" [] [.text .plain "x"]] := by rfl
    have hnode := List.mem_map_of_mem (f := (·.node)) hpart
    rw [hparts] at hnode
    rw [Formula.leafPlaces_eq] at hleaf
    simp only [List.mem_cons, List.not_mem_nil, or_false] at hnode
    rcases hnode with hnode | hnode
    · rw [hnode, if_pos (by decide)] at hleaf
      rw [List.mem_singleton.1 hleaf, hnode]
      exact .inr ⟨by rfl, .inl (.inl (by rfl))⟩
    · rw [hnode, if_pos (by decide)] at hleaf
      rw [List.mem_singleton.1 hleaf, hnode]
      exact .inl (List.all_iff_forall_prop.1 (by decide))
  exact ⟨h, balanced_groups .mathml braceAndLetter h⟩

end Untypeset
