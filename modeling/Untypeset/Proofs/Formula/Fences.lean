import Untypeset.Proofs.Formula.Content
import Untypeset.Proofs.Latex.Delimiters
import Untypeset.Proofs.Latex.Joined
import Untypeset.Proofs.Symbol.Tokens

/-!
Parentheses as leaves of a formula. An operator that shows a parenthesis and nothing else is a fence to its neighbours and is
written as it is (`latex_of_isFence`); a leaf that shows no parenthesis is written without one (`parens_leaf`). That a fence
is never taken for an invisible operator is due to the tables (`visible_read`).
-/

namespace Untypeset

open Untypeset.Latex Untypeset.Markup Untypeset.Rendering Untypeset.Symbol Untypeset.Text

namespace Formula

/-! ## Parentheses among siblings -/

/-- the parenthesis that an operator shows and nothing else -/
def fence (f : Formula) : List Char :=
  if f.isFence '(' then ['('] else if f.isFence ')' then [')'] else []

/-- a node without stray parentheses: a leaf shows none, or one alone that is no application mark; those of a row are
balanced; and none is the argument of a structure by itself -/
structure Fenced (f : Formula) : Prop where
  leaf : f.kind.isLeaf = true → parens f.shown = [] ∨ f.fence ≠ [] ∧ f.facts.role ≠ some "application"
  row : f.kind.isLeaf = false → f.kind ≠ .ignored → Balanced '(' ')' (f.parts.flatMap fence)
  arguments : f.kind.arity? = some f.parts.length → ∀ part ∈ f.parts, part.fence = []

instance (f : Formula) : Decidable f.Fenced :=
  decidable_of_iff
    ((f.kind.isLeaf = true → parens f.shown = [] ∨ f.fence ≠ [] ∧ f.facts.role ≠ some "application") ∧
      (f.kind.isLeaf = false → f.kind ≠ .ignored → Balanced '(' ')' (f.parts.flatMap fence)) ∧
      (f.kind.arity? = some f.parts.length → ∀ part ∈ f.parts, part.fence = []))
    ⟨fun h => ⟨h.1, h.2.1, h.2.2⟩, fun h => ⟨h.leaf, h.row, h.arguments⟩⟩

variable {f : Formula}

theorem fence_of_kind (h : f.kind ≠ .operator) : f.fence = [] := by
  simp [fence, isFence, h]

theorem fence_cases (f : Formula) : f.fence = [] ∨ ∃ c, isParen c = true ∧ f.isFence c = true ∧ f.fence = [c] := by
  unfold fence
  split
  · rename_i h
    exact .inr ⟨'(', rfl, h, rfl⟩
  · split
    · rename_i h
      exact .inr ⟨')', rfl, h, rfl⟩
    · exact .inl rfl

theorem kind_of_isFence {c : Char} (h : f.isFence c = true) : f.kind = .operator ∧ f.key = [c] := by
  simpa [isFence] using h

/-- an operator that shows something else is no parenthesis to its neighbours -/
theorem fence_of_key {s : Latex} (hkey : f.key = s) (h : parens s = []) : f.fence = [] := by
  rcases fence_cases f with hnone | ⟨c, hc, hfence, -⟩
  · exact hnone
  · rw [← hkey, (kind_of_isFence hfence).2, parens_eq_nil_iff] at h
    rw [h c (List.mem_singleton_self c)] at hc
    cases hc

/-! ## Leaves -/

theorem parens_macro {name : Latex} (h : SymbolTable.default.isFunction name = true) :
    parens (functionMacro name) = [] := by
  have all : ∀ name ∈ spelledFunctions.1, parens ('\\' :: name ++ [' ']) = [] := by decide
  exact all _ (mem_of_isFunction h)

/-- an operator without a parenthesis becomes none -/
theorem parens_operator {key token : Latex} (hkey : parens key = [])
    (h : SymbolTable.default.operator? key = some token) : parens token = [] := by
  have all : ∀ entry ∈ spelledOperators, parens entry.1 = [] → parens entry.2 = [] := by decide
  rw [operator?_default] at h
  exact all (key, token) (mem_of_lookup h) hkey

/-- the LaTeX of a leaf that shows no parenthesis has none -/
theorem parens_leaf (hk : f.kind.isLeaf = true) (h : parens f.shown = []) : parens (f.latex .default) = [] := by
  have hkey : f.kind ≠ .bareText → parens f.key = [] := by
    intro hne
    rw [shown, if_neg hne] at h
    rw [key, parens_trim, h]
  unfold shown at h
  cases hkind : f.kind <;> rw [hkind] at hk h hkey <;> cases hk
  · rw [latex_identifier hkind, identifierLatex]
    split
    · rename_i hfun
      exact parens_macro hfun
    · split
      · rw [parens_braced (by decide)]
        exact hkey (by decide)
      · exact h
  · rw [latex_number hkind]
    exact h
  · rw [latex_operator hkind, operatorLatex]
    split
    · rfl
    · split
      · rfl
      · cases hop : SymbolTable.default.operator? f.key with
        | none => exact h
        | some token => exact parens_operator (hkey (by decide)) hop
  · rw [latex_words hkind, wordsLatex]
    split
    · decide
    · exact h
  · rw [latex_bareText hkind]
    exact h

/-- a sign that is not one of the invisible operators has its entry in the table -/
theorem latex_of_sign {c : Char} {token : Latex} (h : f.isFence c = true)
    (hvisible : ∀ mark ∈ invisibleOperators, f.facts.raw ≠ [mark]) (htoken : SymbolTable.default.operator? [c] = some token) :
    f.latex .default = token := by
  obtain ⟨hkind, hkey⟩ := kind_of_isFence h
  have hshown : ¬ (invisibleOperators.any fun mark => f.facts.raw = [mark]) = true := by
    rw [List.any_eq_true]
    rintro ⟨mark, hmark, heq⟩
    exact hvisible mark hmark (by simpa using heq)
  rw [latex_operator hkind, operatorLatex, if_neg hshown, hkey, if_neg (by simp), htoken]
  rfl

/-- a parenthesis that is not one of the invisible operators is written as it is -/
theorem latex_of_isFence {c : Char} (hc : isParen c = true) (h : f.isFence c = true)
    (hvisible : ∀ mark ∈ invisibleOperators, f.facts.raw ≠ [mark]) : f.latex .default = [c] := by
  refine latex_of_sign h hvisible ?_
  rw [operator?_default]
  rcases eq_of_isParen hc with rfl | rfl <;> decide

/-! ### What is shown is visible -/

/-- the table has nothing for invisible operators, and no entries for numbers beyond the last code point -/
theorem glyphs_of_marks :
    (∀ mark ∈ invisibleOperators, 0x80 ≤ mark.toNat ∧ mark ≠ '\ufffd' ∧ SymbolTable.default.glyph? mark.toNat = some []) ∧
      ∀ entry ∈ spelledGlyphs, entry.1 ≤ 0x10FFFF := by
  have hmarks : ∀ mark ∈ invisibleOperators,
      0x80 ≤ mark.toNat ∧ mark ≠ '\ufffd' ∧ spelledGlyphs.lookup mark.toNat = some [] :=
    List.all_iff_forall_prop.1 (by decide +kernel)
  refine ⟨?_, by decide +kernel⟩
  intro mark hmark
  rw [glyph?_default]
  exact hmarks mark hmark

/-- the token of a number beyond the last code point shows the number in brackets -/
theorem bracket_mem_glyphToken {shape : Shape} {code : List Char} {n : Nat} (hread : readCode? code = some n)
    (hchar : charOfCode? n = none) : '[' ∈ glyphToken shape .default code := by
  have hlarge := charOfCode?_eq_none_iff.1 hchar
  have hbare : ¬ (shape.keepsAsciiBare && decide (n < 0x80)) = true := by
    rw [Bool.and_eq_true, decide_eq_true_eq]
    omega
  have hglyph : SymbolTable.default.glyph? n = none := by
    rw [glyph?_default, List.lookup_eq_none_iff]
    intro entry hentry
    have := glyphs_of_marks.2 entry hentry
    rw [bne_iff_ne]
    omega
  rw [glyphToken_of_readCode? hread, if_neg hbare, SymbolTable.codePointToken, hglyph, Option.getD_none, literalToken_eq, hchar]
  exact List.mem_cons_self

/-- a number is shown by its own character, or else by the replacement character -/
theorem toNat_of_charOfCode? {n : Nat} {c : Char} (h : charOfCode? n = some c) : c.toNat = n ∨ c = '\ufffd' := by
  obtain ⟨p, hp, rfl⟩ := Option.map_eq_some_iff.1 h
  rw [← CodePoint.code_of_ofCode? hp, CodePoint.shown, scalar]
  split
  · rename_i hvalid
    exact .inl (toNat_ofNat hvalid)
  · exact .inr rfl

/-- where a code names a character beyond ASCII or no code point, its token is that of the character, or shows the code in
brackets -/
theorem glyphToken_of_char {c : Char} (hc : 0x80 ≤ c.toNat) (hshown : c ≠ '\ufffd') {shape : Shape} {code : List Char}
    (h : ∀ d ∈ glyphChar? code, d = c) :
    glyphToken shape .default code = tokenOf c ∨ '[' ∈ glyphToken shape .default code := by
  unfold glyphChar? at h
  cases hread : readCode? code with
  | none =>
    right
    have hbracket : "[U+".toList = ['[', 'U', '+'] := String.toList_ofList
    rw [glyphToken_of_unreadable hread, unreadableToken, hbracket]
    simp
  | some n =>
    rw [hread, Option.bind_some] at h
    cases hchar : charOfCode? n with
    | none => exact .inr (bracket_mem_glyphToken hread hchar)
    | some d =>
      left
      have hd : d = c := h d (by rw [hchar]; rfl)
      subst hd
      have hn : d.toNat = n := (toNat_of_charOfCode? hchar).resolve_right hshown
      rw [glyphToken_of_readCode? hread, ← hn, if_neg (by simp [hc])]
      rfl

/-- what an invisible operator shows besides itself is the code of a glyph that cannot be read, or the macro of a function -/
theorem squash_content_of_invisible {mark : Char} (hmark : mark ∈ invisibleOperators) {shape : Shape} {node : Node}
    (h : rawText shape node = [mark]) :
    squash (content shape .default node) = [] ∨ squash (content shape .default node) = [mark] ∨
      '[' ∈ squash (content shape .default node) ∨ '\\' ∈ squash (content shape .default node) := by
  obtain ⟨hhigh, hshown, hglyph⟩ := glyphs_of_marks.1 mark hmark
  unfold rawText at h
  unfold content
  split
  · rename_i hempty
    rw [if_pos hempty] at h
    unfold glyphContent
    split
    · exact .inl rfl
    · unfold SymbolTable.functionOr
      split
      · right; right; right
        rw [functionMacro, List.cons_append, squash_cons_solid (by decide)]
        exact List.mem_cons_self
      · rw [squash_joinGlyphs, List.flatMap_map]
        by_cases hbracket : ∃ code ∈ shape.glyphCodes node, '[' ∈ glyphToken shape .default code
        · obtain ⟨code, hcode, hmem⟩ := hbracket
          exact .inr (.inr (.inl (List.mem_flatMap.2 ⟨code, hcode, List.mem_filter.2 ⟨hmem, rfl⟩⟩)))
        · left
          refine List.flatMap_eq_nil_iff.2 fun code hcode => ?_
          have hchar : ∀ c ∈ glyphChar? code, c = mark := by
            intro c hc
            have hmem : c ∈ (shape.glyphCodes node).filterMap glyphChar? := List.mem_filterMap.2 ⟨code, hcode, hc⟩
            rw [h] at hmem
            exact List.mem_singleton.1 hmem
          rw [(glyphToken_of_char hhigh hshown hchar).resolve_right fun hmem => hbracket ⟨code, hcode, hmem⟩, tokenOf,
            SymbolTable.codePointToken, hglyph]
          rfl
  · rename_i hfull
    have hsolid : ∀ mark ∈ invisibleOperators, isBlank mark = false := List.all_iff_forall_prop.1 (by decide)
    rw [if_neg hfull] at h
    rw [h, textContent, textSymbol?]
    split
    · left
      rw [charToken?_singleton, hglyph]
      rfl
    · right; left
      rw [Option.getD_none, functionOr_singleton, squash_cons_solid (hsolid mark hmark)]
      rfl

/-- the signs that a leaf can show without showing them alone on purpose: those of a code that cannot be read, and of a macro -/
def straySigns : List Char :=
  ['[', '\\']

/-- a leaf that shows one sign alone does not consist of an invisible operator -/
theorem rawText_ne_mark {shape : Shape} {node : Node} {c : Char} (hc : c ∉ invisibleOperators ++ straySigns)
    (h : trim (content shape .default node) = [c]) : ∀ mark ∈ invisibleOperators, rawText shape node ≠ [mark] := by
  intro mark hmark hraw
  have hshown := squash_content_of_invisible hmark hraw
  rw [trim_eq_singleton_iff.1 h] at hshown
  rw [List.mem_append, not_or] at hc
  rcases hshown with hnone | hsame | hbracket | hback
  · cases hnone
  · exact hc.1 (List.singleton_inj.1 hsame ▸ hmark)
  · exact hc.2 (List.mem_singleton.1 hbracket ▸ by decide)
  · exact hc.2 (List.mem_singleton.1 hback ▸ by decide)

/-- an operator that shows one sign alone, and no stray one, is written -/
def Overt (f : Formula) : Prop :=
  ∀ c, f.isFence c = true → c ∉ invisibleOperators ++ straySigns → ∀ mark ∈ invisibleOperators, f.facts.raw ≠ [mark]

theorem overt_read (shape : Shape) (place : Located) : (read shape .default place).Overt := by
  intro c hfence hc
  have hkey := (kind_of_isFence hfence).2
  rw [key, facts_read] at hkey
  rw [facts_read]
  exact rawText_ne_mark hc hkey

/-- a sign that is written has its entry in the table -/
theorem Overt.latex_eq {c : Char} {token : Latex} (hf : f.Overt) (h : f.isFence c = true)
    (hc : c ∉ invisibleOperators ++ straySigns) (htoken : SymbolTable.default.operator? [c] = some token) :
    f.latex .default = token :=
  latex_of_sign h (hf c h hc) htoken

/-- a parenthesis that its neighbours see is seen in the result -/
def Visible (f : Formula) : Prop :=
  f.fence ≠ [] → ∀ mark ∈ invisibleOperators, f.facts.raw ≠ [mark]

theorem visible_read (shape : Shape) (place : Located) : (read shape .default place).Visible := by
  intro hfence
  rcases fence_cases (read shape .default place) with hnone | ⟨c, hc, h, -⟩
  · exact absurd hnone hfence
  · refine overt_read shape place c h ?_
    rcases eq_of_isParen hc with rfl | rfl <;> decide

end Formula

end Untypeset
