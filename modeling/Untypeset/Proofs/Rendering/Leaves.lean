import Untypeset.Proofs.Latex.Spaced
import Untypeset.Proofs.Rendering.Shown

/-!
Leaves with the same characters as text and as glyphs. The text of a leaf is a word of ASCII characters or one character
beyond ASCII. Where the text is taken as it is, the glyphs may end in a space that the table puts behind them; beyond that
there is no difference (`padded_boxes`, `padded_drawing`).
-/

namespace Untypeset

open Untypeset.Latex Untypeset.Rendering Untypeset.Symbol Untypeset.Text

variable {cs : List Char} {s t : Latex}

/-- a word of ASCII characters of some kind, or a single solid character beyond ASCII -/
def LeafText (ascii : Char → Prop) (cs : List Char) : Prop :=
  (cs ≠ [] ∧ ∀ c ∈ cs, c.toNat ≤ 0x7F ∧ ascii c) ∨ ∃ c, cs = [c] ∧ 0x7F < c.toNat ∧ isBlank c = false

/-- a character that is not blank -/
def IsSolid (c : Char) : Prop :=
  isBlank c = false

/-- a character whose entry in the table is itself with a space behind it -/
def IsPadded (c : Char) : Prop :=
  SymbolTable.default.glyph? c.toNat = some [c, ' ']

instance {ascii : Char → Prop} [DecidablePred ascii] (cs : List Char) : Decidable (LeafText ascii cs) :=
  decidable_of_iff
    (cs ≠ [] ∧ (cs.all fun c => c.toNat ≤ 0x7F ∧ ascii c) ∨
      cs.length = 1 ∧ cs.all fun c => 0x7F < c.toNat ∧ isBlank c = false) <| by
    rw [List.all_iff_forall_prop, List.all_iff_forall_prop]
    refine or_congr Iff.rfl ⟨?_, ?_⟩
    · rintro ⟨hlength, h⟩
      obtain ⟨c, rfl⟩ := List.length_eq_one_iff.1 hlength
      exact ⟨c, rfl, h c List.mem_cons_self⟩
    · rintro ⟨c, rfl, h⟩
      exact ⟨rfl, by simpa using h⟩

instance : DecidablePred IsSolid := fun c => inferInstanceAs (Decidable (isBlank c = false))

instance : DecidablePred IsPadded := fun c =>
  inferInstanceAs (Decidable (SymbolTable.default.glyph? c.toNat = some [c, ' ']))

theorem LeafText.solid {ascii : Char → Prop} (hascii : ∀ c, c.toNat ≤ 0x7F → ascii c → isBlank c = false)
    (h : LeafText ascii cs) : Solid cs := by
  intro c hc
  rcases h with ⟨-, h⟩ | ⟨d, rfl, -, hd⟩
  · exact hascii c (h c hc).1 (h c hc).2
  · rw [List.mem_singleton.1 hc]
    exact hd

theorem tokenOf_of_isPadded {c : Char} (h : IsPadded c) : tokenOf c = [c, ' '] := by
  rw [tokenOf, SymbolTable.codePointToken, h, Option.getD_some]

theorem isSolid_of_isPadded {c : Char} (hascii : c.toNat ≤ 0x7F) (h : IsPadded c) :
    isBlank c = false ∧ c ≠ '\\' := by
  have all : ∀ entry ∈ spelledGlyphs, entry.1 ≤ 0x7F → entry.2 = [Char.ofNat entry.1, ' '] →
      isBlank (Char.ofNat entry.1) = false ∧ Char.ofNat entry.1 ≠ '\\' := by decide +kernel
  rw [IsPadded, glyph?_default] at h
  have hchar := all (c.toNat, [c, ' ']) (mem_of_lookup h) hascii
  rw [Char.ofNat_toNat] at hchar
  exact hchar rfl

/-! ## Text -/

theorem textContent_ascii (h : ∀ c ∈ cs, c.toNat ≤ 0x7F) :
    Formula.textContent .mathml .default cs = SymbolTable.default.functionOr cs := by
  have hsymbol : Formula.textSymbol? .mathml .default cs = none := by
    unfold Formula.textSymbol?
    split
    · rename_i c
      have hc := h c List.mem_cons_self
      rw [if_neg]
      simpa using fun _ => hc
    · rfl
  rw [Formula.textContent, hsymbol, Option.getD_none]

/-- a character beyond ASCII is written as its token, or it has no entry and stands for itself -/
theorem textContent_beyond {c : Char} (hc : 0x7F < c.toNat) :
    Formula.textContent .mathml .default [c] = tokenOf c ∨
      Formula.textContent .mathml .default [c] = [c] ∧ IsLiteral c (tokenOf c) := by
  have hsymbol : Formula.textSymbol? .mathml .default [c] = SymbolTable.default.glyph? c.toNat := by
    simp [Formula.textSymbol?, Shape.looksUpText, hc, charToken?_singleton]
  rw [Formula.textContent, hsymbol]
  cases hglyph : SymbolTable.default.glyph? c.toNat with
  | some entry =>
    left
    rw [tokenOf, SymbolTable.codePointToken, hglyph]
    rfl
  | none =>
    right
    refine ⟨functionOr_singleton c, ?_⟩
    rcases tokenOf_cases c with h | ⟨-, h⟩
    · rw [glyph?_default, List.lookup_eq_none_iff] at hglyph
      have := hglyph _ h
      simp at this
    · exact h

/-! ## Padding -/

/-- the second source is the first, perhaps with a space behind it -/
def Padded (s t : Latex) : Prop :=
  t = s ∨ t = s ++ [' ']

theorem trim_append_space (s : Latex) : trim (s ++ [' ']) = trim s := by
  induction s with
  | nil => rfl
  | cons c s ih =>
    by_cases hc : isBlank c = true
    · rw [List.cons_append, trim_cons_blank hc, trim_cons_blank hc, ih]
    · simp only [Bool.not_eq_true] at hc
      rw [List.cons_append, trim_cons_solid hc, trim_cons_solid hc, trimEnd_append_of_blank rfl]

theorem Padded.trim_eq (h : Padded s t) : trim s = trim t := by
  rcases h with rfl | rfl
  · rfl
  · exact (trim_append_space s).symm

theorem Padded.squash_eq (h : Padded s t) : squash s = squash t := by
  rcases h with rfl | rfl
  · rfl
  · rw [squash_append]
    exact (List.append_nil _).symm

/-- a function is found in a padded name too -/
theorem padded_functionOr (h : Padded s t) :
    Padded (SymbolTable.default.functionOr s) (SymbolTable.default.functionOr t) := by
  unfold SymbolTable.functionOr
  rw [← h.trim_eq]
  split
  · rw [functionMacro, functionMacro, h.trim_eq]
    exact .inl rfl
  · exact h

variable {shape : Shape}

/-- what the glyphs of a leaf become -/
def glyphsLatex (shape : Shape) (cs : List Char) : Latex :=
  SymbolTable.default.functionOr (joinGlyphs (cs.map (shownToken shape)))

/-- the glyph of a character beyond ASCII becomes its token -/
theorem glyphsLatex_beyond (hshape : shape ≠ .mathml) {c : Char} (hc : 0x7F < c.toNat) (hsolid : isBlank c = false) :
    glyphsLatex shape [c] = tokenOf c := by
  have htoken : shownToken shape c = tokenOf c := by
    cases shape with
    | svg => rw [shownToken_svg]
    | chtml => rw [shownToken_chtml, if_neg (by omega)]
    | mathml => exact absurd rfl hshape
  rw [glyphsLatex, List.map_singleton, joinGlyphs_singleton, htoken, functionOr_tokenOf hsolid]

theorem padded_beyond (hshape : shape ≠ .mathml) {c : Char} (hc : 0x7F < c.toNat) (hsolid : isBlank c = false) :
    Padded (Formula.textContent .mathml .default [c]) (glyphsLatex shape [c]) := by
  rw [glyphsLatex_beyond hshape hc hsolid]
  rcases textContent_beyond hc with h | ⟨h, hliteral⟩
  · exact .inl h.symm
  · rw [h]
    exact hliteral

/-- a word in boxes is its text -/
theorem glyphsLatex_boxes (hsolid : Solid cs) (h : ∀ c ∈ cs, c.toNat ≤ 0x7F) :
    glyphsLatex .chtml cs = SymbolTable.default.functionOr cs := by
  have htokens : cs.map (shownToken .chtml) = cs.map fun c => [c] := by
    apply List.map_congr_left
    intro c hc
    rw [shownToken_chtml, if_pos (Nat.lt_succ_of_le (h c hc))]
  rw [glyphsLatex, htokens, joinGlyphs_bare hsolid]

/-- a drawn word is its text with a space behind it -/
theorem glyphsLatex_drawing (hne : cs ≠ []) (hsolid : Solid cs) (h : ∀ c ∈ cs, IsPadded c) :
    glyphsLatex .svg cs = SymbolTable.default.functionOr (cs ++ [' ']) := by
  have htokens : cs.map (shownToken .svg) = cs.map fun c => [c, ' '] := by
    apply List.map_congr_left
    intro c hc
    rw [shownToken_svg, tokenOf_of_isPadded (h c hc)]
  rw [glyphsLatex, htokens, joinGlyphs_padded hsolid hne]

/-- **a leaf in boxes shows its text, padded at most** -/
theorem padded_boxes (h : LeafText IsSolid cs) : Padded (Formula.textContent .mathml .default cs) (glyphsLatex .chtml cs) := by
  rcases h with ⟨-, hword⟩ | ⟨c, rfl, hc, hsolid⟩
  · have hascii : ∀ c ∈ cs, c.toNat ≤ 0x7F := by
      intro c hc
      exact (hword c hc).1
    rw [textContent_ascii hascii, glyphsLatex_boxes (fun c hc => (hword c hc).2) hascii]
    exact .inl rfl
  · exact padded_beyond (by decide) hc hsolid

/-- a space stands only behind a character beyond ASCII -/
theorem spaced_boxes (h : LeafText IsSolid cs) : Spaced (Formula.textContent .mathml .default cs) (glyphsLatex .chtml cs) := by
  rcases h with ⟨-, hword⟩ | ⟨c, rfl, hc, hsolid⟩
  · have hascii : ∀ c ∈ cs, c.toNat ≤ 0x7F := by
      intro c hc
      exact (hword c hc).1
    rw [textContent_ascii hascii, glyphsLatex_boxes (fun c hc => (hword c hc).2) hascii]
    exact .refl _
  · rw [glyphsLatex_beyond (by decide) hc hsolid]
    rcases textContent_beyond hc with h | ⟨h, hliteral⟩
    · rw [h]
      exact .refl _
    · rw [h]
      rcases hliteral with htoken | htoken <;> rw [htoken]
      · exact .refl _
      · exact .padded hc hsolid .nil

/-- **a drawn leaf shows its text, padded at most** -/
theorem padded_drawing (h : LeafText IsPadded cs) : Padded (Formula.textContent .mathml .default cs) (glyphsLatex .svg cs) := by
  rcases h with ⟨hne, hword⟩ | ⟨c, rfl, hc, hsolid⟩
  · have hascii : ∀ c ∈ cs, c.toNat ≤ 0x7F := by
      intro c hc
      exact (hword c hc).1
    have hsolid : Solid cs := by
      intro c hc
      exact (isSolid_of_isPadded (hascii c hc) (hword c hc).2).1
    rw [textContent_ascii hascii, glyphsLatex_drawing hne hsolid fun c hc => (hword c hc).2]
    exact padded_functionOr (.inr rfl)
  · exact padded_beyond (by decide) hc hsolid

end Untypeset
