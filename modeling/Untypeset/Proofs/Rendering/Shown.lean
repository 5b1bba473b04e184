import Untypeset.Proofs.Expression
import Untypeset.Proofs.Formula.Integral
import Untypeset.Proofs.Rendering.Reading
import Untypeset.Proofs.Symbol.GlyphCode

/-!
What a node shows: characters of text, or glyphs of characters. Content, raw characters and code points follow from the
characters alone, and so does whether a node reads as an integral sign.
-/

namespace Untypeset

open Untypeset.Latex Untypeset.Markup Untypeset.Rendering Untypeset.Symbol Untypeset.Text

variable {shape : Shape} {node : Node} {cs : List Char} {f : Formula}

/-- the token of the glyph of a character -/
def shownToken (shape : Shape) (c : Char) : Latex :=
  Formula.glyphToken shape .default (Glyph.code c)

theorem readCode?_code (c : Char) : readCode? (Glyph.code c) = some c.toNat :=
  readCode?_hexDigits c.toNat

theorem glyphChar?_code (c : Char) : Formula.glyphChar? (Glyph.code c) = some c := by
  rw [Formula.glyphChar?, readCode?_code, Option.bind_some, charOfCode?_toNat]

theorem filterMap_codes (cs : List Char) : (cs.map Glyph.code).filterMap Formula.glyphChar? = cs := by
  rw [List.filterMap_map, show Formula.glyphChar? ∘ Glyph.code = some from funext glyphChar?_code, List.filterMap_some]

/-- codes of characters in another order are the codes of the characters in this order -/
theorem exists_chars_of_perm {codes : List (List Char)} (h : codes.Perm (cs.map Glyph.code)) :
    ∃ ds : List Char, codes = ds.map Glyph.code ∧ ds.Perm cs := by
  have hcodes : ∀ codes : List (List Char), (∀ code ∈ codes, ∃ c, Glyph.code c = code) →
      codes = (codes.filterMap Formula.glyphChar?).map Glyph.code := by
    intro codes hall
    induction codes with
    | nil => rfl
    | cons code rest ih =>
      obtain ⟨c, rfl⟩ := hall code List.mem_cons_self
      rw [List.filterMap_cons_some (glyphChar?_code c), List.map_cons,
        ← ih fun code hcode => hall code (List.mem_cons_of_mem _ hcode)]
  refine ⟨codes.filterMap Formula.glyphChar?, hcodes codes fun code hcode => ?_, ?_⟩
  · obtain ⟨c, -, hc⟩ := List.mem_map.1 (h.subset hcode)
    exact ⟨c, hc⟩
  · have hperm := h.filterMap Formula.glyphChar?
    rwa [filterMap_codes] at hperm

theorem shownToken_svg : shownToken .svg = tokenOf := by
  funext c
  rw [shownToken, glyphToken_of_readCode? (readCode?_code c)]
  rfl

theorem shownToken_chtml (c : Char) : shownToken .chtml c = if c.toNat < 0x80 then [c] else tokenOf c := by
  rw [shownToken, glyphToken_of_readCode? (readCode?_code c)]
  by_cases h : c.toNat < 0x80 <;> simp [Shape.keepsAsciiBare, h, tokenOf]

/-- the token of a glyph is that of its character, or an ASCII character as it is -/
theorem shownToken_cases (hshape : shape ≠ .mathml) (c : Char) :
    shownToken shape c = tokenOf c ∨ c.toNat < 0x80 ∧ shownToken shape c = [c] := by
  cases shape with
  | svg => exact .inl (by rw [shownToken_svg])
  | chtml =>
    rw [shownToken_chtml]
    split
    · rename_i hascii
      exact .inr ⟨hascii, rfl⟩
    · exact .inl rfl
  | mathml => exact absurd rfl hshape

theorem settled_shownToken {c : Char} (hc : isBlank c = false) (hshape : shape ≠ .mathml) :
    Settled c (shownToken shape c) := by
  rcases shownToken_cases hshape c with h | ⟨hascii, h⟩
  · rw [h]
    exact settled_tokenOf hc
  · rw [h]
    refine settled_of_isLiteral hc ?_ (.inl rfl)
    rintro rfl
    exact absurd hascii (by decide)

theorem trimEnd_shownToken_ne {c : Char} (hc : isBlank c = false) (hback : c ≠ '\\') (hshape : shape ≠ .mathml) :
    trimEnd (shownToken shape c) ≠ ['\\'] := by
  rcases shownToken_cases hshape c with h | ⟨-, h⟩
  · rw [h]
    exact trimEnd_tokenOf_ne hc hback
  · rw [h, trimEnd_of_isLiteral hc (.inl rfl)]
    simpa using hback

/-- a character leaves no trace in an encoding if its token is empty -/
theorem shownToken_eq_nil_iff (hshape : shape ≠ .mathml) (c : Char) : shownToken shape c = [] ↔ tokenOf c = [] := by
  rcases shownToken_cases hshape c with h | ⟨hascii, h⟩
  · rw [h]
  · simp [h, tokenOf_ne_nil hascii]

theorem loud_shownToken (hshape : shape ≠ .mathml) (cs : List Char) : loud (shownToken shape) cs = loud tokenOf cs := by
  apply List.filter_congr
  intro c _
  simp [shownToken_eq_nil_iff hshape c]

/-! ## Integral signs -/

/-- glyphs of these characters read as an integral sign: their tokens are joined to its control word -/
def DrawsIntegral (shape : Shape) (cs : List Char) : Prop :=
  trim (joinGlyphs (cs.map (shownToken shape))) = integralWord

/-- text of these characters reads as an integral sign: it is the sign or its control word -/
def WritesIntegral (cs : List Char) : Prop :=
  cs = ['∫'] ∨ cs = integralWord

instance (shape : Shape) (cs : List Char) : Decidable (DrawsIntegral shape cs) :=
  inferInstanceAs (Decidable (_ = _))

instance (cs : List Char) : Decidable (WritesIntegral cs) :=
  inferInstanceAs (Decidable (_ ∨ _))

/-- **glyphs without a backslash read as an integral sign if no other one leaves a trace** -/
theorem drawsIntegral_iff (hshape : shape ≠ .mathml) (hsolid : Solid cs) (hback : '\\' ∉ cs) :
    DrawsIntegral shape cs ↔ loud tokenOf cs = ['∫'] := by
  rw [DrawsIntegral, ← loud_shownToken hshape]
  apply trim_joinGlyphs_eq_integral (fun c hc => settled_shownToken (hsolid c hc) hshape)
  intro c hc
  exact trimEnd_shownToken_ne (hsolid c hc) (fun heq => hback (heq ▸ hc)) hshape

theorem drawsIntegral_sign (hshape : shape ≠ .mathml) : DrawsIntegral shape ['∫'] := by
  have hsettled : Settled '∫' (shownToken shape '∫') := settled_shownToken rfl hshape
  rw [DrawsIntegral, List.map_singleton, joinGlyphs_singleton, trim, hsettled.start]
  exact hsettled.word.2 rfl

/-- characters without a backslash are drawn and written as an integral sign alike, also in another order, unless silent ones
go with the sign -/
theorem drawsIntegral_iff_writesIntegral {ds : List Char} (hshape : shape ≠ .mathml) (hsolid : Solid cs) (hback : '\\' ∉ cs)
    (hloud : loud tokenOf cs = ['∫'] → cs = ['∫']) (hds : Solid ds) (hback' : '\\' ∉ ds)
    (hperm : (loud tokenOf ds).Perm (loud tokenOf cs)) : DrawsIntegral shape ds ↔ WritesIntegral cs := by
  have hword : cs ≠ integralWord := by
    rintro rfl
    exact hback (by decide)
  rw [drawsIntegral_iff hshape hds hback', WritesIntegral, or_iff_left hword]
  constructor
  · intro h
    rw [h] at hperm
    exact hloud (List.perm_singleton.1 hperm.symm)
  · rintro rfl
    have hsign : loud tokenOf ['∫'] = ['∫'] :=
      (drawsIntegral_iff hshape hsolid hback).1 (drawsIntegral_sign hshape)
    rw [hsign] at hperm
    exact List.perm_singleton.1 hperm

/-! ## Nodes -/

/-- a node without text shows the glyphs of these characters -/
structure ShowsGlyphs (shape : Shape) (node : Node) (cs : List Char) : Prop where
  trimmed : node.trimmed = []
  codes : shape.glyphCodes node = cs.map Glyph.code

/-- a node of plain MathML shows these characters as text -/
structure ShowsText (node : Node) (cs : List Char) : Prop where
  trimmed : node.trimmed = cs
  solid : Solid cs

namespace ShowsGlyphs

theorem content (h : ShowsGlyphs shape node cs) :
    Formula.content shape .default node = SymbolTable.default.functionOr (joinGlyphs (cs.map (shownToken shape))) := by
  rw [Formula.content, h.trimmed, if_pos List.isEmpty_nil, Formula.glyphContent, h.codes]
  cases cs with
  | nil => rfl
  | cons c rest => rw [if_neg (by simp), List.map_map]; rfl

theorem raw (h : ShowsGlyphs shape node cs) : Formula.rawText shape node = cs := by
  rw [Formula.rawText, h.trimmed, if_pos List.isEmpty_nil, h.codes, filterMap_codes]

theorem points (h : ShowsGlyphs shape node cs) : Formula.codePoints shape node = cs.map (·.toNat) := by
  have hread : readCode? ∘ Glyph.code = fun c => some c.toNat := funext readCode?_code
  rw [Formula.codePoints, h.codes, h.trimmed, List.filterMap_map, hread, List.filterMap_eq_map']
  cases cs <;> rfl

/-- **the test for an integral sign reads the glyphs** -/
theorem isIntegral (hshows : ShowsGlyphs shape node cs) (h : Reads shape node f) (hshape : shape ≠ .mathml)
    (hsolid : Solid cs) : f.isIntegral = true ↔ DrawsIntegral shape cs := by
  have hkey (word : Latex) (hword : word = integralWord ∨ word = ['∫']) :
      f.key = word ↔ trim (joinGlyphs (cs.map (shownToken shape))) = word := by
    rw [Formula.key, h.content, hshows.content, trim_functionOr_eq_iff hword]
  have hsign : trim (joinGlyphs (cs.map (shownToken shape))) ≠ ['∫'] := by
    intro heq
    have hsettled : ∀ c ∈ cs, Settled c (shownToken shape c) := by
      intro c hc
      exact settled_shownToken (hsolid c hc) hshape
    exact sign_not_mem_joinGlyphs hsettled (mem_trim (heq ▸ List.mem_singleton_self _))
  have hraw : trim f.facts.raw = ['∫'] → DrawsIntegral shape cs := by
    rw [h.raw, hshows.raw, trim_of_solid hsolid]
    rintro rfl
    exact drawsIntegral_sign hshape
  have hword : "\\int".toList = integralWord := String.toList_ofList
  rw [Formula.isIntegral, hword]
  simp only [Bool.or_eq_true, decide_eq_true_eq]
  rw [hkey _ (.inl rfl), hkey _ (.inr rfl)]
  unfold DrawsIntegral at hraw ⊢
  tauto

end ShowsGlyphs

namespace ShowsText

theorem content (h : ShowsText node cs) : Formula.content .mathml .default node = Formula.textContent .mathml .default cs := by
  rw [Formula.content, h.trimmed]
  cases cs with
  | nil => rfl
  | cons c rest => rfl

theorem raw (h : ShowsText node cs) : Formula.rawText .mathml node = cs := by
  rw [rawText_mathml, h.trimmed]

theorem points (h : ShowsText node cs) : Formula.codePoints .mathml node = cs.map (·.toNat) := by
  rw [Formula.codePoints, h.trimmed]
  rfl

/-- the entry of a text is that of its only character, which lies beyond ASCII -/
theorem textSymbol?_eq_some {s : List Char} {entry : Latex} (h : Formula.textSymbol? .mathml .default s = some entry) :
    ∃ c, s = [c] ∧ tokenOf c = entry := by
  obtain ⟨c, hs, -, hglyph⟩ := exists_of_textSymbol? h
  exact ⟨c, hs, by rw [tokenOf, SymbolTable.codePointToken, hglyph, Option.getD_some]⟩

/-- a text is written as the token of its only character, or it is taken as it is -/
theorem textContent_cases (s : List Char) :
    (∃ c, s = [c] ∧ Formula.textContent .mathml .default s = tokenOf c) ∨
      s ≠ ['∫'] ∧ Formula.textContent .mathml .default s = SymbolTable.default.functionOr s := by
  cases h : Formula.textSymbol? .mathml .default s with
  | some entry =>
    obtain ⟨c, hs, htoken⟩ := textSymbol?_eq_some h
    exact .inl ⟨c, hs, by rw [Formula.textContent, h, Option.getD_some, htoken]⟩
  | none =>
    refine .inr ⟨?_, by rw [Formula.textContent, h, Option.getD_none]⟩
    rintro rfl
    have hentry : Formula.textSymbol? .mathml .default ['∫'] ≠ none := by
      rw [Formula.textSymbol?, charToken?_singleton, glyph?_default]
      decide
    exact hentry h

/-- **the test for an integral sign reads the text** -/
theorem isIntegral (hshows : ShowsText node cs) (h : Reads .mathml node f) : f.isIntegral = true ↔ WritesIntegral cs := by
  have hword : "\\int".toList = integralWord := String.toList_ofList
  have hraw : trim f.facts.raw = ['∫'] ↔ cs = ['∫'] := by rw [h.raw, hshows.raw, trim_of_solid hshows.solid]
  rw [Formula.isIntegral, hword]
  simp only [Bool.or_eq_true, decide_eq_true_eq]
  rw [hraw, Formula.key, h.content, hshows.content, WritesIntegral]
  rcases textContent_cases cs with ⟨c, rfl, hcontent⟩ | ⟨hne, hcontent⟩
  · have hc : isBlank c = false := hshows.solid c List.mem_cons_self
    have hsettled := settled_tokenOf hc
    have hsign : trim (tokenOf c) ≠ ['∫'] := by
      intro heq
      exact hsettled.sign (mem_trim (heq ▸ List.mem_singleton_self _))
    have hint : trim (tokenOf c) = integralWord ↔ c = '∫' := by rw [trim, hsettled.start, hsettled.word]
    rw [hcontent, hint]
    simp [hsign, integralWord]
  · rw [hcontent, trim_functionOr_eq_iff (.inr rfl), trim_functionOr_eq_iff (.inl rfl), trim_of_solid hshows.solid]
    tauto

end ShowsText

end Untypeset
