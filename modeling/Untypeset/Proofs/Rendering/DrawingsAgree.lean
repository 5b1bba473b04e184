import Untypeset.Conversion
import Untypeset.Proofs.Formula.Content
import Untypeset.Proofs.Latex.Unsized
import Untypeset.Proofs.Rendering.Drawings
import Untypeset.Proofs.Rendering.Encoding

/-!
Drawings and plain MathML of the same expressions are converted to LaTeX that is alike (`alike_drawings_mathml`). A drawing
puts a space behind every glyph, and nothing that a conversion looks at depends on it, apart from the test for a bare
exponent 2. Parentheses are sized alike because no source that conversion makes holds a sized one already.
-/

namespace Untypeset

open Untypeset.Latex Untypeset.Markup Untypeset.Rendering Untypeset.Symbol Untypeset.Text

/-! ## Unsized leaves -/

theorem unsized_macro {name : Latex} (h : SymbolTable.default.isFunction name = true) : Unsized (functionMacro name) := by
  have all : ∀ name ∈ spelledFunctions.1, Unsized ('\\' :: name ++ [' ']) := by decide
  exact all _ (mem_of_isFunction h)

theorem unsized_operators : ∀ entry ∈ SymbolTable.default.operators, Unsized entry.2 := by
  rw [SymbolTable.default, defaultOperators_eq]
  decide

/-- no layout, no function and no operator brings in a sized parenthesis -/
theorem stable_unsized : Stable .default Unsized where
  word := by decide
  named _ := unsized_macro
  operator := unsized_operators
  append := Unsized.append
  group := fun h => (Unsized.append (a := ['\x7b']) (by decide) h).append (by decide)
  trim := Unsized.trim
  trimEnd := Unsized.trimEnd

theorem unsized_tokenOf {c : Char} (h : c ≠ '\\') : Unsized (tokenOf c) := by
  have hentries : ∀ entry ∈ spelledGlyphs, Unsized entry.2 := by decide +kernel
  rcases tokenOf_cases c with hentry | ⟨-, hliteral⟩
  · exact hentries _ hentry
  · refine Unsized.of_plain ?_
    have hspace : '\\' ≠ ' ' := by decide
    rcases hliteral with htoken | htoken <;> rw [htoken] <;> simp [Ne.symm h, hspace]

variable {cs : List Char}

theorem LeafText.not_backslash (h : LeafText IsPadded cs) : ∀ c ∈ cs, c ≠ '\\' := by
  intro c hc
  rcases h with ⟨-, hword⟩ | ⟨d, rfl, hd, -⟩
  · exact (isSolid_of_isPadded (hword c hc).1 (hword c hc).2).2
  · rintro rfl
    rw [← List.mem_singleton.1 hc] at hd
    exact absurd hd (by decide)

theorem unsized_textContent (h : LeafText IsPadded cs) : Unsized (Formula.textContent .mathml .default cs) := by
  rcases ShowsText.textContent_cases cs with ⟨c, rfl, hcontent⟩ | ⟨-, hcontent⟩
  · rw [hcontent]
    exact unsized_tokenOf (h.not_backslash c List.mem_cons_self)
  · rw [hcontent]
    exact stable_unsized.compositional.functionOr (Unsized.of_plain fun hmem => h.not_backslash _ hmem rfl)

theorem unsized_glyphsLatex (h : LeafText IsPadded cs) : Unsized (glyphsLatex .svg cs) := by
  refine stable_unsized.compositional.functionOr
    (stable_unsized.compositional.joinGlyphs (stable_unsized.separated (by decide)) fun token htoken => ?_)
  obtain ⟨c, hc, rfl⟩ := List.mem_map.1 htoken
  rw [shownToken_svg]
  exact unsized_tokenOf (h.not_backslash c hc)

/-! ## Likeness as a closeness -/

/-- an exponent reads the same whether or not it is set in braces for being a bare 2 -/
theorem alike_exponentiated (a b : Latex) : Alike (exponentiated a b) (a ++ braced "^" b) := by
  unfold exponentiated
  split
  · rename_i h
    rw [h]
    exact (Alike.refl a).append rfl
  · exact .refl _

/-- unsized sources that are alike -/
structure UnsizedAlike (s t : Latex) : Prop where
  alike : Alike s t
  left : Unsized s
  right : Unsized t

theorem closeness_unsizedAlike : Closeness .default UnsizedAlike where
  word w hw := ⟨.refl _, stable_unsized.word w hw, stable_unsized.word w hw⟩
  named name h := ⟨.refl _, unsized_macro h, unsized_macro h⟩
  operator entry h := ⟨.refl _, unsized_operators entry h, unsized_operators entry h⟩
  append ha hb := ⟨ha.alike.append hb.alike, ha.left.append hb.left, ha.right.append hb.right⟩
  group h := ⟨((Alike.refl ['\x7b']).append h.alike).append (.refl _), stable_unsized.group h.left,
    stable_unsized.group h.right⟩
  trim h := ⟨h.alike.trim, h.left.trim, h.right.trim⟩
  trimEnd h := ⟨h.alike.trimEnd, h.left.trimEnd, h.right.trimEnd⟩
  blank := by
    intro s t h
    rw [Bool.eq_iff_iff, List.isEmpty_iff, List.isEmpty_iff, trim_eq_nil_iff, trim_eq_nil_iff, h.alike.squash_eq_nil_iff]
  prime := by
    intro s t h
    rw [Bool.eq_iff_iff, contains_primeGlyphs, contains_primeGlyphs, h.alike.squash_eq_singleton_iff,
      h.alike.squash_eq_singleton_iff]
  exponentiated := by
    intro a a' b b' ha hb
    have hexponent : Alike (exponentiated a b) (exponentiated a' b') :=
      ((alike_exponentiated a b).trans (ha.alike.append (hb.alike.braced "^"))).trans (alike_exponentiated a' b').symm
    exact ⟨hexponent, stable_unsized.compositional.exponentiated ha.left hb.left,
      stable_unsized.compositional.exponentiated ha.right hb.right⟩

namespace Expression

/-! ## Drawings as an encoding -/

/-- a leaf holds a word of ASCII characters that the table pads and nothing else, or one character beyond ASCII, and its
glyphs are drawn from left to right -/
def Aligned : Expression → Prop
  | .leaf _ _ glyphs => LeafText IsPadded (glyphs.map (·.char)) ∧ Glyph.InOrder glyphs
  | .list .. | .pair .. | .triple .. => True

/-- a structure under two limits holds no integral sign -/
def SignlessBase : Expression → Prop
  | .triple _ _ base _ _ => base.isLeaf = true ∨ '∫' ∉ base.text
  | .leaf .. | .list .. | .pair .. => True

/-- an expression whose drawing reads as its MathML does -/
def Drawable (e : Expression) : Prop :=
  e.Aligned ∧ e.SignlessBase

instance : (e : Expression) → Decidable e.Aligned
  | .leaf .. => inferInstanceAs (Decidable (_ ∧ _))
  | .list .. | .pair .. | .triple .. => .isTrue trivial

instance : (e : Expression) → Decidable e.SignlessBase
  | .triple .. => inferInstanceAs (Decidable (_ ∨ _))
  | .leaf .. | .list .. | .pair .. => .isTrue trivial

instance (e : Expression) : Decidable e.Drawable :=
  inferInstanceAs (Decidable (_ ∧ _))

theorem shows_svg (e : Expression) : ∃ cs, Shows .svg Drawable e e.svg cs := by
  by_cases hleaf : e.isLeaf = true ∧ e.Drawable
  · cases e with
    | leaf kind marks glyphs =>
      have hcodes : Shape.svg.glyphCodes (leaf kind marks glyphs).svg = (glyphs.map (·.char)).map Glyph.code :=
        glyphCodes_leaf hleaf.2.1.2 _ _
      exact ⟨glyphs.map (·.char), ⟨trimmed_svg _, hcodes⟩, fun _ _ => List.Perm.refl _, fun _ _ => rfl⟩
    | list | pair | triple => cases hleaf.1
  · obtain ⟨cs, hcs, hperm⟩ := exists_chars_of_perm e.glyphCodes_perm
    refine ⟨cs, ⟨trimmed_svg e, hcs⟩, fun p hp => ?_, fun h hfit => absurd ⟨h, hfit⟩ hleaf⟩
    exact (hperm.filter p).trans (List.Perm.of_eq (filter_drawn_eq hp e))

theorem laysOut_group (e : Expression) : LaysOut .svg svg e (bare "g" [e.svg]) :=
  .inr ⟨rfl, partPlaces_bare_svg [e]⟩

theorem suits_drawable : Suits .svg UnsizedAlike Drawable where
  solid := by
    intro e hleaf h
    cases e with
    | leaf => exact LeafText.solid (fun _ hascii hc => (isSolid_of_isPadded hascii hc).1) h.1.1
    | list | pair | triple => cases hleaf
  close := by
    intro e hleaf h
    cases e with
    | leaf => exact ⟨.of_squash (padded_drawing h.1.1).squash_eq, unsized_textContent h.1.1, unsized_glyphsLatex h.1.1⟩
    | list | pair | triple => cases hleaf
  padded := by
    intro e hleaf h
    cases e with
    | leaf => exact padded_drawing h.1.1
    | list | pair | triple => cases hleaf

/-- a base without an integral sign is drawn and written alike -/
theorem drawsIntegral_of_drawable {kind : TripleKind} {marks : Marks} {base lower upper : Expression} {node : Node}
    {cs : List Char} (hshows : Shows .svg Drawable base node cs)
    (hfit : (triple kind marks base lower upper).Everywhere Drawable) :
    base.isLeaf = true ∨ (DrawsIntegral .svg cs ↔ WritesIntegral base.text) := by
  have hbase : base.Everywhere Drawable := hfit.part (by simp [parts])
  have hsignless : base.isLeaf = true ∨ '∫' ∉ base.text := hfit.here.2
  apply hsignless.imp_right
  intro hsign
  have hback : '\\' ∉ base.text := by
    intro hmem
    refine forall_mem_text (Q := fun c => c ≠ '\\') base (fun s hs hleaf => ?_) _ hmem rfl
    cases s with
    | leaf => exact LeafText.not_backslash (hbase _ hs).1.1
    | list | pair | triple => cases hleaf
  apply hshows.drawsIntegral_iff (by decide) (suits_drawable.solid_text hbase) hback
  intro hloud
  have hmem : '∫' ∈ loud tokenOf base.text := by simp [hloud]
  exact absurd (List.mem_filter.1 hmem).1 hsign

/-- **drawings are read back** -/
theorem encodes_svg : Encodes .svg svg Drawable where
  byGlyphs := by decide
  kind := kind_svg
  attr := by
    intro e name hname
    refine attr?_svg ?_ e
    rintro rfl
    exact absurd hname (by decide)
  shows := shows_svg
  list := by
    intro kind marks items hsqrt
    cases kind with
    | row | style => exact partPlaces_svg rfl
    | sqrt => exact absurd rfl hsqrt
  radicand marks items := ⟨_, partPlaces_svg rfl, .inr ⟨_, rfl, rfl, partPlaces_bare_svg items⟩⟩
  pair := by
    intro kind marks first second
    have hparts := partPlaces_svg (e := pair kind marks first second) rfl
    cases kind with
    | fraction => exact ⟨_, _, hparts, laysOut_group first, laysOut_group second, nofun, nofun⟩
    | superscript => exact ⟨_, _, hparts, .inl rfl, .inl rfl, fun _ => rfl, nofun⟩
    | overscript => exact ⟨_, _, hparts, .inl rfl, .inl rfl, nofun, fun _ => shows_svg second⟩
    | root | subscript | underscript => exact ⟨_, _, hparts, .inl rfl, .inl rfl, nofun, nofun⟩
  triple := by
    intro kind marks base lower upper
    obtain ⟨cs, hshows⟩ := shows_svg base
    exact ⟨_, _, _, partPlaces_svg rfl, .inl rfl, .inl rfl, .inl rfl, cs, hshows, drawsIntegral_of_drawable hshows⟩

theorem partPlaces_svgRoot (es : List Expression) (trail : List (Nat × Node)) :
    (Formula.partPlaces .svg ⟨svgRoot es, trail⟩).map (·.node) = es.map svg := by
  have hplaces : Formula.partPlaces .svg ⟨svgRoot es, trail⟩ = Svg.children ⟨svgRoot es, trail⟩ := rfl
  rw [hplaces, Svg.children, map_node_countedChildren]
  change (svgs es).filter _ = _
  rw [svgs_eq, filter_svgs]

end Expression

/-- **drawings and MathML of the same expressions are converted alike**: without their blanks the two results differ at most
in braces around an exponent 2 -/
theorem alike_drawings_mathml (es : List Expression) (h : ∀ e ∈ es, e.Everywhere Expression.Drawable)
    (trail trail' : List (Nat × Node)) :
    plainSquares (squash (convertAt .mathml .default ⟨Expression.mathmlRoot es, trail⟩).value) =
      plainSquares (squash (convertAt .svg .default ⟨Expression.svgRoot es, trail'⟩).value) := by
  have hlatex := Twin.rootLatex closeness_unsizedAlike Expression.encodes_svg Expression.suits_drawable h rfl
    (Expression.partPlaces_svgRoot es) ⟨trail, rfl⟩ ⟨trail', rfl⟩
  exact hlatex.alike.sized hlatex.left hlatex.right

namespace Expression

/-- a root of a square over an integral, its upper limit drawn digit by digit -/
def rootOverIntegral : Expression :=
  .pair .fraction unmarked
    (.list .sqrt unmarked [.pair .superscript unmarked (leafOf .identifier ['x']) (leafOf .number ['2'])])
    (.triple .subsup unmarked (leafOf .operator ['∫']) (leafOf .number ['0'])
      (.leaf .number unmarked [⟨'1', none, some "translate(0,0)"⟩, ⟨'2', some "500", none⟩]))

end Expression

open Expression in
theorem alike_drawings_mathml_of_root :
    (∀ e ∈ [rootOverIntegral], e.Everywhere Drawable) ∧
      plainSquares (squash (convertAt .mathml .default ⟨mathmlRoot [rootOverIntegral], []⟩).value) =
        plainSquares (squash (convertAt .svg .default ⟨svgRoot [rootOverIntegral], []⟩).value) :=
  have hdrawable : ∀ e ∈ [rootOverIntegral], e.Everywhere Drawable := by decide +kernel
  ⟨hdrawable, alike_drawings_mathml [rootOverIntegral] hdrawable [] []⟩

end Untypeset
