import Untypeset.Conversion
import Untypeset.Proofs.Rendering.Boxes
import Untypeset.Proofs.Rendering.Encoding

/-!
Styled boxes and plain MathML of the same expressions are converted to the same LaTeX, apart from spaces behind characters
beyond ASCII (`spaced_boxes_mathml`). The one place where the boxes may show more than the MathML does is the base of a
structure with two limits, where a row of glyphs can read as an integral sign although its text does not.
-/

namespace Untypeset

open Untypeset.Latex Untypeset.Markup Untypeset.Rendering Untypeset.Symbol Untypeset.Text

/-! ## Spaces as a closeness -/

theorem Latex.closeness_spaced : Closeness .default Spaced where
  word := fun _ _ => .refl _
  named := fun _ _ => .refl _
  operator := fun _ _ => .refl _
  append := Spaced.append
  group := fun h => ((Spaced.refl ['\x7b']).append h).append (.refl _)
  trim := Spaced.trim
  trimEnd := Spaced.trimEnd
  blank := by
    intro s t h
    rw [Bool.eq_iff_iff, List.isEmpty_iff, List.isEmpty_iff, trim_eq_nil_iff, trim_eq_nil_iff, h.squash]
  prime := by
    intro s t h
    rw [Bool.eq_iff_iff, contains_primeGlyphs, contains_primeGlyphs, h.squash]
  exponentiated := by
    intro a a' b b' ha hb
    have htwo : b = ['2'] ↔ b' = ['2'] := by
      have hascii : ∀ c ∈ (['2'] : Latex), c.toNat ≤ 0x7F := List.all_iff_forall_prop.1 (by decide)
      constructor
      · rintro rfl
        exact (hb.eq_of_ascii hascii).symm
      · rintro rfl
        exact hb.eq_of_ascii_right hascii
    unfold exponentiated
    simp only [htwo]
    split
    · exact ha.append (.refl _)
    · exact ha.append ((Spaced.refl _).append (.same _ hb) |>.append (.refl _))

namespace Expression

/-! ## Boxes as an encoding -/

/-- a leaf holds a word of ASCII characters, or one character beyond ASCII -/
def Worded : Expression → Prop
  | .leaf _ _ glyphs => LeafText IsSolid (glyphs.map (·.char))
  | .list .. | .pair .. | .triple .. => True

/-- the boxes of a structure under two limits read as an integral sign exactly if its text does -/
def ClearBase : Expression → Prop
  | .triple _ _ base _ _ => base.isLeaf = true ∨ (DrawsIntegral .chtml base.boxed ↔ WritesIntegral base.text)
  | .leaf .. | .list .. | .pair .. => True

/-- an expression whose boxes read as its MathML does -/
def Boxable (e : Expression) : Prop :=
  e.Worded ∧ e.ClearBase

instance : (e : Expression) → Decidable e.Worded
  | .leaf .. => inferInstanceAs (Decidable (LeafText _ _))
  | .list .. | .pair .. | .triple .. => .isTrue trivial

instance : (e : Expression) → Decidable e.ClearBase
  | .triple .. => inferInstanceAs (Decidable (_ ∨ _))
  | .leaf .. | .list .. | .pair .. => .isTrue trivial

instance (e : Expression) : Decidable e.Boxable :=
  inferInstanceAs (Decidable (_ ∧ _))

variable {Fit : Expression → Prop}

theorem shows_chtml {e : Expression} {node : Node} (htrimmed : node.trimmed = [])
    (hcodes : Shape.chtml.glyphCodes node = e.boxed.map Glyph.code) : Shows .chtml Fit e node e.boxed where
  glyphs := ⟨htrimmed, hcodes⟩
  perm := fun _ hp => filter_boxed_perm hp e
  leaf := by
    intro hleaf _
    cases e with
    | leaf => rfl
    | list | pair | triple => cases hleaf

theorem shows_chtml_self (e : Expression) : Shows .chtml Fit e e.chtml e.boxed :=
  shows_chtml e.trimmed_chtml e.glyphCodes_chtml

theorem shows_box (name : String) (e : Expression) : Shows .chtml Fit e (bare name [e.chtml]) e.boxed :=
  shows_chtml (trimmed_bare_chtml name e) (glyphCodes_bare_chtml e)

theorem laysOut_box {name : String} (e : Expression) (h : Chtml.kind (bare name [e.chtml]) = .container) :
    LaysOut .chtml chtml e (bare name [e.chtml]) :=
  .inr ⟨h, partPlaces_bare_chtml h⟩

/-- **boxes are read back** -/
theorem encodes_chtml : Encodes .chtml chtml Boxable where
  byGlyphs := by decide
  kind := kind_chtml
  attr e name _ := e.attr?_chtml name
  shows e := ⟨_, shows_chtml_self e⟩
  list := by
    intro kind marks items hsqrt
    cases kind with
    | row | style => exact partPlaces_chtml rfl
    | sqrt => exact absurd rfl hsqrt
  radicand marks items := ⟨_, partPlaces_chtml rfl, .inl rfl⟩
  pair := by
    intro kind marks first second
    have hparts := partPlaces_chtml (e := pair kind marks first second) rfl
    cases kind with
    | fraction | root | underscript => exact ⟨_, _, hparts, laysOut_box first rfl, laysOut_box second rfl, nofun, nofun⟩
    | superscript => exact ⟨_, _, hparts, .inl rfl, laysOut_box second rfl, fun _ => rfl, nofun⟩
    | subscript => exact ⟨_, _, hparts, .inl rfl, laysOut_box second rfl, nofun, nofun⟩
    | overscript =>
      exact ⟨_, _, hparts, laysOut_box first rfl, laysOut_box second rfl, nofun, fun _ => ⟨_, shows_box "mjx-over" second⟩⟩
  triple := by
    intro kind marks base lower upper
    have hparts := partPlaces_chtml (e := triple kind marks base lower upper) rfl
    have hclear (hfit : (triple kind marks base lower upper).Everywhere Boxable) :
        base.isLeaf = true ∨ (DrawsIntegral .chtml base.boxed ↔ WritesIntegral base.text) := hfit.here.2
    cases kind with
    | subsup => exact ⟨_, _, _, hparts, .inl rfl, .inl rfl, .inl rfl, _, shows_chtml_self base, hclear⟩
    | underover =>
      exact ⟨_, _, _, hparts, laysOut_box base rfl, laysOut_box lower rfl, laysOut_box upper rfl, _,
        shows_box "mjx-base" base, hclear⟩

theorem suits_boxable : Suits .chtml Spaced Boxable where
  solid := by
    intro e hleaf h
    cases e with
    | leaf => exact LeafText.solid (fun _ _ hc => hc) h.1
    | list | pair | triple => cases hleaf
  close := by
    intro e hleaf h
    cases e with
    | leaf => exact spaced_boxes h.1
    | list | pair | triple => cases hleaf
  padded := by
    intro e hleaf h
    cases e with
    | leaf => exact padded_boxes h.1
    | list | pair | triple => cases hleaf

/-- a base that holds neither a backslash nor an integral sign is clear -/
theorem clearBase_of_text {kind : TripleKind} {marks : Marks} {base : Expression} (lower upper : Expression)
    (hworded : base.Everywhere Worded) (hback : '\\' ∉ base.text) (hsign : '∫' ∉ base.text) :
    (triple kind marks base lower upper).ClearBase := by
  have hsolid : Solid base.text := by
    refine forall_mem_text (Q := fun c => isBlank c = false) base fun s hs hleaf => ?_
    cases s with
    | leaf => exact LeafText.solid (fun _ _ hc => hc) (hworded _ hs)
    | list | pair | triple => cases hleaf
  have hshows : Shows .chtml Worded base base.chtml base.boxed := shows_chtml_self base
  refine .inr (hshows.drawsIntegral_iff (by decide) hsolid hback fun hloud => ?_)
  have hmem : '∫' ∈ loud tokenOf base.text := by simp [hloud]
  exact absurd (List.mem_filter.1 hmem).1 hsign

theorem partPlaces_chtmlRoot (es : List Expression) (trail : List (Nat × Node)) :
    (Formula.partPlaces .chtml ⟨chtmlRoot es, trail⟩).map (·.node) = es.map chtml := by
  have hplaces : Formula.partPlaces .chtml ⟨chtmlRoot es, trail⟩ = Chtml.counted ⟨chtmlRoot es, trail⟩ := rfl
  rw [hplaces]
  exact map_node_counted_list rfl

end Expression

/-- **boxes and MathML of the same expressions are converted alike**: the two results differ in spaces behind characters
beyond ASCII only, and not at all without their blanks -/
theorem spaced_boxes_mathml (es : List Expression) (h : ∀ e ∈ es, e.Everywhere Expression.Boxable)
    (trail trail' : List (Nat × Node)) :
    Spaced (convertAt .mathml .default ⟨Expression.mathmlRoot es, trail⟩).value
        (convertAt .chtml .default ⟨Expression.chtmlRoot es, trail'⟩).value ∧
      squash (convertAt .mathml .default ⟨Expression.mathmlRoot es, trail⟩).value =
        squash (convertAt .chtml .default ⟨Expression.chtmlRoot es, trail'⟩).value := by
  have hlatex := Twin.rootLatex closeness_spaced Expression.encodes_chtml Expression.suits_boxable h rfl
    (Expression.partPlaces_chtmlRoot es) ⟨trail, rfl⟩ ⟨trail', rfl⟩
  have hspaced : Spaced (convertAt .mathml .default ⟨Expression.mathmlRoot es, trail⟩).value
      (convertAt .chtml .default ⟨Expression.chtmlRoot es, trail'⟩).value := hlatex.sized
  exact ⟨hspaced, hspaced.squash⟩

namespace Expression

/-- a base with the limits `a` and `b` -/
def limitsOf (base : Expression) : Expression :=
  .triple .underover unmarked base (leafOf .identifier ['a']) (leafOf .identifier ['b'])

/-- a quotient of a root and of a fenced row with two limits -/
def quotient : Expression :=
  .pair .fraction unmarked (.pair .root unmarked (leafOf .identifier ['é']) (leafOf .number ['3']))
    (limitsOf (.list .row unmarked
      [leafOf .operator ['('], leafOf .identifier ['s', 'i', 'n'], leafOf .operator ['ℓ'], leafOf .operator [')']]))

end Expression

open Expression in
/-- a quotient of a root and of a base with two limits, as boxes and as MathML -/
theorem spaced_boxes_mathml_of_quotient :
    (∀ e ∈ [quotient], e.Everywhere Boxable) ∧
      Spaced (convertAt .mathml .default ⟨mathmlRoot [quotient], []⟩).value
        (convertAt .chtml .default ⟨chtmlRoot [quotient], []⟩).value ∧
      squash (convertAt .mathml .default ⟨mathmlRoot [quotient], []⟩).value =
        squash (convertAt .chtml .default ⟨chtmlRoot [quotient], []⟩).value :=
  have hboxable : ∀ e ∈ [quotient], e.Everywhere Boxable := by decide +kernel
  ⟨hboxable, spaced_boxes_mathml [quotient] hboxable [] []⟩

/-! ## Bases that read as an integral sign in boxes only -/

namespace Expression

/-- an integral sign with an invisible script: its boxes leave a trace of the sign only -/
def hiddenScript : Expression :=
  limitsOf (.pair .subscript unmarked (leafOf .operator ['∫']) (leafOf .operator ['\u2061']))

/-- a root whose index comes first in boxes: they spell the control word of the sign, its text does not -/
def spelledRoot : Expression :=
  limitsOf (.pair .root unmarked (leafOf .identifier ['i', 'n', 't']) (leafOf .operator ['\\']))

end Expression

open Expression in
/-- every leaf of the two is a word or one character, yet boxes and MathML are not converted alike -/
theorem boxes_differ_from_mathml :
    (hiddenScript.Everywhere Worded ∧
        squash (convertAt .mathml .default ⟨mathmlRoot [hiddenScript], []⟩).value ≠
          squash (convertAt .chtml .default ⟨chtmlRoot [hiddenScript], []⟩).value) ∧
      spelledRoot.Everywhere Worded ∧
        squash (convertAt .mathml .default ⟨mathmlRoot [spelledRoot], []⟩).value ≠
          squash (convertAt .chtml .default ⟨chtmlRoot [spelledRoot], []⟩).value := by
  decide +kernel

end Untypeset
