import Untypeset.Proofs.Rendering.Boxes
import Untypeset.Proofs.Rendering.Drawings

/-!
Leaves that carry codes and characters side by side. A glyph may be given by a code or by the character itself. The list of a
leaf's glyph codes has both kinds, in order, and so have its code points; but as soon as one character is given by itself, the
text of the leaf and its content are the characters given so, and those given by a code are left out (`rawText_boxes`,
`content_boxes`, `drawing_read`). A leaf of boxes shows all its characters exactly if it is not mixed (`mixed_leaves`).
-/

namespace Untypeset

open Untypeset.Markup Untypeset.Rendering Untypeset.Symbol Untypeset.Text
open Expression (drawnCodes drawnCodes_cons drawnCodes_element glyphCodes_perm_drawnCodes)

/-- a glyph by its code, or text that stands for itself -/
inductive Piece where
  | glyph (code : List Char)
  | text (content : List Char)
  deriving DecidableEq, Repr

namespace Piece

/-- the text that stands for itself -/
def literal : Piece → List Char
  | glyph _ => []
  | text content => content

/-- the characters that a piece stands for -/
def characters : Piece → List Char
  | glyph code => (Formula.glyphChar? code).toList
  | text content => content

/-- the code of a glyph -/
def given : Piece → List (List Char)
  | glyph code => [code]
  | text _ => []

/-- the codes of a piece, those of its characters where they stand for themselves -/
def codes : Piece → List (List Char)
  | glyph code => [code]
  | text content => content.map fun c => hexDigits c.toNat

end Piece

/-- the text that stands for itself in a row of pieces -/
def literals (pieces : List Piece) : List Char :=
  pieces.flatMap Piece.literal

/-- a glyph box of a piece: it has a code in its class and no text, or no code and one visible character -/
inductive IsBox : Piece → Node → Prop
  | glyph {attributes : List (String × String)} {code : List Char} :
    Chtml.classCode? ((attributes.lookup "class").getD "").toList = some code →
    IsBox (.glyph code) (.element "mjx-c" attributes [])
  | text {attributes : List (String × String)} {kind : TextKind} {content : String} {c : Char} :
    Chtml.classCode? ((attributes.lookup "class").getD "").toList = none → kind.isShownIn none = true →
    content.toList = [c] → isBlank c = false → IsBox (.text [c]) (.element "mjx-c" attributes [.text kind content])

/-- the drawing of a piece, as an element around it shows it: a reference to a glyph, or an element with text -/
inductive IsDrawing (reader : Option Enclave) : Piece → Node → Prop
  | glyph {attributes : List (String × String)} {code : String} :
    attributes.lookup "data-c" = some code → code ≠ "" →
    IsDrawing reader (.glyph code.toList) (.element "use" attributes [])
  | text {attributes : List (String × String)} {kind : TextKind} {content : String} :
    kind.isShownIn reader = true →
    IsDrawing reader (.text content.toList) (.element "text" attributes [.text kind content])

/-! ## Boxes -/

section

variable {pieces : List Piece} {piece : Piece} {node : Node} {nodes : List Node}

theorem IsBox.texts (h : IsBox piece node) : (node.textsFor none).flatten = piece.literal := by
  cases h with
  | glyph => rfl
  | text _ hkind hcontent _ =>
    rw [Node.textsFor, Node.textsOfAll, Node.textsFor, if_pos hkind, hcontent]
    rfl

theorem IsBox.solid (h : IsBox piece node) : Solid piece.literal := by
  cases h with
  | glyph => exact nofun
  | text _ _ _ hsolid =>
    intro d hd
    rw [List.mem_singleton.1 hd]
    exact hsolid

theorem IsBox.codes (h : IsBox piece node) : Chtml.codesOf [node] = piece.codes := by
  cases h with
  | glyph hcode =>
    rw [Chtml.codesOf, Node.nodesOf_singleton, Node.nodes, Node.nodesOf, List.filter_cons_of_pos rfl, List.filter_nil,
      List.flatMap_singleton, Chtml.boxCodes]
    dsimp only [Node.attr?]
    rw [hcode]
    rfl
  | @text attributes kind content c hcode hkind hcontent _ =>
    have hshown : (Node.element "mjx-c" attributes [.text kind content]).content = [c] := by
      have htexts : Node.textsFor none (.text kind content) = [[c]] := by rw [Node.textsFor, if_pos hkind, hcontent]
      rw [Node.content, Node.shownTexts, show (Node.element "mjx-c" attributes [.text kind content]).enclave? = none from rfl,
        Node.textsFor, Node.textsOfAll, htexts]
      rfl
    rw [Chtml.codesOf, Node.nodesOf_singleton, Node.nodes, Node.nodesOf_singleton, Node.nodes, List.filter_cons_of_pos rfl,
      List.filter_cons_of_neg (by simp [Node.isNamed, Node.name?]), List.filter_nil, List.flatMap_singleton, Chtml.boxCodes]
    dsimp only [Node.attr?]
    rw [hcode, hshown]
    rfl

theorem texts_boxes (h : List.Forall₂ IsBox pieces nodes) : (Node.textsOfAll none nodes).flatten = literals pieces := by
  induction h with
  | nil => rfl
  | cons hbox _ ih =>
    rw [Node.textsOfAll, List.flatten_append, hbox.texts, ih]
    rfl

theorem codes_boxes (h : List.Forall₂ IsBox pieces nodes) : Chtml.codesOf nodes = pieces.flatMap Piece.codes := by
  induction h with
  | nil => rfl
  | cons hbox _ ih => rw [Chtml.codesOf_cons, hbox.codes, ih, List.flatMap_cons]

theorem solid_literals (h : List.Forall₂ IsBox pieces nodes) : Solid (literals pieces) := by
  induction h with
  | nil => exact nofun
  | cons hbox _ ih =>
    intro c hc
    rcases List.mem_append.1 hc with hc | hc
    · exact hbox.solid c hc
    · exact ih c hc

/-- no leaf of styled boxes is an enclave -/
theorem enclave?_of_leaf_chtml (h : (Chtml.kind node).isLeaf = true) : node.enclave? = none := by
  refine enclave?_of_leaf ?_ h
  intro entry hentry attributes children
  simp only [enclaveNames, List.mem_cons, List.not_mem_nil, or_false] at hentry
  rcases hentry with rfl | rfl | rfl | rfl | rfl <;> rfl

/-! ## Characters of codes -/

theorem glyphChar?_hexDigits (c : Char) : Formula.glyphChar? (hexDigits c.toNat) = some c := by
  rw [Formula.glyphChar?, readCode?_hexDigits, Option.bind_some, charOfCode?_toNat]

/-- the codes of a row of pieces stand for all its characters -/
theorem filterMap_piece_codes (pieces : List Piece) :
    (pieces.flatMap Piece.codes).filterMap Formula.glyphChar? = pieces.flatMap Piece.characters := by
  rw [List.filterMap_flatMap]
  apply List.flatMap_congr
  intro piece _
  cases piece with
  | glyph code => cases hchar : Formula.glyphChar? code <;> simp [Piece.codes, Piece.characters, hchar]
  | text content =>
    rw [Piece.codes, Piece.characters, List.filterMap_map]
    exact (List.filterMap_congr fun c _ => glyphChar?_hexDigits c).trans (List.filterMap_some)

/-- codes that are all unreadable are not those of characters -/
theorem literals_of_unreadable (h : (pieces.flatMap Piece.codes).filterMap readCode? = []) : literals pieces = [] := by
  rw [List.filterMap_eq_nil_iff] at h
  rw [literals, List.flatMap_eq_nil_iff]
  intro piece hpiece
  cases piece with
  | glyph => rfl
  | text content =>
    cases content with
    | nil => rfl
    | cons c rest =>
      have hcode := h (hexDigits c.toNat) (List.mem_flatMap.2 ⟨_, hpiece, List.mem_cons_self⟩)
      rw [readCode?_hexDigits] at hcode
      cases hcode

/-! ## Leaves of boxes -/

variable {name : String} {attributes : List (String × String)}

theorem trimmed_boxes (hleaf : (Chtml.kind (.element name attributes nodes)).isLeaf = true)
    (h : List.Forall₂ IsBox pieces nodes) : (Node.element name attributes nodes).trimmed = literals pieces := by
  rw [Node.trimmed, Node.content, Node.shownTexts, enclave?_of_leaf_chtml hleaf, Node.textsFor, texts_boxes h,
    trim_of_solid (solid_literals h)]

theorem glyphCodes_boxes (h : List.Forall₂ IsBox pieces nodes) :
    Shape.chtml.glyphCodes (.element name attributes nodes) = pieces.flatMap Piece.codes :=
  (Chtml.glyphCodes_eq _).trans (codes_boxes h)

/-- the code points of a leaf of boxes are those of all pieces, in order -/
theorem codePoints_boxes (hleaf : (Chtml.kind (.element name attributes nodes)).isLeaf = true)
    (h : List.Forall₂ IsBox pieces nodes) :
    Formula.codePoints .chtml (.element name attributes nodes) = (pieces.flatMap Piece.codes).filterMap readCode? := by
  rw [Formula.codePoints, glyphCodes_boxes h, trimmed_boxes hleaf h]
  split
  · rename_i hempty
    rw [List.isEmpty_iff] at hempty
    rw [literals_of_unreadable hempty, hempty, List.map_nil]
  · rfl

/-- its text is the characters of its literal pieces, and that of its codes only if there is none -/
theorem rawText_boxes (hleaf : (Chtml.kind (.element name attributes nodes)).isLeaf = true)
    (h : List.Forall₂ IsBox pieces nodes) :
    Formula.rawText .chtml (.element name attributes nodes) =
      if literals pieces = [] then pieces.flatMap Piece.characters else literals pieces := by
  rw [Formula.rawText, glyphCodes_boxes h, trimmed_boxes hleaf h, filterMap_piece_codes]
  simp only [List.isEmpty_iff]

/-- and so is its content, with the tokens of the codes for their characters -/
theorem content_boxes (symbols : SymbolTable) (hleaf : (Chtml.kind (.element name attributes nodes)).isLeaf = true)
    (h : List.Forall₂ IsBox pieces nodes) :
    Formula.content .chtml symbols (.element name attributes nodes) =
      symbols.functionOr
        (if literals pieces = [] then
          Latex.joinGlyphs ((pieces.flatMap Piece.codes).map (Formula.glyphToken .chtml symbols))
        else literals pieces) := by
  rw [Formula.content, glyphCodes_boxes h, trimmed_boxes hleaf h, Formula.glyphContent]
  simp only [List.isEmpty_iff]
  split
  · split
    · rename_i hnone
      rw [hnone]
      rfl
    · rfl
  · have hsymbol : Formula.textSymbol? .chtml symbols (literals pieces) = none := by
      unfold Formula.textSymbol?
      split <;> rfl
    rw [Formula.textContent, hsymbol, Option.getD_none]

/-- whether some pieces stand for themselves and others have a code -/
def IsMixed (pieces : List Piece) : Prop :=
  (∃ piece ∈ pieces, piece.literal = []) ∧ ∃ piece ∈ pieces, piece.literal ≠ []

theorem length_literals_le (pieces : List Piece) : (literals pieces).length ≤ (pieces.flatMap Piece.characters).length := by
  induction pieces with
  | nil => exact Nat.le_refl _
  | cons piece rest ih =>
    rw [literals, List.flatMap_cons, List.flatMap_cons, List.length_append, List.length_append]
    refine Nat.add_le_add ?_ ih
    cases piece with
    | glyph => exact Nat.zero_le _
    | text => exact Nat.le_refl _

/-- the literal pieces are all characters if there is no other piece -/
theorem literals_eq_iff (hchars : ∀ piece ∈ pieces, piece.characters ≠ []) :
    literals pieces = pieces.flatMap Piece.characters ↔ ∀ piece ∈ pieces, piece.literal ≠ [] := by
  induction pieces with
  | nil => exact iff_of_true rfl nofun
  | cons piece rest ih =>
    have hrest := ih fun p hp => hchars p (List.mem_cons_of_mem piece hp)
    have hhead := hchars piece List.mem_cons_self
    rw [literals, List.flatMap_cons, List.flatMap_cons, List.forall_mem_cons]
    cases piece with
    | text content =>
      have hliteral : (Piece.text content).literal = (Piece.text content).characters := rfl
      rw [hliteral, List.append_cancel_left_eq, ← literals, hrest]
      exact ⟨fun h => ⟨hhead, h⟩, And.right⟩
    | glyph code =>
      refine iff_of_false ?_ fun h => h.1 rfl
      intro h
      have hlength := congrArg List.length h
      have hpos := List.length_pos_iff.2 hhead
      have hle := length_literals_le rest
      rw [List.length_append, List.length_append, ← literals] at hlength
      simp only [Piece.literal, List.length_nil] at hlength
      omega

/-- a leaf of boxes shows all its characters exactly if it is not mixed -/
theorem rawText_complete_iff (hleaf : (Chtml.kind (.element name attributes nodes)).isLeaf = true)
    (h : List.Forall₂ IsBox pieces nodes) (hchars : ∀ piece ∈ pieces, piece.characters ≠ []) :
    Formula.rawText .chtml (.element name attributes nodes) = pieces.flatMap Piece.characters ↔ ¬ IsMixed pieces := by
  rw [rawText_boxes hleaf h]
  by_cases hnone : literals pieces = []
  · rw [if_pos hnone]
    refine iff_of_true rfl ?_
    rintro ⟨-, piece, hpiece, hliteral⟩
    exact hliteral (List.flatMap_eq_nil_iff.1 hnone piece hpiece)
  · rw [if_neg hnone, literals_eq_iff hchars]
    have hsome : ∃ piece ∈ pieces, piece.literal ≠ [] := by
      by_contra hall
      push Not at hall
      exact hnone (List.flatMap_eq_nil_iff.2 hall)
    rw [IsMixed, not_and_or, not_exists]
    constructor
    · intro hall
      exact .inl fun piece hpiece => hall piece hpiece.1 hpiece.2
    · rintro (hall | hno)
      · exact fun piece hpiece hliteral => hall piece ⟨hpiece, hliteral⟩
      · exact absurd hsome hno

/-! ## Drawings -/

theorem IsDrawing.texts {reader : Option Enclave} (h : IsDrawing reader piece node) :
    (node.textsFor reader).flatten = piece.literal := by
  cases h with
  | glyph => rfl
  | text hkind =>
    rw [Node.textsFor, Node.textsOfAll, Node.textsFor, if_pos hkind]
    simp [Node.textsOfAll, Piece.literal]

theorem IsDrawing.given {reader : Option Enclave} (h : IsDrawing reader piece node) : drawnCodes [node] = piece.given := by
  cases h with
  | @glyph attributes code hcode hfull =>
    have hglyph : Svg.isGlyph (.element "use" attributes []) = true := by
      simp [Svg.isGlyph, Node.isNamed, Node.name?, Node.nonempty?, Node.attr?, hcode, hfull]
    rw [drawnCodes, Node.nodesOf_singleton, Node.nodes, Node.nodesOf, List.filter_cons_of_pos hglyph, List.filter_nil,
      List.map_singleton]
    dsimp only [Node.attr?]
    rw [hcode]
    rfl
  | text =>
    rw [drawnCodes_element (by decide)]
    rfl

theorem drawings {reader : Option Enclave} (h : List.Forall₂ (IsDrawing reader) pieces nodes) :
    (Node.textsOfAll reader nodes).flatten = literals pieces ∧ drawnCodes nodes = pieces.flatMap Piece.given := by
  induction h with
  | nil => exact ⟨rfl, rfl⟩
  | cons hdrawing _ ih =>
    rw [Node.textsOfAll, List.flatten_append, hdrawing.texts, ih.1, drawnCodes_cons, hdrawing.given, ih.2]
    exact ⟨rfl, rfl⟩

/-- **what a drawing of glyphs and text is read as**: its codes are those of all its glyphs, in some order, but its text is what it
shows as text, if that is not blank, and none of its glyphs -/
theorem drawing_read (h : List.Forall₂ (IsDrawing (Enclave.ofName? name)) pieces nodes) :
    (Svg.glyphCodes (.element name attributes nodes)).Perm (pieces.flatMap Piece.given) ∧
    Formula.rawText .svg (.element name attributes nodes) =
      if trim (literals pieces) = [] then (Svg.glyphCodes (.element name attributes nodes)).filterMap Formula.glyphChar?
      else trim (literals pieces) := by
  obtain ⟨htexts, hcodes⟩ := drawings h
  constructor
  · rw [← hcodes]
    exact glyphCodes_perm_drawnCodes _
  · have htrimmed : (Node.element name attributes nodes).trimmed = trim (literals pieces) := by
      rw [Node.trimmed, Node.content, Node.shownTexts, Node.textsFor]
      exact congrArg trim htexts
    rw [Formula.rawText, htrimmed]
    simp only [List.isEmpty_iff]
    rfl

/-! ## Mixed leaves -/

/-- **which leaves keep all their characters**. A leaf of boxes lists the codes and the code points of all of them; its text is
the characters of all boxes in order exactly if not some of them have a code and others a character, and its content is then
made of all of them, of their tokens or, where none has a code, of the characters as they are. In a mixed leaf both are the
literal characters alone. So it is in a drawing: with any text that is not blank, no glyph contributes to the text of the leaf -/
theorem mixed_leaves (symbols : SymbolTable) :
    (∀ name attributes nodes pieces, (Chtml.kind (.element name attributes nodes)).isLeaf = true →
      List.Forall₂ IsBox pieces nodes →
      Chtml.glyphCodes (.element name attributes nodes) = pieces.flatMap Piece.codes ∧
      Formula.codePoints .chtml (.element name attributes nodes) = (pieces.flatMap Piece.codes).filterMap readCode? ∧
      Formula.rawText .chtml (.element name attributes nodes) =
        (if literals pieces = [] then pieces.flatMap Piece.characters else literals pieces) ∧
      Formula.content .chtml symbols (.element name attributes nodes) =
        symbols.functionOr
          (if literals pieces = [] then
            Latex.joinGlyphs ((pieces.flatMap Piece.codes).map (Formula.glyphToken .chtml symbols))
          else literals pieces) ∧
      ((∀ piece ∈ pieces, piece.characters ≠ []) →
        (Formula.rawText .chtml (.element name attributes nodes) = pieces.flatMap Piece.characters ↔ ¬ IsMixed pieces))) ∧
    (∀ name attributes nodes pieces, List.Forall₂ (IsDrawing (Enclave.ofName? name)) pieces nodes →
      (Svg.glyphCodes (.element name attributes nodes)).Perm (pieces.flatMap Piece.given) ∧
      Formula.rawText .svg (.element name attributes nodes) =
        if trim (literals pieces) = [] then (Svg.glyphCodes (.element name attributes nodes)).filterMap Formula.glyphChar?
        else trim (literals pieces)) := by
  refine ⟨?_, fun _ _ _ _ h => drawing_read h⟩
  intro name attributes nodes pieces hleaf h
  exact ⟨glyphCodes_boxes h, codePoints_boxes hleaf h, rawText_boxes hleaf h, content_boxes symbols hleaf h,
    rawText_complete_iff hleaf h⟩

end

/-- a leaf of an x with a code and a y without -/
def mixedLeaf : Node :=
  .element "mjx-mi" [] [.element "mjx-c" [("class", "mjx-c78")] [], .element "mjx-c" [] [.text .plain "y"]]

theorem boxes_mixedLeaf : List.Forall₂ IsBox [.glyph ['7', '8'], .text ['y']] mixedLeaf.children :=
  .cons (.glyph (by decide)) (.cons (.text (by decide) rfl (by decide) (by decide)) .nil)

theorem mixed_leaves_of_xy : Formula.codePoints .chtml mixedLeaf = [0x78, 0x79] ∧ Formula.rawText .chtml mixedLeaf = ['y'] := by
  obtain ⟨-, hpoints, hraw, -⟩ := (mixed_leaves .default).1 "mjx-mi" [] mixedLeaf.children _ (by decide) boxes_mixedLeaf
  exact ⟨hpoints.trans (by decide +kernel), hraw.trans (by decide)⟩

/-- the x of the leaf is lost, in its text as in its content -/
theorem mixedLeaf_loses_glyph : Chtml.kind mixedLeaf = .identifier ∧
    ∃ pieces, List.Forall₂ IsBox pieces mixedLeaf.children ∧ pieces.flatMap Piece.characters = ['x', 'y'] ∧
      Formula.rawText .chtml mixedLeaf = ['y'] ∧ Formula.content .chtml .default mixedLeaf = ['y'] :=
  ⟨by decide, [.glyph ['7', '8'], .text ['y']],
    .cons (.glyph (by decide)) (.cons (.text (by decide) rfl (by decide) (by decide)) .nil), by decide +kernel⟩

end Untypeset
