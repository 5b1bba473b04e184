import Untypeset.Proofs.Number.Binary64
import Untypeset.Proofs.Rendering.Plain
import Untypeset.Proofs.Symbol.GlyphCode

/-!
Reading back the drawing of an expression. Its parts are drawn in place, apart from an anonymous group around each argument
of a fraction and around what stands under a radical. The glyphs of a drawing are read by their positions; those of a leaf
stand in the order of its characters (`glyphCodes_leaf`), and all glyphs of a structure are its characters in some order
(`glyphCodes_perm`).
-/

namespace Untypeset

open Untypeset.Markup Untypeset.Number Untypeset.Rendering Untypeset.Symbol Untypeset.Text

/-! ## Positions -/

/-- the position of a character in its leaf -/
def Glyph.offset (glyph : Glyph) : Binary64 :=
  Svg.addShifts .zero (Expression.useOf glyph)

/-- the characters of a leaf are drawn without positions, or from left to right -/
def Glyph.InOrder (glyphs : List Glyph) : Prop :=
  (∀ g ∈ glyphs, g.x = none ∧ g.transform = none) ∨ glyphs.Pairwise fun a b => a.offset.less b.offset = true

instance (glyphs : List Glyph) : Decidable (Glyph.InOrder glyphs) :=
  inferInstanceAs (Decidable (_ ∨ _))

/-- no character stands to the left of an earlier one -/
theorem Glyph.InOrder.pairwise {glyphs : List Glyph} (h : Glyph.InOrder glyphs) :
    glyphs.Pairwise fun a b => b.offset.less a.offset = false := by
  rcases h with h | h
  · rw [List.pairwise_iff_forall_sublist]
    intro a b hab
    have hoffset : ∀ g ∈ glyphs, g.offset = Glyph.offset ⟨'x', none, none⟩ := by
      intro g hg
      obtain ⟨hx, htransform⟩ := h g hg
      rw [Glyph.offset, Glyph.offset, Expression.useOf, Expression.useOf, hx, htransform]
      rfl
    rw [hoffset a (hab.subset (by simp)), hoffset b (hab.subset (by simp))]
    exact Binary64.less_self _
  · exact h.imp Binary64.less_asymm

theorem Rendering.Shape.kind_svg : Shape.svg.kind = Svg.kind := rfl

namespace Expression

/-! ## Nodes -/

theorem svg_eq (e : Expression) : ∃ children, e.svg = group e.kind e.marks.attributes children := by
  cases e <;> exact ⟨_, rfl⟩

theorem kind_group (kind : Kind) (attributes : List (String × String)) (children : List Node)
    (h : kind ≠ .ignored) (htext : kind ≠ .bareText) : Svg.kind (group kind attributes children) = kind := by
  cases kind <;> first | rfl | exact absurd rfl h | exact absurd rfl htext

theorem kind_svg (e : Expression) : Svg.kind e.svg = e.kind := by
  obtain ⟨children, h⟩ := e.svg_eq
  rw [h]
  exact kind_group _ _ _ e.kind_ne_ignored e.kind_ne_bareText

theorem attr?_svg {name : String} (h : name ≠ "data-mml-node") (e : Expression) :
    e.svg.attr? name = e.marks.attributes.lookup name := by
  obtain ⟨children, he⟩ := e.svg_eq
  rw [he, group, Node.attr?, List.lookup_cons, beq_eq_false_iff_ne.2 h]

/-- the kind of an anonymous group -/
theorem kind_bare_svg (children : List Node) : Svg.kind (bare "g" children) = .container := rfl

theorem filter_svgs (es : List Expression) :
    ((es.map svg).filter fun child => Svg.kind child ≠ .ignored) = es.map svg := by
  rw [List.filter_eq_self]
  intro node hnode
  obtain ⟨e, -, rfl⟩ := List.mem_map.1 hnode
  rw [kind_svg]
  simpa using e.kind_ne_ignored

/-! ## Glyphs -/

theorem isGlyph_useOf (g : Glyph) : Svg.isGlyph (useOf g) = true := by
  have hcode : String.ofList (Glyph.code g.char) ≠ "" := by
    intro h
    have := congrArg String.toList h
    rw [String.toList_ofList] at this
    exact hexDigits_ne_nil _ this
  have hname : (useOf g).isNamed "use" = true := rfl
  have hattr : (useOf g).attr? "data-c" = some (String.ofList (Glyph.code g.char)) := rfl
  rw [Svg.isGlyph, hname, Node.nonempty?, hattr, Option.filter_some, if_pos (by simpa using hcode)]
  rfl

theorem codeOf_useOf (g : Glyph) (trail : List (Nat × Node)) : Svg.codeOf ⟨useOf g, trail⟩ = Glyph.code g.char := by
  have hattr : (useOf g).attr? "data-c" = some (String.ofList (Glyph.code g.char)) := rfl
  rw [Svg.codeOf, hattr]
  exact String.toList_ofList

/-- the glyphs of a leaf stand directly in it -/
theorem glyphs_group (kind : Kind) (attributes : List (String × String)) (glyphs : List Glyph) :
    Svg.glyphs (group kind attributes (glyphs.map useOf)) =
      Located.siblings (group kind attributes (glyphs.map useOf)) [] 0 (glyphs.map useOf) := by
  have hdescendants : ∀ (parent : Node) (index : Nat) (gs : List Glyph),
      Located.subtrees parent [] index (gs.map useOf) = Located.siblings parent [] index (gs.map useOf) := by
    intro parent index gs
    induction gs generalizing index with
    | nil => rfl
    | cons g rest ih =>
      rw [List.map_cons, Located.subtrees, ih, Located.siblings]
      rfl
  rw [Svg.glyphs, show (Located.top (group kind attributes (glyphs.map useOf))).descendants = _ from hdescendants _ 0 glyphs]
  refine List.filter_eq_self.2 ?_
  intro place hplace
  obtain ⟨g, -, hg⟩ := List.mem_map.1 (Located.mem_siblings hplace)
  rw [← hg]
  exact isGlyph_useOf g

theorem map_offset_siblings (parent : Node) (index : Nat) (glyphs : List Glyph) :
    (Located.siblings parent [] index (glyphs.map useOf)).map Svg.offset = glyphs.map Glyph.offset := by
  induction glyphs generalizing index with
  | nil => rfl
  | cons g rest ih =>
    rw [List.map_cons, Located.siblings, List.map_cons, List.map_cons, ih]
    rfl

theorem map_codeOf_siblings (parent : Node) (index : Nat) (glyphs : List Glyph) :
    (Located.siblings parent [] index (glyphs.map useOf)).map Svg.codeOf = (glyphs.map (·.char)).map Glyph.code := by
  induction glyphs generalizing index with
  | nil => rfl
  | cons g rest ih =>
    rw [List.map_cons, Located.siblings, List.map_cons, ih, codeOf_useOf]
    rfl

/-- the glyphs of a leaf are read in the order of its characters -/
theorem glyphCodes_leaf {glyphs : List Glyph} (h : Glyph.InOrder glyphs) (kind : Kind)
    (attributes : List (String × String)) :
    Svg.glyphCodes (group kind attributes (glyphs.map useOf)) = (glyphs.map (·.char)).map Glyph.code := by
  have hpairwise : (Svg.glyphs (group kind attributes (glyphs.map useOf))).Pairwise
      fun a b => !(Svg.offset b).less (Svg.offset a) := by
    have hoffsets := h.pairwise
    rw [glyphs_group]
    rw [← List.pairwise_map (f := Glyph.offset) (R := fun a b => b.less a = false),
      ← map_offset_siblings (group kind attributes (glyphs.map useOf)) 0, List.pairwise_map] at hoffsets
    exact hoffsets.imp fun hless => by simp [hless]
  rw [Svg.glyphCodes, Svg.leftToRight, List.mergeSort_of_pairwise hpairwise, glyphs_group, map_codeOf_siblings]

/-! ### All glyphs of a structure -/

/-- the codes of the glyphs among nodes and below them in document order -/
def drawnCodes (nodes : List Node) : List (List Char) :=
  ((Node.nodesOf nodes).filter Svg.isGlyph).map fun node => ((node.attr? "data-c").getD "").toList

theorem drawnCodes_append (a b : List Node) : drawnCodes (a ++ b) = drawnCodes a ++ drawnCodes b := by
  rw [drawnCodes, Node.nodesOf_append, List.filter_append, List.map_append]
  rfl

theorem drawnCodes_cons (node : Node) (rest : List Node) : drawnCodes (node :: rest) = drawnCodes [node] ++ drawnCodes rest :=
  drawnCodes_append [node] rest

theorem drawnCodes_element {name : String} (h : name ≠ "use") (attributes : List (String × String)) (children : List Node) :
    drawnCodes [.element name attributes children] = drawnCodes children := by
  have hname : Svg.isGlyph (.element name attributes children) = false := by
    rw [Svg.isGlyph, show (Node.element name attributes children).isNamed "use" = false from
      beq_eq_false_iff_ne.2 fun heq => h (Option.some.inj heq), Bool.false_and]
  rw [drawnCodes, Node.nodesOf_singleton, Node.nodes, List.filter_cons_of_neg (by simp [hname])]
  rfl

theorem drawnCodes_group (kind : Kind) (attributes : List (String × String)) (children : List Node) :
    drawnCodes [group kind attributes children] = drawnCodes children :=
  drawnCodes_element (by decide) _ _

theorem drawnCodes_bare (children : List Node) : drawnCodes [bare "g" children] = drawnCodes children :=
  drawnCodes_element (by decide) _ _

theorem drawnCodes_useOf (g : Glyph) : drawnCodes [useOf g] = [Glyph.code g.char] := by
  have hnodes : (Node.nodesOf [useOf g]).filter Svg.isGlyph = [useOf g] := by
    change [useOf g].filter Svg.isGlyph = [useOf g]
    rw [List.filter_cons_of_pos (isGlyph_useOf g), List.filter_nil]
  rw [drawnCodes, hnodes, List.map_singleton]
  exact congrArg (fun code => [code]) (codeOf_useOf g [])

theorem drawnCodes_useOfs (glyphs : List Glyph) :
    drawnCodes (glyphs.map useOf) = (glyphs.map (·.char)).map Glyph.code := by
  induction glyphs with
  | nil => rfl
  | cons g rest ih => rw [List.map_cons, drawnCodes_cons, drawnCodes_useOf, ih]; rfl

theorem drawnCodes_line : drawnCodes [line] = [] := rfl

mutual

/-- the glyphs of a drawing show the characters of the expression -/
theorem codes_svg (e : Expression) : drawnCodes [e.svg] = e.drawn.map Glyph.code := by
  cases e with
  | leaf kind marks glyphs => rw [svg, drawn, drawnCodes_group, drawnCodes_useOfs]
  | list kind marks items =>
    have ih := codes_svgs items
    rw [svg, drawnCodes_group]
    cases kind with
    | row | style => exact ih
    | sqrt =>
      rw [listDrawing, drawnCodes_cons, drawnCodes_cons drawnRadical, drawnCodes_bare, drawnCodes_line, drawnRadical,
        drawnCodes_group, drawnCodes_useOf, ih, drawn, List.map_append]
      rfl
  | pair kind marks first second =>
    have ih₁ := codes_svg first
    have ih₂ := codes_svg second
    rw [svg, drawn, drawnCodes_group, List.map_append]
    cases kind with
    | fraction =>
      rw [pairDrawing, drawnCodes_cons, drawnCodes_cons (bare "g" [second.svg]), drawnCodes_bare, drawnCodes_bare,
        drawnCodes_line, ih₁, ih₂, List.append_nil]
    | root | superscript | subscript | underscript | overscript => rw [pairDrawing, drawnCodes_cons, ih₁, ih₂]
  | triple kind marks base lower upper =>
    rw [svg, drawn, drawnCodes_group, drawnCodes_cons, drawnCodes_cons lower.svg, codes_svg base, codes_svg lower,
      codes_svg upper, List.map_append, List.map_append, List.append_assoc]

theorem codes_svgs (es : List Expression) : drawnCodes (svgs es) = (drawns es).map Glyph.code := by
  cases es with
  | nil => rfl
  | cons e rest => rw [svgs, drawns, drawnCodes_cons, codes_svg, codes_svgs, List.map_append]

end

/-- the glyphs of a node are those among the nodes below it, in some order -/
theorem glyphCodes_perm_drawnCodes (node : Node) : (Svg.glyphCodes node).Perm (drawnCodes node.children) := by
  have hcodes : (Svg.glyphs node).map Svg.codeOf = drawnCodes node.children := by
    rw [drawnCodes, ← show _ = Node.nodesOf node.children from Located.map_node_descendants (.top node), List.filter_map,
      List.map_map]
    rfl
  rw [← hcodes]
  exact (List.mergeSort_perm _ _).map _

/-- the glyphs of a structure are its characters in some order -/
theorem glyphCodes_perm (e : Expression) : (Shape.svg.glyphCodes e.svg).Perm (e.drawn.map Glyph.code) := by
  obtain ⟨children, h⟩ := e.svg_eq
  rw [← codes_svg, h, drawnCodes_group]
  exact glyphCodes_perm_drawnCodes _

/-! ### No text -/

mutual

theorem texts_svg (reader : Option Enclave) (e : Expression) : e.svg.textsFor reader = [] := by
  cases e with
  | leaf kind marks glyphs =>
    rw [svg, group, Node.textsFor]
    induction glyphs with
    | nil => rfl
    | cons glyph rest ih => rw [List.map_cons, Node.textsOfAll, ih]; rfl
  | list kind marks items =>
    have ih := texts_svgs reader items
    cases kind <;> simp [svg, group, listDrawing, drawnRadical, useOf, line, bare, Node.textsFor, Node.textsOfAll, ih]
  | pair kind marks first second =>
    have ih₁ := texts_svg reader first
    have ih₂ := texts_svg reader second
    cases kind <;> simp [svg, group, pairDrawing, line, bare, Node.textsFor, Node.textsOfAll, ih₁, ih₂]
  | triple kind marks base lower upper =>
    have ih₁ := texts_svg reader base
    have ih₂ := texts_svg reader lower
    have ih₃ := texts_svg reader upper
    simp [svg, group, Node.textsFor, Node.textsOfAll, ih₁, ih₂, ih₃]

theorem texts_svgs (reader : Option Enclave) (es : List Expression) : Node.textsOfAll reader (svgs es) = [] := by
  cases es with
  | nil => rfl
  | cons e rest => rw [svgs, Node.textsOfAll, texts_svg, texts_svgs]; rfl

end

theorem trimmed_svg (e : Expression) : e.svg.trimmed = [] := by
  have htexts := e.texts_svg e.svg.enclave?
  obtain ⟨children, h⟩ := e.svg_eq
  rw [h] at htexts ⊢
  rw [group] at htexts ⊢
  rw [Node.trimmed, Node.content, Node.shownTexts, htexts]
  rfl

/-! ## Parts -/

/-- the drawings of the arguments, and the groups around them -/
def drawings : Expression → List Node
  | .leaf .. => []
  | .list .row _ items | .list .style _ items => items.map svg
  | .list .sqrt _ items => [bare "g" (svgs items)]
  | .pair .fraction _ first second => [bare "g" [svg first], bare "g" [svg second]]
  | .pair .root _ first second | .pair .superscript _ first second | .pair .subscript _ first second
  | .pair .underscript _ first second | .pair .overscript _ first second => [svg first, svg second]
  | .triple _ _ base lower upper => [svg base, svg lower, svg upper]

/-- a radical sign is known by its only glyph -/
theorem isRadicalSign_drawnRadical : Svg.isRadicalSign drawnRadical = true := by
  have horder : Glyph.InOrder [⟨radicalSign, none, none⟩] := .inl (by simp)
  have hcodes : Svg.glyphCodes drawnRadical = [Glyph.code radicalSign] := glyphCodes_leaf horder .operator []
  have hcode : Glyph.code radicalSign = "221A".toList := by decide +kernel
  rw [Svg.isRadicalSign, hcodes, hcode]
  rfl

theorem map_node_children_svg (e : Expression) (trail : List (Nat × Node)) :
    (Svg.children ⟨e.svg, trail⟩).map (·.node) = e.svg.children.filter fun child => Svg.kind child ≠ .ignored :=
  map_node_countedChildren ..

/-- **the parts of a structure of a drawing are the drawings of its arguments** -/
theorem partPlaces_svg {e : Expression} (h : e.isLeaf = false) (trail : List (Nat × Node)) :
    (Formula.partPlaces .svg ⟨e.svg, trail⟩).map (·.node) = e.drawings := by
  have hkind : Svg.kind e.svg = e.kind := kind_svg e
  have hne : ∀ e : Expression, Svg.kind e.svg ≠ .ignored := by
    intro e
    rw [kind_svg]; exact e.kind_ne_ignored
  have hline : Svg.kind line = .ignored := rfl
  have of_children (hsqrt : e.kind ≠ .sqrt)
      (hchildren : (e.svg.children.filter fun child => Svg.kind child ≠ .ignored) = e.drawings) :
      (Formula.partPlaces .svg ⟨e.svg, trail⟩).map (·.node) = e.drawings := by
    rw [Formula.partPlaces, if_neg (by rw [Shape.kind_svg, hkind]; exact hsqrt), ← hchildren]
    exact map_node_children_svg e trail
  cases e with
  | leaf => cases h
  | list kind marks items =>
    cases kind with
    | row | style =>
      refine of_children (by simp [Expression.kind, ListKind.kind]) ?_
      rw [svg, group, Node.children, listDrawing, svgs_eq, filter_svgs, drawings]
    | sqrt =>
      rw [Formula.partPlaces, if_pos (by rw [Shape.kind_svg, hkind]; rfl)]
      change ((Svg.children _).filter fun child => !Svg.isRadicalSign child.node).map _ = _
      have hfilter := congrArg (List.filter fun child => !Svg.isRadicalSign child)
        (map_node_children_svg (list .sqrt marks items) trail)
      rw [List.filter_map] at hfilter
      refine hfilter.trans ?_
      have hdrawn : Svg.kind drawnRadical = .operator := rfl
      have hgroup : Svg.isRadicalSign (bare "g" (svgs items)) = false := rfl
      change List.filter _ (List.filter _ [bare "g" (svgs items), drawnRadical, line]) = [bare "g" (svgs items)]
      simp [kind_bare_svg, hdrawn, hline, hgroup, isRadicalSign_drawnRadical]
  | pair kind marks first second =>
    refine of_children (by cases kind <;> simp [Expression.kind, PairKind.kind]) ?_
    rw [svg, group, Node.children]
    cases kind <;> simp [pairDrawing, drawings, kind_bare_svg, hne, hline]
  | triple kind marks base lower upper =>
    refine of_children (by cases kind <;> simp [Expression.kind, TripleKind.kind]) ?_
    rw [svg, group, Node.children]
    simp [drawings, hne]

/-- the group around arguments is a container with nothing else in it -/
theorem partPlaces_bare_svg (items : List Expression) (trail : List (Nat × Node)) :
    (Formula.partPlaces .svg ⟨bare "g" (svgs items), trail⟩).map (·.node) = items.map svg := by
  have hparts : Formula.partPlaces .svg ⟨bare "g" (svgs items), trail⟩ = Svg.children ⟨bare "g" (svgs items), trail⟩ := rfl
  rw [hparts, Svg.children, map_node_countedChildren]
  change (svgs items).filter _ = _
  rw [svgs_eq, filter_svgs]

end Expression

end Untypeset
