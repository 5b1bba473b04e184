import Mathlib.Data.List.Find
import Untypeset.Conversion
import Untypeset.Proofs.Formula.Content
import Untypeset.Proofs.Formula.Lockstep
import Untypeset.Proofs.Markup.Places
import Untypeset.Proofs.Rendering.Counted

/-!
Trees that a shape reads alike. A relation between nodes is a likeness for a shape if related nodes have the same name, attributes,
kind and glyphs, and related children, both among the elements and among the children that count. Whatever a shape looks for in
a place, by name, by level or by kind, it finds in related places (`Likeness.partPlaces`); so if moreover related leaves show
the same text, the formulas read at related places are converted in lockstep (`Likeness.lockstep`).
-/

namespace Untypeset

open Untypeset.Markup Untypeset.Rendering Untypeset.Symbol Untypeset.Text

/-- places with related nodes -/
def Over (S : Node → Node → Prop) (a b : Located) : Prop :=
  S a.node b.node

theorem forall₂_over {S : Node → Node → Prop} {places others : List Located} :
    List.Forall₂ (Over S) places others ↔ List.Forall₂ S (places.map (·.node)) (others.map (·.node)) := by
  rw [List.forall₂_map_left_iff, List.forall₂_map_right_iff]
  rfl

/-- a relation that searches among elements cannot see: related nodes have the same name and attributes, and related elements
as children -/
structure Framed (S : Node → Node → Prop) : Prop where
  name : ∀ {a b}, S a b → a.name? = b.name?
  attr : ∀ {a b}, S a b → ∀ name, a.attr? name = b.attr? name
  elements : ∀ {a b}, S a b → List.Forall₂ S a.elements b.elements

/-- a relation that a shape cannot see: moreover, related nodes are of one kind, the children that count are related, and leaves
and the boxes of glyphs show the same text -/
structure Likeness (shape : Shape) (S : Node → Node → Prop) : Prop extends Framed S where
  kind : ∀ {a b}, S a b → shape.kind a = shape.kind b
  counted : ∀ {a b}, S a b → List.Forall₂ S (a.children.filter fun child => shape.kind child ≠ .ignored)
    (b.children.filter fun child => shape.kind child ≠ .ignored)
  leaf : ∀ {a b}, S a b → (shape.kind a).isLeaf = true → a.content = b.content
  box : ∀ {a b}, S a b → shape = .chtml → a.isNamed "mjx-c" = true → a.content = b.content

/-! ## Searches -/

theorem rel_find? {α β : Type} {R : α → β → Prop} {xs : List α} {ys : List β} {p : α → Bool} {q : β → Bool}
    (h : List.Forall₂ R xs ys) (hpq : ∀ {x y}, R x y → p x = q y) : Option.Rel R (xs.find? p) (ys.find? q) := by
  induction h with
  | nil => exact .none
  | @cons x y _ _ hxy _ ih =>
    rw [List.find?_cons, List.find?_cons, hpq hxy]
    cases q y with
    | true => exact .some hxy
    | false => exact ih

theorem rel_bind {α β γ δ : Type} {R : α → β → Prop} {T : γ → δ → Prop} {x : Option α} {y : Option β} {f : α → Option γ}
    {g : β → Option δ} (h : Option.Rel R x y) (hfg : ∀ {a b}, R a b → Option.Rel T (f a) (g b)) :
    Option.Rel T (x.bind f) (y.bind g) := by
  cases h with
  | none => exact .none
  | some hab => exact hfg hab

theorem rel_map {α β γ δ : Type} {R : α → β → Prop} {T : γ → δ → Prop} {x : Option α} {y : Option β} {f : α → γ} {g : β → δ}
    (h : Option.Rel R x y) (hfg : ∀ {a b}, R a b → T (f a) (g b)) : Option.Rel T (x.map f) (y.map g) := by
  cases h with
  | none => exact .none
  | some hab => exact .some (hfg hab)

/-! ## Elements -/

/-- the elements below a place in document order -/
def elementsBelow (place : Located) : List Located :=
  place.descendants.filter (·.node.isElement)

theorem elementsBelow_eq (place : Located) :
    elementsBelow place = (Chtml.elementsOf place).flatMap fun child => child :: elementsBelow child := by
  rw [elementsBelow, Located.descendants_eq, List.filter_flatMap, Chtml.elementsOf]
  induction place.children with
  | nil => rfl
  | cons child rest ih =>
    rw [List.flatMap_cons, ih]
    cases hchild : child.node with
    | text kind content =>
      have hbelow : child.descendants = [] := by
        rw [Located.descendants, hchild]
        rfl
      rw [hbelow, List.filter_cons_of_neg (by rw [hchild]; exact Bool.false_ne_true),
        List.filter_cons_of_neg (by rw [hchild]; exact Bool.false_ne_true), List.filter_nil, List.nil_append]
    | element name attributes children =>
      rw [List.filter_cons_of_pos (by rw [hchild]; rfl), List.filter_cons_of_pos (by rw [hchild]; rfl), List.flatMap_cons]
      rfl

/-- what no text is lies among the elements -/
theorem filter_descendants {p : Node → Bool} (hp : ∀ kind content, p (.text kind content) = false) (place : Located) :
    place.descendants.filter (fun below => p below.node) = (elementsBelow place).filter fun below => p below.node := by
  rw [elementsBelow, List.filter_filter]
  apply List.filter_congr
  intro below _
  cases below.node with
  | text kind content => rw [hp, Bool.false_and]
  | element => rw [Node.isElement, Bool.and_true]

/-- places with related nodes and with related elements around them -/
def Aligned (S : Node → Node → Prop) (a b : Located) : Prop :=
  Over S a b ∧ List.Forall₂ S (a.trail.map (·.2)) (b.trail.map (·.2))

namespace Framed

variable {S : Node → Node → Prop} {a b : Located}

theorem isNamed (hS : Framed S) (h : Over S a b) (name : String) : a.node.isNamed name = b.node.isNamed name := by
  rw [Node.isNamed, Node.isNamed, hS.name h]

theorem elementsOf (hS : Framed S) (h : Over S a b) :
    List.Forall₂ (Over S) (Chtml.elementsOf a) (Chtml.elementsOf b) := by
  rw [forall₂_over, Chtml.map_node_elementsOf, Chtml.map_node_elementsOf]
  exact hS.elements h

theorem aligned_elementsOf (hS : Framed S) (h : Aligned S a b) :
    List.Forall₂ (Aligned S) (Chtml.elementsOf a) (Chtml.elementsOf b) := by
  have htrail : ∀ place : Located, ∀ child ∈ Chtml.elementsOf place,
      child.trail.map (·.2) = place.node :: place.trail.map (·.2) := by
    intro place child hchild
    obtain ⟨i, hi⟩ := Located.trail_of_mem_children (List.mem_filter.1 hchild).1
    rw [hi, List.map_cons]
  obtain ⟨hlength, hover⟩ := List.forall₂_iff_zip.1 (hS.elementsOf h.1)
  refine List.forall₂_iff_zip.2 ⟨hlength, fun {p q} hpq => ⟨hover hpq, ?_⟩⟩
  obtain ⟨hp, hq⟩ := List.of_mem_zip hpq
  rw [htrail a p hp, htrail b q hq]
  exact .cons h.1 h.2

/-- the elements below aligned places are aligned -/
theorem aligned_elementsBelow (hS : Framed S) {a b : Located} (h : Aligned S a b) :
    List.Forall₂ (Aligned S) (elementsBelow a) (elementsBelow b) := by
  rw [elementsBelow_eq a, elementsBelow_eq b]
  have hchildren := (List.forall₂_and_left _ _).2 ⟨fun child hchild => hchild, hS.aligned_elementsOf h⟩
  refine List.rel_flatMap hchildren ?_
  rintro p q ⟨hp, hpq⟩
  exact .cons hpq (aligned_elementsBelow hS hpq)
termination_by a.node.size
decreasing_by exact Chtml.elementsOf_lt hp

/-! ## Glyphs -/

theorem addShifts (hS : Framed S) {m n : Node} (h : S m n) (total : Number.Binary64) :
    Svg.addShifts total m = Svg.addShifts total n := by
  rw [Svg.addShifts, Svg.addShifts, hS.attr h, hS.attr h]

/-- aligned glyphs are drawn at one position -/
theorem offset (hS : Framed S) (h : Aligned S a b) : Svg.offset a = Svg.offset b := by
  have hcarriers : List.Forall₂ S (Svg.carriers a) (Svg.carriers b) := by
    have hlength := h.2.length_eq
    rw [Svg.carriers, Svg.carriers, List.dropLast_eq_take, List.dropLast_eq_take, hlength]
    exact .cons h.1 (List.forall₂_take _ h.2)
  have hfold : ∀ {ms ns : List Node}, List.Forall₂ S ms ns → ∀ total : Number.Binary64,
      ms.foldl Svg.addShifts total = ns.foldl Svg.addShifts total := by
    intro ms ns hms
    induction hms with
    | nil => exact fun _ => rfl
    | cons hmn _ ih =>
      intro total
      rw [List.foldl_cons, List.foldl_cons, hS.addShifts hmn]
      exact ih _
  exact hfold hcarriers .zero

theorem isGlyph (hS : Framed S) (h : Over S a b) : Svg.isGlyph a.node = Svg.isGlyph b.node := by
  rw [Svg.isGlyph, Svg.isGlyph, hS.isNamed h, Node.nonempty?, Node.nonempty?, hS.attr h]

end Framed

/-- where a glyph is drawn, and its code -/
def glyphKey (glyph : Located) : Number.Binary64 × List Char :=
  (Svg.offset glyph, Svg.codeOf glyph)

/-- what a drawing shows depends on the positions and the codes of its glyphs alone -/
theorem glyphCodes_eq_keys (node : Node) :
    Svg.glyphCodes node =
      ((((Svg.glyphs node).map glyphKey).mergeSort fun x y => !y.1.less x.1).map (·.2)) := by
  have hsort : (Svg.leftToRight (Svg.glyphs node)).map glyphKey =
      ((Svg.glyphs node).map glyphKey).mergeSort fun x y => !y.1.less x.1 :=
    List.map_mergeSort fun _ _ _ _ => rfl
  rw [← hsort, List.map_map]
  rfl

theorem Framed.glyphCodes_svg {S : Node → Node → Prop} (hS : Framed S) {m n : Node} (h : S m n) :
    Svg.glyphCodes m = Svg.glyphCodes n := by
  have hglyphs (node : Node) : Svg.glyphs node = (elementsBelow (.top node)).filter fun place => Svg.isGlyph place.node :=
    filter_descendants (fun _ _ => rfl) _
  have haligned : List.Forall₂ (Aligned S) (Svg.glyphs m) (Svg.glyphs n) := by
    rw [hglyphs, hglyphs]
    refine List.rel_filter ?_ (hS.aligned_elementsBelow (a := .top m) (b := .top n) ⟨h, .nil⟩)
    intro p q hpq
    simp only [hS.isGlyph hpq.1]
  have hkeys : (Svg.glyphs m).map glyphKey = (Svg.glyphs n).map glyphKey := by
    rw [← List.forall₂_eq_eq_eq, List.forall₂_map_left_iff, List.forall₂_map_right_iff]
    refine haligned.imp fun p q hpq => ?_
    rw [glyphKey, glyphKey, hS.offset hpq, Svg.codeOf, Svg.codeOf, hS.attr hpq.1]
  rw [glyphCodes_eq_keys, glyphCodes_eq_keys, hkeys]

namespace Likeness

variable {shape : Shape} {S : Node → Node → Prop} {a b : Located}

theorem glyphCodes_chtml (hS : Likeness .chtml S) {m n : Node} (h : S m n) : Chtml.glyphCodes m = Chtml.glyphCodes n := by
  have hcodes (node : Node) : Chtml.glyphCodes node =
      ((elementsBelow (.top node)).filter (·.node.isNamed "mjx-c")).flatMap fun place => Chtml.boxCodes place.node := by
    rw [Chtml.glyphCodes]
    congr 1
    exact filter_descendants (p := (·.isNamed "mjx-c")) (fun _ _ => rfl) _
  have haligned : List.Forall₂ (Aligned S) ((elementsBelow (.top m)).filter (·.node.isNamed "mjx-c"))
      ((elementsBelow (.top n)).filter (·.node.isNamed "mjx-c")) := by
    refine List.rel_filter ?_ (hS.aligned_elementsBelow (a := .top m) (b := .top n) ⟨h, .nil⟩)
    intro p q hpq
    simp only [hS.isNamed hpq.1]
  have hboxes := (List.forall₂_and_left _ _).2 ⟨fun place hplace => (List.mem_filter.1 hplace).2, haligned⟩
  rw [hcodes, hcodes, List.flatMap_def, List.flatMap_def]
  congr 1
  rw [← List.forall₂_eq_eq_eq, List.forall₂_map_left_iff, List.forall₂_map_right_iff]
  refine hboxes.imp fun p q hpq => ?_
  rw [Chtml.boxCodes, Chtml.boxCodes, hS.attr hpq.2.1, hS.box hpq.2.1 rfl hpq.1]

/-- related nodes show the same glyphs -/
theorem glyphCodes (hS : Likeness shape S) {m n : Node} (h : S m n) : shape.glyphCodes m = shape.glyphCodes n := by
  cases shape with
  | svg => exact hS.glyphCodes_svg h
  | chtml => exact hS.glyphCodes_chtml h
  | mathml => rfl

theorem countedChildren (hS : Likeness shape S) (h : Over S a b) :
    List.Forall₂ (Over S) (countedChildren shape.kind a) (countedChildren shape.kind b) := by
  rw [forall₂_over, map_node_countedChildren, map_node_countedChildren]
  exact hS.counted h

/-- a likeness between trees that have a property throughout -/
theorem and (hS : Likeness shape S) {Q : Node → Prop} (hQ : ∀ {node child}, Q node → child ∈ node.children → Q child) :
    Likeness shape fun m n => Q m ∧ S m n where
  name h := hS.name h.2
  attr h := hS.attr h.2
  elements h := (List.forall₂_and_left _ _).2 ⟨fun _ hchild => hQ h.1 (List.mem_filter.1 hchild).1, hS.elements h.2⟩
  kind h := hS.kind h.2
  counted h := (List.forall₂_and_left _ _).2 ⟨fun _ hchild => hQ h.1 (List.mem_filter.1 hchild).1, hS.counted h.2⟩
  leaf h := hS.leaf h.2
  box h := hS.box h.2

/-! ## Searches by levels -/

/-- a search by levels comes to an end on the same level, at related places -/
theorem searchLevels? (hS : Likeness shape S) (name : String) {level other : List Located}
    (h : List.Forall₂ (Over S) level other) :
    Option.Rel (Over S) (Chtml.searchLevels? name level) (Chtml.searchLevels? name other) := by
  have hfind : Option.Rel (Over S) (level.find? (·.node.isNamed name)) (other.find? (·.node.isNamed name)) :=
    rel_find? h fun hab => hS.isNamed hab name
  induction level using Chtml.searchLevels?.induct name generalizing other with
  | case1 =>
    cases h
    rw [Chtml.searchLevels?]
    exact .none
  | case2 place rest found hfound =>
    rw [hfound] at hfind
    cases h with
    | @cons _ place' _ rest' _ _ =>
      generalize hother : (place' :: rest').find? (·.node.isNamed name) = result at hfind
      cases hfind with
      | some hsame =>
        rw [Chtml.searchLevels?, hfound, Chtml.searchLevels?, hother]
        exact .some hsame
  | case3 place rest hnone ih =>
    have hbelow : List.Forall₂ (Over S) ((place :: rest).flatMap Chtml.elementsOf) (other.flatMap Chtml.elementsOf) :=
      List.rel_flatMap h fun _ _ hab => hS.elementsOf hab
    rw [hnone] at hfind
    cases h with
    | @cons _ place' _ rest' _ _ =>
      generalize hother : (place' :: rest').find? (·.node.isNamed name) = result at hfind
      cases hfind
      rw [Chtml.searchLevels?, hnone, Chtml.searchLevels?, hother]
      exact ih hbelow (rel_find? hbelow fun hab => hS.isNamed hab name)

theorem shallowest? (hS : Likeness shape S) (h : Over S a b) (name : String) :
    Option.Rel (Over S) (Chtml.shallowest? a name) (Chtml.shallowest? b name) :=
  hS.searchLevels? name (hS.elementsOf h)

/-! ## Styled boxes -/

theorem boxes? (hS : Likeness shape S) (h : Over S a b) (names : List String) :
    Option.Rel (List.Forall₂ (Over S)) (Chtml.boxes? a names) (Chtml.boxes? b names) := by
  induction names with
  | nil => exact .some .nil
  | cons name names ih => exact rel_bind (hS.shallowest? h name) fun hbox => rel_map ih fun hrest => .cons hbox hrest

theorem radicalBox? (hS : Likeness shape S) (h : Over S a b) :
    Option.Rel (Over S) (Chtml.radicalBox? a) (Chtml.radicalBox? b) := by
  have hradical : Option.Rel (Over S) (Chtml.radical? a) (Chtml.radical? b) := by
    unfold Chtml.radical?
    rw [hS.isNamed h]
    split
    · exact .some h
    · exact hS.shallowest? h _
  have hbox (place : Located) : place.children.find? (·.node.isNamed "mjx-box") =
      (Chtml.elementsOf place).find? (·.node.isNamed "mjx-box") := by
    rw [Chtml.elementsOf, List.find?_filter]
    apply List.find?_congr
    intro child _
    rw [Bool.eq_iff_iff]
    cases child.node <;> simp [Node.isElement, Node.isNamed, Node.name?]
  refine rel_bind hradical fun {p q} hpq => ?_
  rw [hbox, hbox]
  exact rel_find? (hS.elementsOf hpq) fun hab => hS.isNamed hab _

theorem firstTwo? {places others : List Located} (h : List.Forall₂ (Over S) places others) :
    Option.Rel (List.Forall₂ (Over S)) (Chtml.firstTwo? places) (Chtml.firstTwo? others) := by
  cases h with
  | nil => exact .none
  | cons hbase h =>
    cases h with
    | nil => exact .none
    | cons hscript _ => exact .some (.cons hbase (.cons hscript .nil))

theorem stacked? (hS : Likeness .chtml S) {places others : List Located} (h : List.Forall₂ (Over S) places others) :
    Option.Rel (List.Forall₂ (Over S)) (Chtml.stacked? places) (Chtml.stacked? others) := by
  cases h with
  | nil => exact .none
  | cons hbase h =>
    cases h with
    | nil => exact .none
    | @cons scripts scripts' _ _ hscripts _ =>
      have hcounted : List.Forall₂ (Over S) (Chtml.counted scripts) (Chtml.counted scripts') := hS.countedChildren hscripts
      simp only [Chtml.stacked?]
      rw [hS.isNamed hscripts]
      split
      · revert hcounted
        generalize Chtml.counted scripts = stack
        generalize Chtml.counted scripts' = stack'
        intro hcounted
        cases hcounted with
        | nil => exact .none
        | cons hupper hcounted =>
          cases hcounted with
          | nil => exact .none
          | cons hlower _ => exact .some (.cons hbase (.cons hlower (.cons hupper .nil)))
      · exact .none

theorem arguments? (hS : Likeness .chtml S) (h : Over S a b) :
    Option.Rel (List.Forall₂ (Over S)) (Chtml.arguments? a) (Chtml.arguments? b) := by
  have hcounted : List.Forall₂ (Over S) (Chtml.counted a) (Chtml.counted b) := hS.countedChildren h
  unfold Chtml.arguments?
  rw [show Chtml.kind a.node = Chtml.kind b.node from hS.kind h]
  split
  · exact hS.boxes? h _
  · exact firstTwo? hcounted
  · exact firstTwo? hcounted
  · exact hS.stacked? hcounted
  · exact hS.boxes? h _
  · exact hS.boxes? h _
  · exact hS.boxes? h _
  · exact rel_bind (hS.shallowest? h _) fun hindex =>
      rel_map (hS.radicalBox? h) fun hbox => .cons hbox (.cons hindex .nil)
  · exact .none

/-! ## Parts -/

theorem children (hS : Likeness .chtml S) (h : Over S a b) :
    List.Forall₂ (Over S) (Chtml.children a) (Chtml.children b) := by
  have harguments := hS.arguments? h
  unfold Chtml.children
  cases ha : Chtml.arguments? a <;> cases hb : Chtml.arguments? b <;> rw [ha, hb] at harguments <;> cases harguments
  · exact hS.countedChildren h
  · assumption

theorem radicand (hS : Likeness .chtml S) (h : Over S a b) :
    List.Forall₂ (Over S) (Chtml.radicand a) (Chtml.radicand b) := by
  have hbox := hS.radicalBox? h
  unfold Chtml.radicand
  cases ha : Chtml.radicalBox? a <;> cases hb : Chtml.radicalBox? b <;> rw [ha, hb] at hbox <;> cases hbox
  · exact hS.countedChildren h
  · rename_i hsame
    exact hS.countedChildren hsame

/-- related places have related parts -/
theorem partPlaces (hS : Likeness shape S) (h : Over S a b) :
    List.Forall₂ (Over S) (Formula.partPlaces shape a) (Formula.partPlaces shape b) := by
  unfold Formula.partPlaces
  rw [hS.kind h]
  cases shape with
  | mathml => split <;> exact hS.countedChildren h
  | svg =>
    split
    · refine List.rel_filter ?_ (hS.countedChildren h)
      intro p q hpq
      have hsign : Svg.isRadicalSign p.node = Svg.isRadicalSign q.node := by
        rw [Svg.isRadicalSign, Svg.isRadicalSign, show Svg.kind p.node = Svg.kind q.node from hS.kind hpq,
          show Svg.glyphCodes p.node = Svg.glyphCodes q.node from hS.glyphCodes hpq]
      simp only [hsign]
    · exact hS.countedChildren h
  | chtml =>
    split
    · exact hS.radicand h
    · exact hS.children h

/-! ## Reading -/

/-- formulas that were read at related places -/
def Read (shape : Shape) (symbols : SymbolTable) (S : Node → Node → Prop) (f g : Formula) : Prop :=
  ∃ a b, Over S a b ∧ f = Formula.read shape symbols a ∧ g = Formula.read shape symbols b

/-- **what is read at related places is converted in lockstep**, if whole structures pass for integral signs and marks alike -/
theorem lockstep (hS : Likeness shape S) (symbols : SymbolTable)
    (integral : ∀ {a b}, Over S a b →
      (Formula.read shape symbols a).isIntegral = (Formula.read shape symbols b).isIntegral)
    (marks : ∀ {a b}, Over S a b → ∀ marks ∈ [vectorMarks, overlineMarks],
      (Formula.read shape symbols a).showsAny marks = (Formula.read shape symbols b).showsAny marks) :
    Lockstep (Read shape symbols S) where
  kind := by
    rintro _ _ ⟨a, b, h, rfl, rfl⟩
    rw [Formula.kind_read, Formula.kind_read, hS.kind h]
  role := by
    rintro _ _ ⟨a, b, h, rfl, rfl⟩
    rw [Formula.facts_read, Formula.facts_read]
    exact hS.attr h _
  type := by
    rintro _ _ ⟨a, b, h, rfl, rfl⟩
    rw [Formula.facts_read, Formula.facts_read]
    exact hS.attr h _
  variant := by
    rintro _ _ ⟨a, b, h, rfl, rfl⟩
    rw [Formula.facts_read, Formula.facts_read]
    exact hS.attr h _
  content := by
    rintro _ _ ⟨a, b, h, rfl, rfl⟩ hk
    rw [Formula.kind_read] at hk
    rw [Formula.facts_read, Formula.facts_read, Formula.factsAt, Formula.factsAt, Formula.content, Formula.content, Node.trimmed,
      Node.trimmed, hS.leaf h hk, hS.glyphCodes h]
  raw := by
    rintro _ _ ⟨a, b, h, rfl, rfl⟩ hk
    rw [Formula.kind_read] at hk
    rw [Formula.facts_read, Formula.facts_read, Formula.factsAt, Formula.factsAt, Formula.rawText, Formula.rawText, Node.trimmed,
      Node.trimmed, hS.leaf h hk, hS.glyphCodes h]
  parts := by
    rintro _ _ ⟨a, b, h, rfl, rfl⟩ -
    rw [Formula.parts_read, Formula.parts_read, List.forall₂_map_left_iff, List.forall₂_map_right_iff]
    exact (hS.partPlaces h).imp fun p q hpq => ⟨p, q, hpq, rfl, rfl⟩
  integral := by
    rintro _ _ ⟨a, b, h, rfl, rfl⟩
    exact integral h
  marks := by
    rintro _ _ ⟨a, b, h, rfl, rfl⟩
    exact marks h

end Likeness

end Untypeset
