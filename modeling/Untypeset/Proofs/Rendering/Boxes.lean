import Untypeset.Proofs.Rendering.Plain
import Untypeset.Proofs.Symbol.GlyphCode

/-!
Reading back the styled boxes of an expression. Lists are read as they stand. The boxes of arguments are looked for level by
level; the deepest of them is the denominator, five levels below its fraction, and no box of a numerator that lies as high
can be taken for it (`not_denominator`).
-/

namespace Untypeset

open Untypeset.Markup Untypeset.Rendering Untypeset.Symbol Untypeset.Text

/-! ## Search by levels -/

theorem Rendering.Shape.kind_chtml : Shape.chtml.kind = Chtml.kind := rfl

namespace Rendering.Chtml

/-- a node is the first of its name on the shallowest level that has the name -/
inductive Found (name : String) (found : Node) : List Node → Prop
  | here {level : List Node} : level.find? (·.isNamed name) = some found → Found name found level
  | deeper {level : List Node} :
    (∀ node ∈ level, node.isNamed name = false) → Found name found (level.flatMap Node.elements) → Found name found level

theorem map_node_flatMap_elementsOf (level : List Located) :
    (level.flatMap elementsOf).map (·.node) = (level.map (·.node)).flatMap Node.elements := by
  rw [List.map_flatMap, List.flatMap_map]
  exact List.flatMap_congr fun place _ => map_node_elementsOf place

theorem searchLevels?_of_found {name : String} {found : Node} {nodes : List Node} (h : Found name found nodes)
    {level : List Located} (hlevel : level.map (·.node) = nodes) :
    (searchLevels? name level).map (·.node) = some found := by
  induction h generalizing level with
  | here h =>
    subst hlevel
    rw [List.find?_map] at h
    cases level with
    | nil => cases h
    | cons place rest =>
      obtain ⟨first, hfirst, hnode⟩ := Option.map_eq_some_iff.1 h
      rw [searchLevels?, show (place :: rest).find? (·.node.isNamed name) = some first from hfirst]
      exact congrArg some hnode
  | @deeper nodes hnone h ih =>
    subst hlevel
    cases level with
    | nil => exact ih rfl
    | cons place rest =>
      have hfind : (place :: rest).find? (·.node.isNamed name) = none := by
        rw [List.find?_eq_none]
        intro p hp
        simp [hnone p.node (List.mem_map_of_mem hp)]
      rw [searchLevels?, hfind]
      exact ih (map_node_flatMap_elementsOf _)

theorem shallowest?_of_found (place : Located) {name : String} {found : Node}
    (h : Found name found place.node.elements) : (shallowest? place name).map (·.node) = some found :=
  searchLevels?_of_found h (map_node_elementsOf place)

theorem map_node_boxes? {place : Located} {names : List String} {nodes : List Node}
    (h : List.Forall₂ (fun name node => Found name node place.node.elements) names nodes) :
    (boxes? place names).map (·.map (·.node)) = some nodes := by
  induction h with
  | nil => rfl
  | cons hfound _ ih =>
    obtain ⟨box, hbox, rfl⟩ := Option.map_eq_some_iff.1 (shallowest?_of_found place hfound)
    obtain ⟨rest, hrest, rfl⟩ := Option.map_eq_some_iff.1 ih
    rw [boxes?, hbox, Option.bind_some, hrest]
    rfl

theorem map_node_children {place : Located} {nodes : List Node}
    (h : (arguments? place).map (·.map (·.node)) = some nodes) : (children place).map (·.node) = nodes := by
  obtain ⟨arguments, harguments, rfl⟩ := Option.map_eq_some_iff.1 h
  rw [children, harguments, Option.getD_some]

theorem map_node_firstTwo? {places : List Located} {base script : Node} (h : places.map (·.node) = [base, script]) :
    (firstTwo? places).map (·.map (·.node)) = some [base, script] := by
  obtain ⟨p, q, rfl⟩ := List.length_eq_two.1 (by simpa using congrArg List.length h)
  exact congrArg some h

/-- the upper script is stacked onto the lower one -/
theorem map_node_stacked? {places : List Located} {base lower upper : Node} {stack : List Node}
    (h : places.map (·.node) = [base, .element "mjx-script" [] stack])
    (hstack : (stack.filter fun child => kind child ≠ .ignored) = [upper, lower]) :
    (stacked? places).map (·.map (·.node)) = some [base, lower, upper] := by
  obtain ⟨p, q, rfl⟩ := List.length_eq_two.1 (by simpa using congrArg List.length h)
  simp only [List.map_cons, List.map_nil, List.cons.injEq, and_true] at h
  obtain ⟨hp, hq⟩ := h
  have hscripts : (counted q).map (·.node) = [upper, lower] := by
    rw [map_node_counted, hq]
    exact hstack
  obtain ⟨u, l, hcounted⟩ := List.length_eq_two.1 (by simpa using congrArg List.length hscripts)
  rw [hcounted] at hscripts
  simp only [List.map_cons, List.map_nil, List.cons.injEq, and_true] at hscripts
  rw [stacked?, if_pos (by rw [hq]; rfl), hcounted]
  simp [hp, hscripts]

/-- the box beside a radical sign that stands directly in a node -/
theorem radicalBox?_of_found (place : Located) (box : Node) {radical : Node} (hname : place.node.isNamed "mjx-sqrt" = false)
    (h : Found "mjx-sqrt" radical place.node.elements) (hbox : radical.children.find? (·.isNamed "mjx-box") = some box) :
    (radicalBox? place).map (·.node) = some box := by
  obtain ⟨found, hfound, rfl⟩ := Option.map_eq_some_iff.1 (shallowest?_of_found place h)
  rw [radicalBox?, radical?, if_neg (by simp [hname]), hfound, Option.bind_some]
  rw [← Located.map_node_siblings found.node found.trail 0 found.node.children, List.find?_map] at hbox
  exact hbox

end Rendering.Chtml

namespace Expression

/-! ## Nodes -/

theorem chtml_eq (e : Expression) : ∃ children, e.chtml = .element (boxName e.kind) e.marks.attributes children := by
  cases e <;> exact ⟨_, rfl⟩

theorem kind_boxName (kind : Kind) (attributes : List (String × String)) (children : List Node)
    (h : kind ≠ .ignored) (htext : kind ≠ .bareText) :
    Chtml.kind (.element (boxName kind) attributes children) = kind := by
  cases kind <;> first | rfl | exact absurd rfl h | exact absurd rfl htext

theorem kind_chtml (e : Expression) : Chtml.kind e.chtml = e.kind := by
  obtain ⟨children, h⟩ := e.chtml_eq
  rw [h]
  exact kind_boxName _ _ _ e.kind_ne_ignored e.kind_ne_bareText

theorem attr?_chtml (e : Expression) (name : String) : e.chtml.attr? name = e.marks.attributes.lookup name := by
  obtain ⟨children, h⟩ := e.chtml_eq
  rw [h]
  rfl

theorem isElement_chtml (e : Expression) : e.chtml.isElement = true := by
  obtain ⟨children, h⟩ := e.chtml_eq
  rw [h]
  rfl

theorem isNamed_chtml {name : String} (h : ∀ kind, boxName kind ≠ name) (e : Expression) :
    e.chtml.isNamed name = false := by
  obtain ⟨children, he⟩ := e.chtml_eq
  rw [he]
  exact beq_eq_false_iff_ne.2 fun heq => h e.kind (Option.some.inj heq)

theorem filter_chtmls (es : List Expression) :
    ((es.map chtml).filter fun child => Chtml.kind child ≠ .ignored) = es.map chtml := by
  rw [List.filter_eq_self]
  intro node hnode
  obtain ⟨e, -, rfl⟩ := List.mem_map.1 hnode
  rw [kind_chtml]
  simpa using e.kind_ne_ignored

/-! ## Arguments -/

/-- the boxes of the arguments; those of a script have none of their own -/
def boxes : Expression → List Node
  | .leaf .. => []
  | .list _ _ items => items.map chtml
  | .pair .fraction _ first second => [bare "mjx-num" [chtml first], bare "mjx-den" [chtml second]]
  | .pair .root _ base index => [bare "mjx-box" [chtml base], bare "mjx-root" [chtml index]]
  | .pair .superscript _ base script | .pair .subscript _ base script => [chtml base, bare "mjx-script" [chtml script]]
  | .pair .underscript _ base script => [bare "mjx-base" [chtml base], bare "mjx-under" [chtml script]]
  | .pair .overscript _ base script => [bare "mjx-base" [chtml base], bare "mjx-over" [chtml script]]
  | .triple .subsup _ base lower upper => [chtml base, chtml lower, chtml upper]
  | .triple .underover _ base lower upper =>
    [bare "mjx-base" [chtml base], bare "mjx-under" [chtml lower], bare "mjx-over" [chtml upper]]

theorem elements_bare_chtml (name : String) (e : Expression) : (bare name [chtml e]).elements = [chtml e] := by
  rw [bare, Node.elements, Node.children, List.filter_cons_of_pos e.isElement_chtml, List.filter_nil]

/-! ### The denominator -/

/-- the box that a denominator is looked for by -/
def denominatorBox : String := "mjx-den"

theorem ne_denominatorBox (e : Expression) : e.chtml.isNamed denominatorBox = false :=
  isNamed_chtml (by intro kind; cases kind <;> decide) e

/-- a layout box that lies as high as an argument is no box of a denominator and holds none -/
def IsAbove (node : Node) : Prop :=
  node.isNamed denominatorBox = false ∧ ∀ child ∈ node.children, child.isNamed denominatorBox = false

theorem isAbove_bare {name : String} (h : name ≠ denominatorBox) (e : Expression) : IsAbove (bare name [chtml e]) := by
  refine ⟨beq_eq_false_iff_ne.2 fun heq => h (Option.some.inj heq), fun child hchild => ?_⟩
  rw [List.mem_singleton.1 hchild]
  exact ne_denominatorBox e

/-- what lies directly in the box of an argument is another argument or a layout box above any denominator -/
theorem isAbove_of_child (e : Expression) {child : Node} (h : child ∈ e.chtml.children) :
    (∃ inner, child = chtml inner) ∨ IsAbove child := by
  have hitems : ∀ items : List Expression, child ∈ chtmls items → ∃ inner, child = chtml inner := by
    intro items hitems
    rw [chtmls_eq] at hitems
    obtain ⟨item, -, rfl⟩ := List.mem_map.1 hitems
    exact ⟨item, rfl⟩
  cases e with
  | leaf kind marks glyphs =>
    obtain ⟨glyph, -, rfl⟩ := List.mem_map.1 h
    exact .inr ⟨rfl, fun below hbelow => by cases hbelow⟩
  | list kind marks items =>
    cases kind with
    | row | style => exact .inl (hitems items h)
    | sqrt =>
      rw [List.mem_singleton.1 h]
      refine .inr ⟨rfl, fun below hbelow => ?_⟩
      rcases List.mem_pair.1 hbelow with rfl | rfl <;> rfl
  | pair kind marks first second =>
    cases kind with
    | fraction | root =>
      rw [List.mem_singleton.1 h]
      refine .inr ⟨rfl, fun below hbelow => ?_⟩
      rcases List.mem_pair.1 hbelow with rfl | rfl <;> rfl
    | superscript | subscript =>
      rcases List.mem_pair.1 h with rfl | rfl
      · exact .inl ⟨first, rfl⟩
      · exact .inr (isAbove_bare (by decide) second)
    | underscript | overscript =>
      rcases List.mem_pair.1 h with rfl | rfl
      · exact .inr (isAbove_bare (by decide) first)
      · exact .inr (isAbove_bare (by decide) second)
  | triple kind marks base lower upper =>
    cases kind with
    | subsup =>
      rcases List.mem_pair.1 h with rfl | rfl
      · exact .inl ⟨base, rfl⟩
      · refine .inr ⟨rfl, fun below hbelow => ?_⟩
        rcases List.mem_cons.1 hbelow with rfl | hbelow
        · exact ne_denominatorBox upper
        · rcases List.mem_pair.1 hbelow with rfl | rfl
          · rfl
          · exact ne_denominatorBox lower
    | underover =>
      rcases List.mem_cons.1 h with rfl | h
      · exact .inr (isAbove_bare (by decide) base)
      · rcases List.mem_pair.1 h with rfl | rfl
        · exact .inr (isAbove_bare (by decide) lower)
        · exact .inr (isAbove_bare (by decide) upper)

theorem not_denominator (e : Expression) : ∀ node ∈ e.chtml.elements, node.isNamed denominatorBox = false := by
  intro node hnode
  rcases e.isAbove_of_child (List.mem_filter.1 hnode).1 with ⟨inner, rfl⟩ | h
  · exact ne_denominatorBox inner
  · exact h.1

theorem not_denominator_below (e : Expression) :
    ∀ node ∈ e.chtml.elements.flatMap Node.elements, node.isNamed denominatorBox = false := by
  intro node hnode
  obtain ⟨child, hchild, hbelow⟩ := List.mem_flatMap.1 hnode
  rcases e.isAbove_of_child (List.mem_filter.1 hchild).1 with ⟨inner, rfl⟩ | h
  · exact inner.not_denominator node hbelow
  · exact h.2 node (List.mem_filter.1 hbelow).1

/-- the box of a denominator is found below a numerator of any shape -/
theorem found_denominator (numerator denominator : Expression) :
    Chtml.Found denominatorBox (bare denominatorBox [chtml denominator])
      [bare "mjx-frac" [bare "mjx-num" [chtml numerator],
        bare "mjx-dbox" [bare "mjx-dtable" [bare "mjx-row" [bare denominatorBox [chtml denominator]]]]]] := by
  have hnum := elements_bare_chtml "mjx-num" numerator
  refine .deeper (List.forall_mem_singleton.2 rfl) ?_
  change Chtml.Found _ _ [bare "mjx-num" [chtml numerator], bare "mjx-dbox" _]
  refine .deeper (List.forall_mem_cons.2 ⟨rfl, List.forall_mem_singleton.2 rfl⟩) ?_
  rw [List.flatMap_cons, hnum]
  change Chtml.Found _ _ (chtml numerator :: [bare "mjx-dtable" _])
  refine .deeper (List.forall_mem_cons.2 ⟨ne_denominatorBox numerator, List.forall_mem_singleton.2 rfl⟩) ?_
  rw [List.flatMap_cons]
  change Chtml.Found _ _ ((chtml numerator).elements ++ [bare "mjx-row" _])
  refine .deeper ?_ ?_
  · intro node hnode
    rcases List.mem_append.1 hnode with h | h
    · exact numerator.not_denominator node h
    · rw [List.mem_singleton.1 h]
      rfl
  · rw [List.flatMap_append]
    change Chtml.Found _ _ (_ ++ [bare denominatorBox _])
    refine .here ?_
    rw [List.find?_append, List.find?_eq_none.2 fun node hnode => by
      rw [numerator.not_denominator_below node hnode]; exact Bool.false_ne_true]
    rfl

/-! ### The parts of a node of boxes -/

/-- an argument and a container beside it both count -/
theorem filter_beside (e : Expression) {box : Node} (hbox : Chtml.kind box = .container) :
    ([e.chtml, box].filter fun child => Chtml.kind child ≠ .ignored) = [e.chtml, box] := by
  simp [kind_chtml, e.kind_ne_ignored, hbox]

/-- in a stack the spacer does not count -/
theorem filter_stack (lower upper : Expression) :
    ([upper.chtml, bare "mjx-spacer" [], lower.chtml].filter fun child => Chtml.kind child ≠ .ignored) =
      [upper.chtml, lower.chtml] := by
  have hspacer : Chtml.kind (bare "mjx-spacer" []) = .ignored := rfl
  simp [kind_chtml, lower.kind_ne_ignored, upper.kind_ne_ignored, hspacer]

theorem map_node_counted_list {place : Located} {items : List Expression} (h : place.node.children = chtmls items) :
    (Chtml.counted place).map (·.node) = items.map chtml := by
  rw [Chtml.map_node_counted, h, chtmls_eq, filter_chtmls]

/-- any structure but a square root has the arguments for parts -/
theorem partPlaces_of_arguments {e : Expression} {trail : List (Nat × Node)} (hsqrt : e.kind ≠ .sqrt)
    (harguments : (Chtml.arguments? ⟨e.chtml, trail⟩).map (·.map (·.node)) = some e.boxes) :
    (Formula.partPlaces .chtml ⟨e.chtml, trail⟩).map (·.node) = e.boxes := by
  rw [Formula.partPlaces, if_neg (by rw [Shape.kind_chtml, kind_chtml]; exact hsqrt)]
  exact Chtml.map_node_children harguments

/-- the parts of a square root are the boxes beside the radical sign -/
theorem partPlaces_sqrt (marks : Marks) (items : List Expression) (trail : List (Nat × Node)) :
    (Formula.partPlaces .chtml ⟨(list .sqrt marks items).chtml, trail⟩).map (·.node) = items.map chtml := by
  obtain ⟨box, hbox, hnode⟩ := Option.map_eq_some_iff.1 (Chtml.radicalBox?_of_found
    ⟨(list .sqrt marks items).chtml, trail⟩ (bare "mjx-box" (chtmls items)) rfl (.here rfl) rfl)
  rw [Formula.partPlaces, if_pos (by rw [Shape.kind_chtml, kind_chtml]; rfl)]
  change (Chtml.radicand _).map _ = _
  rw [Chtml.radicand, hbox]
  exact map_node_counted_list (congrArg Node.children hnode)

/-- the base of a root is found beside its index, although it comes behind it -/
theorem arguments?_root (marks : Marks) (base index : Expression) (trail : List (Nat × Node)) :
    (Chtml.arguments? ⟨(pair .root marks base index).chtml, trail⟩).map (·.map (·.node)) =
      some (pair .root marks base index).boxes := by
  obtain ⟨box, hbox, hnode⟩ := Option.map_eq_some_iff.1 (Chtml.radicalBox?_of_found
    ⟨(pair .root marks base index).chtml, trail⟩ (bare "mjx-box" [chtml base]) rfl (.here rfl) rfl)
  have hroot : Chtml.Found "mjx-root" (bare "mjx-root" [chtml index]) (pair .root marks base index).chtml.elements :=
    .deeper (List.forall_mem_singleton.2 rfl) (.here rfl)
  obtain ⟨script, hscript, hnode'⟩ := Option.map_eq_some_iff.1 (Chtml.shallowest?_of_found
    ⟨(pair .root marks base index).chtml, trail⟩ hroot)
  rw [Chtml.arguments?, kind_chtml]
  dsimp only [Expression.kind, PairKind.kind]
  rw [hscript, Option.bind_some, hbox]
  simp [hnode, hnode', boxes]

/-- **the parts of a structure of boxes are the boxes of its arguments** -/
theorem partPlaces_chtml {e : Expression} (h : e.isLeaf = false) (trail : List (Nat × Node)) :
    (Formula.partPlaces .chtml ⟨e.chtml, trail⟩).map (·.node) = e.boxes := by
  have hkind : Chtml.kind e.chtml = e.kind := kind_chtml e
  cases e with
  | leaf => cases h
  | list kind marks items =>
    cases kind with
    | row | style =>
      rw [Formula.partPlaces, if_neg (by rw [Shape.kind_chtml, hkind]; simp [Expression.kind, ListKind.kind])]
      change (Chtml.children _).map _ = _
      rw [Chtml.children, Chtml.arguments?, hkind]
      exact map_node_counted_list rfl
    | sqrt => exact partPlaces_sqrt marks items trail
  | pair kind marks first second =>
    refine partPlaces_of_arguments (by cases kind <;> simp [Expression.kind, PairKind.kind]) ?_
    cases kind with
    | root => exact arguments?_root marks first second trail
    | fraction =>
      rw [Chtml.arguments?, hkind]
      refine Chtml.map_node_boxes? (.cons ?_ (.cons ?_ .nil))
      · exact .deeper (List.forall_mem_singleton.2 rfl) (.here rfl)
      · exact found_denominator first second
    | superscript | subscript =>
      rw [Chtml.arguments?, hkind]
      refine Chtml.map_node_firstTwo? ?_
      rw [Chtml.map_node_counted]
      exact filter_beside first rfl
    | underscript | overscript =>
      rw [Chtml.arguments?, hkind]
      exact Chtml.map_node_boxes? (.cons (.here rfl) (.cons (.here rfl) .nil))
  | triple kind marks base lower upper =>
    refine partPlaces_of_arguments (by cases kind <;> simp [Expression.kind, TripleKind.kind]) ?_
    cases kind with
    | subsup =>
      rw [Chtml.arguments?, hkind]
      refine Chtml.map_node_stacked? ?_ (filter_stack lower upper)
      rw [Chtml.map_node_counted]
      exact filter_beside base rfl
    | underover =>
      rw [Chtml.arguments?, hkind]
      exact Chtml.map_node_boxes? (.cons (.here rfl) (.cons (.here rfl) (.cons (.here rfl) .nil)))

end Expression

/-! ## Glyphs -/

namespace Rendering.Chtml

/-- the codes of the glyph boxes among nodes and below them -/
def codesOf (nodes : List Node) : List (List Char) :=
  ((Node.nodesOf nodes).filter (·.isNamed "mjx-c")).flatMap boxCodes

theorem glyphCodes_eq (node : Node) : glyphCodes node = codesOf node.children := by
  rw [glyphCodes, codesOf, show node.children = (Located.top node).node.children from rfl,
    ← Located.map_node_descendants, List.filter_map, List.flatMap_map]
  rfl

theorem codesOf_append (a b : List Node) : codesOf (a ++ b) = codesOf a ++ codesOf b := by
  rw [codesOf, Node.nodesOf_append, List.filter_append, List.flatMap_append]
  rfl

theorem codesOf_cons (node : Node) (rest : List Node) : codesOf (node :: rest) = codesOf [node] ++ codesOf rest :=
  codesOf_append [node] rest

/-- an element with any other name has the codes of what it holds -/
theorem codesOf_element {name : String} (h : name ≠ "mjx-c") (attributes : List (String × String)) (children : List Node) :
    codesOf [.element name attributes children] = codesOf children := by
  have hname : (Node.element name attributes children).isNamed "mjx-c" = false :=
    beq_eq_false_iff_ne.2 fun heq => h (Option.some.inj heq)
  rw [codesOf, Node.nodesOf_singleton, Node.nodes, List.filter_cons_of_neg (by simp [hname])]
  rfl

theorem codeAtStart?_hexDigits (n : Nat) : codeAtStart? ("mjx-c".toList ++ hexDigits n) = some (hexDigits n) := by
  have hdigits : (hexDigits n).all isHexDigit = true := List.all_eq_true.2 fun c hc => isHexDigit_of_mem hc
  have hprefix : "mjx-c".toList.isPrefixOf ("mjx-c".toList ++ hexDigits n) = true :=
    List.isPrefixOf_iff_prefix.2 (List.prefix_append _ _)
  have htake : (hexDigits n).takeWhile isHexDigit = hexDigits n :=
    List.takeWhile_eq_self_iff.2 (List.all_eq_true.1 hdigits)
  have hdrop : (hexDigits n).dropWhile isHexDigit = [] := List.dropWhile_eq_nil_iff.2 (List.all_eq_true.1 hdigits)
  rw [codeAtStart?]
  dsimp only
  rw [if_pos hprefix, List.drop_left, htake, hdrop, if_pos]
  simp [List.isEmpty_eq_false_iff.2 (hexDigits_ne_nil n)]

theorem classCode?_of_start {s code : List Char} (h : codeAtStart? s = some code) : classCode? s = some code := by
  cases s with
  | nil =>
    have hnone : codeAtStart? [] = none := by decide
    rw [hnone] at h
    cases h
  | cons c rest => rw [classCode?, h, Option.some_or]

/-- the code of a glyph box is that of its character -/
theorem boxCodes_glyphBox (c : Char) : boxCodes (Expression.glyphBox c) = [Glyph.code c] := by
  have hclass : (((Expression.glyphBox c).attr? "class").getD "").toList = "mjx-c".toList ++ hexDigits c.toNat := by
    change ("mjx-c" ++ String.ofList (Glyph.code c)).toList = _
    exact String.toList_append.trans (congrArg _ String.toList_ofList)
  rw [boxCodes, hclass, classCode?_of_start (codeAtStart?_hexDigits c.toNat)]
  rfl

theorem codesOf_glyphBox (c : Char) : codesOf [Expression.glyphBox c] = [Glyph.code c] := by
  have hboxes : (Node.nodesOf [Expression.glyphBox c]).filter (·.isNamed "mjx-c") = [Expression.glyphBox c] := rfl
  rw [codesOf, hboxes, List.flatMap_singleton, boxCodes_glyphBox]

end Rendering.Chtml

namespace Expression

open Rendering.Chtml

theorem boxName_ne_glyph (kind : Kind) : boxName kind ≠ "mjx-c" := by
  cases kind <;> decide

theorem codesOf_bare {name : String} (h : name ≠ "mjx-c") (children : List Node) :
    codesOf [bare name children] = codesOf children :=
  codesOf_element h [] children

theorem codesOf_glyphBoxes (glyphs : List Glyph) :
    codesOf (glyphs.map fun g => glyphBox g.char) = (glyphs.map (·.char)).map Glyph.code := by
  induction glyphs with
  | nil => rfl
  | cons glyph rest ih => rw [List.map_cons, codesOf_cons, codesOf_glyphBox, ih]; rfl

theorem codesOf_surd : codesOf [surd] = [Glyph.code radicalSign] := by
  rw [surd, codesOf_bare (by decide), codesOf_bare (by decide), codesOf_glyphBox]

mutual

/-- the glyph boxes of an expression hold its characters -/
theorem codes_chtml (e : Expression) : codesOf [e.chtml] = e.boxed.map Glyph.code := by
  cases e with
  | leaf kind marks glyphs =>
    rw [chtml, boxed, codesOf_element (boxName_ne_glyph _)]
    exact codesOf_glyphBoxes glyphs
  | list kind marks items =>
    have ih := codes_chtmls items
    rw [chtml, codesOf_element (boxName_ne_glyph _)]
    cases kind with
    | row | style => exact ih
    | sqrt =>
      rw [listBoxes, codesOf_bare (by decide), codesOf_cons, codesOf_surd, codesOf_bare (by decide), ih, boxed]
      rfl
  | pair kind marks first second =>
    have ih₁ := codes_chtml first
    have ih₂ := codes_chtml second
    rw [chtml, codesOf_element (boxName_ne_glyph _)]
    cases kind with
    | fraction =>
      rw [pairBoxes, codesOf_bare (by decide), codesOf_cons, codesOf_bare (by decide), codesOf_bare (by decide),
        codesOf_bare (by decide), codesOf_bare (by decide), codesOf_bare (by decide), ih₁, ih₂, boxed, List.map_append]
    | root =>
      rw [pairBoxes, codesOf_bare (by decide), codesOf_cons, codesOf_bare (by decide), codesOf_bare (by decide), ih₁, ih₂,
        boxed, List.map_append]
    | superscript | subscript =>
      rw [pairBoxes, codesOf_cons, codesOf_bare (by decide), ih₁, ih₂, boxed, List.map_append]
    | underscript | overscript =>
      rw [pairBoxes, codesOf_cons, codesOf_bare (by decide), codesOf_bare (by decide), ih₁, ih₂, boxed, List.map_append]
  | triple kind marks base lower upper =>
    have ih₁ := codes_chtml base
    have ih₂ := codes_chtml lower
    have ih₃ := codes_chtml upper
    rw [chtml, codesOf_element (boxName_ne_glyph _)]
    cases kind with
    | subsup =>
      rw [tripleBoxes, codesOf_cons, codesOf_bare (by decide), codesOf_cons upper.chtml, codesOf_cons (bare _ _),
        codesOf_bare (by decide), ih₁, ih₂, ih₃, boxed, List.map_append, List.map_append, List.append_assoc]
      rfl
    | underover =>
      rw [tripleBoxes, codesOf_cons, codesOf_bare (by decide), codesOf_cons (bare "mjx-under" _), codesOf_bare (by decide),
        codesOf_bare (by decide), ih₁, ih₂, ih₃, boxed, List.map_append, List.map_append, List.append_assoc]

theorem codes_chtmls (es : List Expression) : codesOf (chtmls es) = (boxeds es).map Glyph.code := by
  cases es with
  | nil => rfl
  | cons e rest => rw [chtmls, boxeds, codesOf_cons, codes_chtml, codes_chtmls, List.map_append]

end

theorem glyphCodes_chtml (e : Expression) : Shape.chtml.glyphCodes e.chtml = e.boxed.map Glyph.code := by
  obtain ⟨children, h⟩ := e.chtml_eq
  rw [← codes_chtml, h, codesOf_element (boxName_ne_glyph _)]
  exact glyphCodes_eq _

theorem glyphCodes_bare_chtml {name : String} (e : Expression) :
    Shape.chtml.glyphCodes (bare name [e.chtml]) = e.boxed.map Glyph.code := by
  rw [← codes_chtml]
  exact glyphCodes_eq _

/-! ### No text -/

mutual

theorem texts_chtml (reader : Option Enclave) (e : Expression) : e.chtml.textsFor reader = [] := by
  cases e with
  | leaf kind marks glyphs =>
    rw [chtml, Node.textsFor]
    induction glyphs with
    | nil => rfl
    | cons glyph rest ih => rw [List.map_cons, Node.textsOfAll, ih]; rfl
  | list kind marks items =>
    have ih := texts_chtmls reader items
    cases kind <;> simp [chtml, listBoxes, surd, glyphBox, bare, Node.textsFor, Node.textsOfAll, ih]
  | pair kind marks first second =>
    have ih₁ := texts_chtml reader first
    have ih₂ := texts_chtml reader second
    cases kind <;> simp [chtml, pairBoxes, bare, Node.textsFor, Node.textsOfAll, ih₁, ih₂]
  | triple kind marks base lower upper =>
    have ih₁ := texts_chtml reader base
    have ih₂ := texts_chtml reader lower
    have ih₃ := texts_chtml reader upper
    cases kind <;> simp [chtml, tripleBoxes, bare, Node.textsFor, Node.textsOfAll, ih₁, ih₂, ih₃]

theorem texts_chtmls (reader : Option Enclave) (es : List Expression) : Node.textsOfAll reader (chtmls es) = [] := by
  cases es with
  | nil => rfl
  | cons e rest => rw [chtmls, Node.textsOfAll, texts_chtml, texts_chtmls]; rfl

end

theorem trimmed_chtml (e : Expression) : e.chtml.trimmed = [] := by
  have htexts := e.texts_chtml e.chtml.enclave?
  obtain ⟨children, h⟩ := e.chtml_eq
  rw [h] at htexts ⊢
  rw [Node.trimmed, Node.content, Node.shownTexts, htexts]
  rfl

theorem trimmed_bare_chtml (name : String) (e : Expression) : (bare name [e.chtml]).trimmed = [] := by
  rw [bare, Node.trimmed, Node.content, Node.shownTexts, Node.textsFor, Node.textsOfAll, Node.textsOfAll, texts_chtml]
  rfl

/-! ### Boxes around arguments -/

/-- the box of an argument is a container with nothing else in it -/
theorem partPlaces_bare_chtml {name : String} {e : Expression} (h : Chtml.kind (bare name [e.chtml]) = .container)
    (trail : List (Nat × Node)) :
    (Formula.partPlaces .chtml ⟨bare name [e.chtml], trail⟩).map (·.node) = [e.chtml] := by
  rw [Formula.partPlaces, if_neg (by rw [Shape.kind_chtml, h]; decide)]
  change (Chtml.children _).map _ = _
  rw [Chtml.children, Chtml.arguments?, h]
  exact map_node_counted_list (show _ = chtmls [e] from rfl)

end Expression

end Untypeset
