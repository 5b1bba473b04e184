import Untypeset.Proofs.Formula.Simulation
import Untypeset.Proofs.Rendering.Anywhere

/-!
The radical sign that a drawing holds beside what stands under it. A square root leaves the sign out, wherever it stands among the
children, so drawing one more changes nothing (`latex_square_root`). A root with an index counts the sign among its
arguments: drawn with one, it has three and is laid out as a plain row, and a base without an index is taken for a root with
one. No other layout writes an opening bracket, so the two results are told apart by the number of their brackets
(`count_root`, `radical_sign_decorative`).
-/

namespace Untypeset

open Untypeset.Latex Untypeset.Markup Untypeset.Rendering Untypeset.Symbol Untypeset.Text

/-! ## Opening brackets -/

theorem count_bracket_trim (s : Latex) : (trim s).count '[' = s.count '[' := by
  rw [← count_squash (by decide), squash_trim, count_squash (by decide)]

theorem count_bracket_trimEnd (s : Latex) : (trimEnd s).count '[' = s.count '[' := by
  rw [← count_squash (by decide), squash_trimEnd, count_squash (by decide)]

theorem count_bracket_primed (s : Latex) : (Layout.primed s).count '[' = s.count '[' := by
  rw [Layout.primed, List.count_append, count_bracket_trimEnd]
  rfl

theorem count_bracket_parenthesized (s : Latex) : (parenthesized (trim s)).count '[' = s.count '[' := by
  rw [parenthesized, List.count_append, List.count_cons_of_ne (by decide), count_bracket_trim]
  rfl

theorem count_bracket_framed (word base index : Latex) :
    (word ++ trim index ++ ']' :: '\x7b' :: trim base ++ ['\x7d']).count '[' =
      base.count '[' + index.count '[' + word.count '[' := by
  have hclosing : (['\x7d'] : Latex).count '[' = 0 := by decide
  simp only [List.count_append, List.count_cons_of_ne (show ']' ≠ '[' by decide),
    List.count_cons_of_ne (show '\x7b' ≠ '[' by decide)]
  rw [hclosing, count_bracket_trim, count_bracket_trim]
  omega

theorem count_bracket_rooted (base index : Latex) : (rooted base index).count '[' = base.count '[' + index.count '[' + 1 :=
  count_bracket_framed "\\sqrt[".toList base index

theorem count_bracket_macro {name : Latex} (h : SymbolTable.default.isFunction name = true) :
    (functionMacro name).count '[' = 0 := by
  have all : ∀ name ∈ spelledFunctions.1, List.count '[' ('\\' :: name ++ [' ']) = 0 := by decide
  exact all _ (mem_of_isFunction h)

theorem count_flatMap_le {α : Type} {list : List α} {f g : α → Latex} {c : Char}
    (h : ∀ x ∈ list, (f x).count c ≤ (g x).count c) :
    (list.flatMap f).count c ≤ (list.flatMap g).count c := by
  induction list with
  | nil => exact Nat.le_refl _
  | cons x rest ih =>
    rw [List.flatMap_cons, List.flatMap_cons, List.count_append, List.count_append]
    exact Nat.add_le_add (h x List.mem_cons_self) (ih fun y hy => h y (List.mem_cons_of_mem x hy))

namespace Formula

/-- the LaTeX of several formulas, each by itself -/
def besides (row : List Formula) : Latex :=
  row.flatMap (latex .default)

theorem count_head_le {head : Head} (hsound : head.Sound .default) :
    (head.latex .default).count '[' ≤ (besides head.nodes).count '[' := by
  cases head with
  | spelled name first letters =>
    rw [Head.latex, count_bracket_macro hsound.1]
    exact Nat.zero_le _
  | single f =>
    rw [Head.latex, Head.nodes, besides, List.flatMap_singleton]

theorem count_argument_le {argument : Argument}
    (row : (rowLatex .default argument.nodes).count '[' ≤ (besides argument.nodes).count '[') :
    (argument.latex .default).count '[' ≤ (besides argument.nodes).count '[' := by
  cases argument with
  | absent => exact Nat.le_refl _
  | group inner => exact row
  | barred inner =>
    rw [Argument.latex, count_bracket_parenthesized]
    exact row
  | enclosed f => rw [Argument.latex, Argument.nodes, besides, List.flatMap_singleton]
  | plain f => rw [Argument.latex, count_bracket_parenthesized, Argument.nodes, besides, List.flatMap_singleton]

/-- a row has no more brackets than its siblings have by themselves -/
theorem count_rowLatex_le (row : List Formula) : (rowLatex .default row).count '[' ≤ (besides row).count '[' := by
  have hnodes : besides row = (segments .default row).flatMap fun s => besides s.nodes := by
    rw [besides, ← nodes_segments .default row, List.flatMap_assoc, nodes_segments]
    rfl
  rw [rowLatex_eq, hnodes]
  apply count_flatMap_le
  intro segment hsegment
  cases segment with
  | bar f opens =>
    rw [Segment.latex_bar]
    have hnone : ∀ opens : Bool, ((if opens then "\\left|".toList else "\\right|".toList : Latex)).count '[' = 0 := by decide
    rw [hnone]
    exact Nat.zero_le _
  | single f => rw [Segment.latex_single, Segment.nodes, besides, List.flatMap_singleton]
  | run run =>
    have hargument := sizes_argument_lt hsegment
    have hlatex : ((Segment.run run).latex .default).count '[' =
        (run.head.latex .default).count '[' + (run.argument.latex .default).count '[' := by
      rw [Segment.latex_run, withPrime?]
      split
      · rw [count_bracket_primed, List.count_append]
      · rw [List.count_append]
    have hrun : (besides (Segment.run run).nodes).count '[' =
        (besides run.head.nodes).count '[' + (besides run.mark.toList).count '[' + (besides run.argument.nodes).count '[' +
          (besides run.prime.toList).count '[' := by
      simp only [besides, Segment.nodes, Run.nodes, List.flatMap_append, List.count_append]
    have hhead := count_head_le (run_sound hsegment).head
    have hrow := count_argument_le (count_rowLatex_le run.argument.nodes)
    omega
termination_by sizes row

/-- a root with an index has one bracket of its own; with any other number of parts it has none -/
theorem count_root {f : Formula} (h : f.kind = .root) :
    (f.parts.length = 2 → (f.latex .default).count '[' = (besides f.parts).count '[' + 1) ∧
      (f.parts.length ≠ 2 → (f.latex .default).count '[' ≤ (besides f.parts).count '[') := by
  constructor
  · intro hlength
    obtain ⟨base, index, hparts⟩ := List.length_eq_two.1 hlength
    rw [latex_root h hparts, count_bracket_rooted, hparts, besides, List.flatMap_cons, List.flatMap_singleton, List.count_append]
  · intro hlength
    rw [latex_misfit (by rw [h]; rfl) hlength]
    exact count_rowLatex_le f.parts

end Formula

/-! ## Drawn roots -/

/-- the LaTeX of a node of a drawing, read by itself -/
def drawingLatex (symbols : SymbolTable) (node : Node) : Latex :=
  (Formula.read .svg symbols (.top node)).latex symbols

theorem latex_read_svg (symbols : SymbolTable) (place : Located) :
    (Formula.read .svg symbols place).latex symbols = drawingLatex symbols place.node :=
  (lockstep_eq .svg symbols).latex symbols ⟨place, .top place.node, rfl, rfl, rfl⟩

theorem besides_read (places : List Located) :
    Formula.besides (places.map (Formula.read .svg .default)) = (places.map (·.node)).flatMap (drawingLatex .default) := by
  rw [Formula.besides, List.flatMap_map, List.flatMap_map]
  exact List.flatMap_congr fun place _ => latex_read_svg .default place

variable {name : String} {attributes : List (String × String)} {nodes : List Node}

/-- the children that count as parts of a drawing -/
def countedNodes (nodes : List Node) : List Node :=
  nodes.filter fun node => Svg.kind node ≠ .ignored

theorem map_node_counted_svg (nodes : List Node) :
    (countedChildren Svg.kind (.top (.element name attributes nodes))).map (·.node) = countedNodes nodes :=
  map_node_countedChildren ..

/-- the kind of an element does not depend on what is in it -/
theorem kind_read_svg {kind : Kind} (h : Svg.kind (.element name attributes []) = kind) (symbols : SymbolTable)
    (nodes : List Node) :
    (Formula.read .svg symbols (.top (.element name attributes nodes))).kind = kind := by
  rw [Formula.kind, Formula.facts_read]
  exact h

/-- a square root has as parts the children that count, without any radical sign -/
theorem nodes_squareRoot (h : Svg.kind (.element name attributes []) = .sqrt) (nodes : List Node) :
    (Formula.partPlaces .svg (.top (.element name attributes nodes))).map (·.node) =
      (countedNodes nodes).filter fun node => !Svg.isRadicalSign node := by
  have hplaces : Formula.partPlaces .svg (.top (.element name attributes nodes)) =
      Svg.radicand (.top (.element name attributes nodes)) := if_pos h
  rw [hplaces, Svg.radicand, Svg.children, ← map_node_counted_svg, List.filter_map]
  rfl

/-- a root with an index has as parts all children that count -/
theorem nodes_root (h : Svg.kind (.element name attributes []) = .root) (nodes : List Node) :
    (Formula.partPlaces .svg (.top (.element name attributes nodes))).map (·.node) = countedNodes nodes := by
  have hkind : Svg.kind (.element name attributes nodes) ≠ .sqrt := by
    rw [show Svg.kind (.element name attributes nodes) = .root from h]
    decide
  have hplaces : Formula.partPlaces .svg (.top (.element name attributes nodes)) =
      countedChildren Svg.kind (.top (.element name attributes nodes)) := if_neg hkind
  rw [hplaces, map_node_counted_svg]

/-- a root with an index has one bracket more than its parts if they are two, and else none of its own -/
theorem count_drawn_root (h : Svg.kind (.element name attributes []) = .root) (nodes : List Node) :
    ((countedNodes nodes).length = 2 → (drawingLatex .default (.element name attributes nodes)).count '[' =
        ((countedNodes nodes).flatMap (drawingLatex .default)).count '[' + 1) ∧
      ((countedNodes nodes).length ≠ 2 → (drawingLatex .default (.element name attributes nodes)).count '[' ≤
        ((countedNodes nodes).flatMap (drawingLatex .default)).count '[') := by
  have hcount := Formula.count_root (kind_read_svg h .default nodes)
  rw [Formula.parts_read, besides_read, nodes_root h, List.length_map, ← List.length_map (·.node), nodes_root h] at hcount
  exact hcount

/-- **a square root reads the same with a radical sign more or less** -/
theorem latex_square_root {others : List Node} (h : Svg.kind (.element name attributes []) = .sqrt)
    (hsame : (nodes.filter fun node => !Svg.isRadicalSign node) = others.filter fun node => !Svg.isRadicalSign node)
    (symbols : SymbolTable) :
    drawingLatex symbols (.element name attributes nodes) = drawingLatex symbols (.element name attributes others) := by
  have hparts : SameNodes (Formula.partPlaces .svg (.top (.element name attributes nodes)))
      (Formula.partPlaces .svg (.top (.element name attributes others))) := by
    rw [SameNodes, nodes_squareRoot h, nodes_squareRoot h, countedNodes, countedNodes, List.filter_comm, hsame, List.filter_comm]
  rw [drawingLatex, drawingLatex, latex_sqrt (kind_read_svg h symbols _), latex_sqrt (kind_read_svg h symbols _),
    Formula.parts_read, Formula.parts_read, rowLatex_congr .svg symbols hparts]

theorem countedNodes_of_sign {before after : List Node} {sign : Node} (hsign : Svg.isRadicalSign sign = true) :
    countedNodes (before ++ sign :: after) = countedNodes before ++ sign :: countedNodes after := by
  have hcounts : Svg.kind sign ≠ .ignored := by
    rw [Svg.isRadicalSign, Bool.and_eq_true, decide_eq_true_eq] at hsign
    rw [hsign.1]
    decide
  rw [countedNodes, List.filter_append, List.filter_cons_of_pos (by simpa using hcounts)]
  rfl

theorem latex_drawn_root_of_none (h : Svg.kind (.element name attributes []) = .root) (hnone : countedNodes nodes = []) :
    drawingLatex .default (.element name attributes nodes) = [] := by
  have hplaces := nodes_root h nodes
  rw [hnone, List.map_eq_nil_iff] at hplaces
  have hparts : (Formula.read .svg .default (.top (.element name attributes nodes))).parts = [] := by
    rw [Formula.parts_read, hplaces, List.map_nil]
  have hkind := kind_read_svg h .default nodes
  rw [drawingLatex, latex_misfit (by rw [hkind]; rfl) (by rw [hparts]; decide), hparts, rowLatex_eq, segments, cut,
    List.flatMap_nil]

/-- a root with one argument is no more than the argument -/
theorem latex_drawn_root_of_one {node : Node} (h : Svg.kind (.element name attributes []) = .root)
    (hone : countedNodes nodes = [node]) : drawingLatex .default (.element name attributes nodes) = drawingLatex .default node := by
  obtain ⟨place, hplaces, rfl⟩ := List.map_eq_singleton_iff.1 ((nodes_root h nodes).trans hone)
  have hparts : (Formula.read .svg .default (.top (.element name attributes nodes))).parts = [.read .svg .default place] := by
    rw [Formula.parts_read, hplaces, List.map_singleton]
  have hkind := kind_read_svg h .default nodes
  rw [drawingLatex, latex_misfit (by rw [hkind]; rfl) (by rw [hparts, List.length_singleton]; decide), hparts,
    rowLatex_singleton, latex_read_svg]

/-- a radical sign has an empty entry in the table, and prints nothing -/
theorem latex_radicalSign {sign : Node} (hsign : Svg.isRadicalSign sign = true) (hbare : sign.trimmed = []) :
    drawingLatex .default sign = [] := by
  have hglyph : SymbolTable.default.glyph? 0x221A = some [] := by
    rw [glyph?_default]
    decide +kernel
  have hread : readCode? "221A".toList = some 0x221A := by decide +kernel
  rw [Svg.isRadicalSign, Bool.and_eq_true, decide_eq_true_eq, beq_iff_eq] at hsign
  obtain ⟨hkind, hcodes⟩ := hsign
  have hcontent : Formula.content .svg .default sign = [] := by
    have hcodes : Shape.glyphCodes .svg sign = ["221A".toList] := hcodes
    rw [Formula.content, hbare, List.isEmpty_nil, if_pos rfl, hcodes, Formula.glyphContent, List.isEmpty_cons,
      if_neg Bool.false_ne_true, List.map_singleton, joinGlyphs_singleton, glyphToken_of_readCode? hread]
    simp only [Shape.keepsAsciiBare, Bool.false_and, Bool.false_eq_true, if_false]
    rw [SymbolTable.codePointToken, hglyph, Option.getD_some, SymbolTable.functionOr]
    rfl
  have hkey : (Formula.read .svg .default (.top sign)).key = [] := by
    rw [Formula.key, Formula.facts_read, Formula.factsAt]
    change trim (Formula.content .svg .default sign) = []
    rw [hcontent]
    rfl
  have hoperator : (Formula.read .svg .default (.top sign)).kind = .operator := by
    rw [Formula.kind, Formula.facts_read]
    exact hkind
  rw [drawingLatex, latex_operator hoperator, Formula.operatorLatex, hkey]
  split <;> rfl

/-- **a radical sign tells in a root with an index**, where it counts as an argument: it makes a root with an index of a base
without one, and a plain row of a base with its index -/
theorem latex_drawn_root_ne {before after : List Node} {sign : Node} (hsign : Svg.isRadicalSign sign = true)
    (hbare : sign.trimmed = []) (h : Svg.kind (.element name attributes []) = .root)
    (hlength : (countedNodes (before ++ after)).length = 1 ∨ (countedNodes (before ++ after)).length = 2) :
    drawingLatex .default (.element name attributes (before ++ sign :: after)) ≠
      drawingLatex .default (.element name attributes (before ++ after)) := by
  intro hsame
  have hwith := count_drawn_root h (before ++ sign :: after)
  have hwithout := count_drawn_root h (before ++ after)
  have hplain : countedNodes (before ++ after) = countedNodes before ++ countedNodes after := List.filter_append ..
  -- the sign has no brackets, so both results are compared with the brackets of the same parts
  rw [countedNodes_of_sign hsign, hsame, List.flatMap_append, List.flatMap_cons, latex_radicalSign hsign hbare, List.nil_append,
    ← List.flatMap_append, List.length_append, List.length_cons] at hwith
  rw [hplain, List.length_append] at hwithout hlength
  omega

/-- **a radical sign is decorative in every square root, but in a root with an index only if nothing else is in it**: beside one
or two other arguments it changes the root -/
theorem radical_sign_decorative {before after : List Node} {sign : Node} (hsign : Svg.isRadicalSign sign = true)
    (hbare : sign.trimmed = []) :
    (Svg.kind (.element name attributes []) = .sqrt → ∀ symbols,
      drawingLatex symbols (.element name attributes (before ++ sign :: after)) =
        drawingLatex symbols (.element name attributes (before ++ after))) ∧
    (Svg.kind (.element name attributes []) = .root →
      ((countedNodes (before ++ after)).length = 0 →
        drawingLatex .default (.element name attributes (before ++ sign :: after)) =
          drawingLatex .default (.element name attributes (before ++ after))) ∧
      ((countedNodes (before ++ after)).length = 1 ∨ (countedNodes (before ++ after)).length = 2 →
        drawingLatex .default (.element name attributes (before ++ sign :: after)) ≠
          drawingLatex .default (.element name attributes (before ++ after)))) := by
  refine ⟨fun hkind symbols => latex_square_root hkind ?_ symbols, fun hkind => ⟨fun hlength => ?_, ?_⟩⟩
  · rw [List.filter_append, List.filter_append, List.filter_cons_of_neg (by rw [hsign]; decide)]
  · have hempty := List.length_eq_zero_iff.1 hlength
    have hsplit : countedNodes before = [] ∧ countedNodes after = [] := by
      rwa [countedNodes, List.filter_append, List.append_eq_nil_iff] at hempty
    have hlone : countedNodes (before ++ sign :: after) = [sign] := by
      rw [countedNodes_of_sign hsign, hsplit.1, hsplit.2, List.nil_append]
    rw [latex_drawn_root_of_one hkind hlone, latex_drawn_root_of_none hkind hempty, latex_radicalSign hsign hbare]
  · exact latex_drawn_root_ne hsign hbare hkind

/-- a leaf of a drawing with one glyph -/
def drawnLeaf (name code : String) : Node :=
  .element "g" [("data-mml-node", name)] [.element "use" [("data-c", code)] []]

/-- the sign in the middle of a square root, and between the base of a root and its index -/
theorem radical_sign_decorative_of_cubeRoot :
    drawingLatex .default (.element "g" [("data-mml-node", "msqrt")]
        ([drawnLeaf "mi" "78"] ++ drawnLeaf "mo" "221A" :: [drawnLeaf "mn" "33"])) =
      drawingLatex .default (.element "g" [("data-mml-node", "msqrt")] ([drawnLeaf "mi" "78"] ++ [drawnLeaf "mn" "33"])) ∧
    drawingLatex .default (.element "g" [("data-mml-node", "mroot")]
        ([drawnLeaf "mi" "78"] ++ drawnLeaf "mo" "221A" :: [drawnLeaf "mn" "33"])) ≠
      drawingLatex .default (.element "g" [("data-mml-node", "mroot")] ([drawnLeaf "mi" "78"] ++ [drawnLeaf "mn" "33"])) := by
  have hsign : Svg.isRadicalSign (drawnLeaf "mo" "221A") = true := by decide +kernel
  have hbare : (drawnLeaf "mo" "221A").trimmed = [] := by decide +kernel
  exact ⟨(radical_sign_decorative hsign hbare).1 (by decide +kernel) .default,
    ((radical_sign_decorative hsign hbare).2 (by decide +kernel)).2 (.inr (by decide +kernel))⟩

/-- the sign before the base of a cube root: the root is lost -/
theorem radical_sign_loses_root :
    Svg.isRadicalSign (drawnLeaf "mo" "221A") = true ∧
      (∀ child ∈ [drawnLeaf "mi" "78", drawnLeaf "mn" "33"], Svg.isRadicalSign child = false) ∧
      drawingLatex .default (.element "g" [("data-mml-node", "mroot")] [drawnLeaf "mi" "78", drawnLeaf "mn" "33"]) =
        "\\sqrt[3]\x7bx\x7d".toList ∧
      drawingLatex .default
          (.element "g" [("data-mml-node", "mroot")] [drawnLeaf "mo" "221A", drawnLeaf "mi" "78", drawnLeaf "mn" "33"]) =
        "x 3 ".toList := by
  decide +kernel

end Untypeset
