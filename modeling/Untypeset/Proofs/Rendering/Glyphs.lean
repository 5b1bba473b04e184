import Untypeset.Conversion
import Untypeset.Proofs.Markup.Nodes
import Untypeset.Proofs.Markup.Places
import Untypeset.Proofs.Number.Binary64

/-!
The glyphs of a drawing from left to right. The position of a glyph is the sum of the shifts on the way up from it to the element
that is read, this one left out, so nothing around the element moves its glyphs (`glyphCodes_eq_reading`). What is read depends on
the positions and codes below the element alone; they are kept by a change of the element's own attributes, and but for their
order by a shuffling of sibling `use` elements (`Shuffled.keys`). Where the positions are numbers and no two are equal, the order
does not matter either (`glyphs_read_in_order`).

Two things limit this. Positions that are no numbers are in no order, and where `use` elements hold text of their own, the text of
the leaf is put together in document order, so shuffling them is seen (`glyphs_out_of_order`).
-/

namespace Untypeset.Rendering

open Untypeset.Markup Untypeset.Number Untypeset.Symbol Untypeset.Text

variable {place other : Located}

/-! ## Reading an element in its document -/

namespace Svg

/-- the glyphs below an element in document order -/
def glyphsBelow (place : Located) : List Located :=
  place.descendants.filter fun below => isGlyph below.node

/-- the horizontal position of a glyph below an element: what shifts it on the way up to the element, which itself is left out -/
def offsetWithin (place glyph : Located) : Binary64 :=
  ((glyph.node :: glyph.trail.map (·.2)).take (glyph.trail.length - place.trail.length)).foldl addShifts .zero

/-- the glyphs below an element from left to right -/
def readingOrder (place : Located) : List Located :=
  Binary64.sortedBy (offsetWithin place) (glyphsBelow place)

/-- the codes of the glyphs below an element from left to right -/
def readingCodes (place : Located) : List (List Char) :=
  (readingOrder place).map codeOf

/-! ## Positions and codes -/

mutual

/-- the positions and codes of the glyphs of a tree in document order; `around` adds what shifts the whole tree -/
def keysFrom (around : Binary64 → Binary64) : Node → List (Binary64 × List Char)
  | .text .. => []
  | .element name attributes children =>
    let node := Node.element name attributes children
    (if isGlyph node then [(around (addShifts .zero node), ((node.attr? "data-c").getD "").toList)] else []) ++
      keysOf (fun total => around (addShifts total node)) children

/-- the positions and codes of the glyphs of several trees -/
def keysOf (around : Binary64 → Binary64) : List Node → List (Binary64 × List Char)
  | [] => []
  | node :: rest => keysFrom around node ++ keysOf around rest

end

theorem keysOf_eq_flatMap (around : Binary64 → Binary64) (nodes : List Node) :
    keysOf around nodes = nodes.flatMap (keysFrom around) := by
  induction nodes with
  | nil => rfl
  | cons node rest ih => rw [keysOf, List.flatMap_cons, ih]

/-- the sum of the shifts of the elements between a glyph and the last one of a list, nearest first -/
def shiftsOf (inner : List (Nat × Node)) (total : Binary64) : Binary64 :=
  (inner.map (·.2)).dropLast.foldl addShifts total

theorem shiftsOf_cons {inner : List (Nat × Node)} (h : inner ≠ []) (index : Nat) (node : Node) :
    shiftsOf ((index, node) :: inner) = fun total => shiftsOf inner (addShifts total node) := by
  funext total
  rw [shiftsOf, List.map_cons, List.dropLast_cons_of_ne_nil (by simpa using h), List.foldl_cons]
  rfl

/-- where a glyph below an element is drawn, and its code -/
def keyWithin (place glyph : Located) : Binary64 × List Char :=
  (offsetWithin place glyph, codeOf glyph)

/-- the shifts are summed up to the element whose way up is `outer` -/
theorem offsetWithin_append (node start : Node) {inner : List (Nat × Node)} (h : inner ≠ []) (outer : List (Nat × Node)) :
    offsetWithin ⟨start, outer⟩ ⟨node, inner ++ outer⟩ = shiftsOf inner (addShifts .zero node) := by
  obtain ⟨length, hlength⟩ := Nat.exists_eq_succ_of_ne_zero (mt List.length_eq_zero_iff.1 h)
  rw [offsetWithin, shiftsOf, List.length_append, Nat.add_sub_cancel, hlength, List.take_succ_cons, List.foldl_cons,
    List.map_append, List.take_append_of_le_length (by rw [List.length_map]; omega), List.dropLast_eq_take, List.length_map,
    hlength]
  rfl

mutual

theorem map_key_subtree (start : Node) (outer inner : List (Nat × Node)) (h : inner ≠ []) (node : Node) :
    ((Located.subtree (inner ++ outer) node).filter fun below => isGlyph below.node).map (keyWithin ⟨start, outer⟩) =
      keysFrom (shiftsOf inner) node := by
  cases node with
  | text kind content => rfl
  | element name attributes children =>
    have ih := map_key_subtrees start outer inner (.element name attributes children) 0 children
    rw [Located.subtree, List.filter_cons, keysFrom, ← shiftsOf_cons h 0, ← ih]
    split
    · rw [List.map_cons, keyWithin, offsetWithin_append _ _ h]
      rfl
    · rfl

theorem map_key_subtrees (start : Node) (outer inner : List (Nat × Node)) (parent : Node) (index : Nat)
    (nodes : List Node) :
    ((Located.subtrees parent (inner ++ outer) index nodes).filter fun below => isGlyph below.node).map
        (keyWithin ⟨start, outer⟩) =
      keysOf (shiftsOf ((index, parent) :: inner)) nodes := by
  cases nodes with
  | nil => rfl
  | cons node rest =>
    rw [Located.subtrees, List.filter_append, List.map_append, keysOf,
      ← map_key_subtree start outer ((index, parent) :: inner) (List.cons_ne_nil _ _) node,
      map_key_subtrees start outer inner parent (index + 1) rest]
    rfl

end

/-- where the glyphs below an element are drawn depends on nothing but its children -/
theorem map_keyWithin (place : Located) :
    (glyphsBelow place).map (keyWithin place) = keysOf (fun total => total) place.node.children :=
  map_key_subtrees place.node place.trail [] place.node 0 place.node.children

theorem readingCodes_eq (place : Located) :
    readingCodes place = (Binary64.sortedBy Prod.fst (keysOf (fun total => total) place.node.children)).map (·.2) := by
  rw [← map_keyWithin, ← Binary64.map_sortedBy fun _ _ => rfl, List.map_map]
  rfl

/-- a tree that starts at the element gives the positions within it -/
theorem offset_eq_offsetWithin {node : Node} {glyph : Located} (h : glyph ∈ glyphs node) :
    offset glyph = offsetWithin (.top node) glyph := by
  obtain ⟨i, rest, hpath⟩ := Located.path_of_mem_descendants (List.mem_filter.1 h).1
  have hlength : glyph.trail.length ≠ 0 := by
    intro hnone
    have := congrArg List.length hpath
    simp [Located.path, Located.top, hnone] at this
  obtain ⟨length, hlength⟩ := Nat.exists_eq_succ_of_ne_zero hlength
  rw [offset, carriers, offsetWithin, Located.top, List.length_nil, Nat.sub_zero, hlength, List.take_succ_cons,
    List.dropLast_eq_take, List.length_map, hlength]
  rfl

/-- **nothing around an element moves its glyphs** -/
theorem glyphCodes_eq_reading (place : Located) : glyphCodes place.node = readingCodes place := by
  have htop : glyphCodes place.node = readingCodes (.top place.node) :=
    congrArg (List.map codeOf) (Binary64.sortedBy_eq_of_forall_mem fun glyph hglyph => (offset_eq_offsetWithin hglyph).symm)
  rw [htop, readingCodes_eq, readingCodes_eq]
  rfl

/-! ## Shuffled siblings -/

/-- a node that shows no text to any reader -/
def Mute (node : Node) : Prop :=
  ∀ reader, node.textsFor reader = []

/-- siblings among which, or somewhere below which, `use` elements with the property `p` were put in another order, any number
of times; the other nodes keep theirs -/
inductive Shuffled (p : Node → Prop) : List Node → List Node → Prop
  | siblings {nodes nodes' : List Node} (perm : nodes.Perm nodes')
    (others : nodes.filter (fun node => !node.isNamed "use") = nodes'.filter fun node => !node.isNamed "use")
    (uses : ∀ node ∈ nodes, node.isNamed "use" = true → p node) : Shuffled p nodes nodes'
  | inside {before after children inner : List Node} {name : String} {attributes : List (String × String)} :
    Shuffled p children inner →
    Shuffled p (before ++ .element name attributes children :: after) (before ++ .element name attributes inner :: after)
  | trans {nodes nodes' nodes'' : List Node} : Shuffled p nodes nodes' → Shuffled p nodes' nodes'' → Shuffled p nodes nodes''

variable {p : Node → Prop} {nodes nodes' : List Node}

theorem keysOf_append (around : Binary64 → Binary64) (a b : List Node) :
    keysOf around (a ++ b) = keysOf around a ++ keysOf around b := by
  rw [keysOf_eq_flatMap, keysOf_eq_flatMap, keysOf_eq_flatMap, List.flatMap_append]

/-- **a shuffled drawing has the same positions and codes** -/
theorem Shuffled.keys (h : Shuffled p nodes nodes') (around : Binary64 → Binary64) :
    (keysOf around nodes).Perm (keysOf around nodes') := by
  induction h generalizing around with
  | siblings perm =>
    rw [keysOf_eq_flatMap, keysOf_eq_flatMap]
    exact perm.flatMap_right _
  | @inside before after children inner name attributes _ ih =>
    have hinner := ih fun total => around (addShifts total (.element name attributes children))
    rw [keysOf_append, keysOf_append, keysOf, keysOf, keysFrom, keysFrom]
    exact .append_left _ (.append_right _ (.append_left _ hinner))
  | trans _ _ ih ih' => exact (ih around).trans (ih' around)

theorem textsOfAll_filter (reader : Option Enclave) (h : ∀ node ∈ nodes, node.isNamed "use" = true → Mute node) :
    Node.textsOfAll reader (nodes.filter fun node => !node.isNamed "use") = Node.textsOfAll reader nodes := by
  induction nodes with
  | nil => rfl
  | cons node rest ih =>
    have ih := ih fun other hother => h other (List.mem_cons_of_mem node hother)
    rw [List.filter_cons]
    split
    · rw [Node.textsOfAll, Node.textsOfAll, ih]
    · rename_i huse
      rw [Node.textsOfAll, h node List.mem_cons_self (by simpa using huse) reader, ih, List.nil_append]

/-- shuffling elements without text is not seen in the text -/
theorem Shuffled.texts (h : Shuffled Mute nodes nodes') (reader : Option Enclave) :
    Node.textsOfAll reader nodes = Node.textsOfAll reader nodes' := by
  induction h with
  | siblings perm others uses =>
    rw [← textsOfAll_filter reader uses, others,
      textsOfAll_filter reader fun node hnode => uses node (perm.mem_iff.2 hnode)]
  | inside _ ih =>
    rw [Node.textsOfAll_append, Node.textsOfAll_append, Node.textsOfAll, Node.textsOfAll, Node.textsFor, Node.textsFor, ih]
  | trans _ _ ih ih' => exact ih.trans ih'

/-! ## What a leaf shows -/

/-- two elements show the same: the codes of their glyphs from left to right, and all that is made of these and of the text -/
structure ShowAlike (symbols : SymbolTable) (a b : Located) : Prop where
  codes : readingCodes a = readingCodes b
  rawText : Formula.rawText .svg a.node = Formula.rawText .svg b.node
  codePoints : Formula.codePoints .svg a.node = Formula.codePoints .svg b.node
  content : Formula.content .svg symbols a.node = Formula.content .svg symbols b.node

theorem showAlike {symbols : SymbolTable} {a b : Located} (hcodes : readingCodes a = readingCodes b)
    (htext : a.node.trimmed = b.node.trimmed) : ShowAlike symbols a b := by
  have hshown : Shape.svg.glyphCodes a.node = Shape.svg.glyphCodes b.node := by
    exact (glyphCodes_eq_reading a).trans (hcodes.trans (glyphCodes_eq_reading b).symm)
  refine ⟨hcodes, ?_, ?_, ?_⟩
  · rw [Formula.rawText, Formula.rawText, htext, hshown]
  · rw [Formula.codePoints, Formula.codePoints, htext, hshown]
  · rw [Formula.content, Formula.content, htext, hshown]

variable {name : String} {attributes attributes' : List (String × String)} {children children' : List Node}
  {trail trail' : List (Nat × Node)}

/-- the text of an element is that of its children -/
theorem trimmed_element_congr (h : ∀ reader, Node.textsOfAll reader children' = Node.textsOfAll reader children) :
    (Node.element name attributes' children').trimmed = (Node.element name attributes children).trimmed := by
  rw [Node.trimmed, Node.trimmed, Node.content, Node.content, Node.shownTexts, Node.shownTexts, Node.textsFor, Node.textsFor, h]
  rfl

/-- numbers that are pairwise different put glyphs into one order, however the siblings are shuffled -/
theorem readingCodes_of_shuffled {place other : Located}
    (hnumbers : ∀ glyph ∈ glyphsBelow place, offsetWithin place glyph ≠ .nan)
    (hapart : ((glyphsBelow place).map (offsetWithin place)).Nodup)
    (h : Shuffled p place.node.children other.node.children) : readingCodes other = readingCodes place := by
  have hoffsets : ((glyphsBelow place).map (keyWithin place)).map Prod.fst =
      (glyphsBelow place).map (offsetWithin place) := List.map_map
  rw [readingCodes_eq, readingCodes_eq]
  refine congrArg _ (Binary64.sortedBy_congr ?_ ?_ (h.keys _)).symm
  · intro key hkey
    rw [← map_keyWithin] at hkey
    obtain ⟨glyph, hglyph, rfl⟩ := List.mem_map.1 hkey
    exact hnumbers glyph hglyph
  · rwa [← map_keyWithin, hoffsets]

/-- **Glyphs are read from left to right, losing none.** The codes of an element are those of the glyphs below it, each once, in
the order of their positions, which are measured in the document up to and without the element; neither its own attributes nor
anything around it is seen in what it shows. Where the positions are numbers, no glyph comes before one further left, and the
glyphs at one position keep the order of the document. Where moreover no two are equal, sibling `use` elements may be shuffled
anywhere below the element without a change of the codes, and if they hold no text, of anything that it shows. -/
theorem glyphs_read_in_order (symbols : SymbolTable) (name : String) (attributes : List (String × String))
    (children : List Node) (trail : List (Nat × Node)) :
    let place : Located := ⟨.element name attributes children, trail⟩
    Shape.svg.glyphCodes place.node = (readingOrder place).map codeOf ∧
      (readingOrder place).Perm (glyphsBelow place) ∧
      (∀ attributes' trail', ShowAlike symbols ⟨.element name attributes' children, trail'⟩ place) ∧
      ((∀ glyph ∈ glyphsBelow place, offsetWithin place glyph ≠ .nan) →
        (readingOrder place).Pairwise (fun a b => (offsetWithin place b).less (offsetWithin place a) = false) ∧
        (∀ x, (readingOrder place).filter (fun glyph => offsetWithin place glyph = x) =
          (glyphsBelow place).filter fun glyph => offsetWithin place glyph = x) ∧
        (((glyphsBelow place).map (offsetWithin place)).Nodup → ∀ children' attributes' trail',
          (∀ p, Shuffled p children children' →
            readingCodes ⟨.element name attributes' children', trail'⟩ = readingCodes place) ∧
          (Shuffled Mute children children' → ShowAlike symbols ⟨.element name attributes' children', trail'⟩ place))) := by
  intro place
  refine ⟨glyphCodes_eq_reading place, Binary64.sortedBy_perm _ _, ?_, fun hnumbers => ⟨?_, ?_, ?_⟩⟩
  · intro attributes' trail'
    refine showAlike ?_ (trimmed_element_congr fun _ => rfl)
    rw [readingCodes_eq, readingCodes_eq]
    rfl
  · exact Binary64.sortedBy_pairwise hnumbers
  · exact Binary64.filter_sortedBy hnumbers
  · intro hapart children' attributes' trail'
    refine ⟨fun p h => readingCodes_of_shuffled hnumbers hapart h, fun h => ?_⟩
    exact showAlike (readingCodes_of_shuffled hnumbers hapart h) (trimmed_element_congr fun reader => (h.texts reader).symm)

/-- a glyph at a position, with what stands in its element -/
def useAt (code x : String) (children : List Node) : Node :=
  .element "use" [("data-c", code), ("x", x)] children

/-- a leaf of its own -/
def drawnLeaf (children : List Node) : Located :=
  ⟨.element "g" [("data-mml-node", "mi")] children, []⟩

theorem glyphs_read_in_order_swapped :
    readingCodes (drawnLeaf [useAt "42" "5" [], useAt "41" "0" []]) = ["41".toList, "42".toList] ∧
      ShowAlike .default (drawnLeaf [useAt "41" "0" [], useAt "42" "5" []])
        (drawnLeaf [useAt "42" "5" [], useAt "41" "0" []]) := by
  obtain ⟨-, -, -, hread⟩ :=
    glyphs_read_in_order .default "g" [("data-mml-node", "mi")] [useAt "42" "5" [], useAt "41" "0" []] []
  obtain ⟨-, -, hshuffled⟩ := hread (by decide +kernel)
  have hswap : Shuffled Mute [useAt "42" "5" [], useAt "41" "0" []] [useAt "41" "0" [], useAt "42" "5" []] := by
    refine .siblings (.swap _ _ _) rfl ?_
    intro node hnode _ reader
    rcases List.mem_pair.1 hnode with rfl | rfl <;> rfl
  have halike : ShowAlike .default (drawnLeaf [useAt "41" "0" [], useAt "42" "5" []])
      (drawnLeaf [useAt "42" "5" [], useAt "41" "0" []]) :=
    (hshuffled (by decide +kernel) _ _ _).2 hswap
  have hsorted : readingOrder (drawnLeaf [useAt "41" "0" [], useAt "42" "5" []]) =
      glyphsBelow (drawnLeaf [useAt "41" "0" [], useAt "42" "5" []]) :=
    List.mergeSort_of_pairwise (by decide +kernel)
  refine ⟨?_, halike⟩
  rw [← halike.codes, readingCodes, hsorted]
  decide +kernel

/-- four glyphs, the third of which is at no number -/
def unordered : Located :=
  drawnLeaf [useAt "35" "5" [], useAt "36" "6" [], useAt "78" "nan" [], useAt "31" "1" []]

/-- two glyphs, drawn from right to left, with text of their own -/
def lettered : List Node :=
  [useAt "42" "5" [.text .plain "b"], useAt "41" "0" [.text .plain "a"]]

/-- **what limits this**: the text in `use` elements is put together in document order, and what is no number is in no order -/
theorem glyphs_out_of_order :
    ((∀ glyph ∈ glyphsBelow (drawnLeaf lettered), offsetWithin (drawnLeaf lettered) glyph ≠ .nan) ∧
      ((glyphsBelow (drawnLeaf lettered)).map (offsetWithin (drawnLeaf lettered))).Nodup ∧
      Shuffled (fun _ => True) lettered lettered.reverse ∧
      Formula.rawText .svg (drawnLeaf lettered).node = "ba".toList ∧
      Formula.rawText .svg (drawnLeaf lettered.reverse).node = "ab".toList) ∧
    ¬ (readingOrder unordered).Pairwise fun a b => (offsetWithin unordered b).less (offsetWithin unordered a) = false := by
  refine ⟨⟨by decide +kernel, by decide +kernel, .siblings (.swap _ _ _) rfl fun _ _ _ => trivial, by decide +kernel,
    by decide +kernel⟩, fun hordered => ?_⟩
  have hpositions : (readingOrder unordered).map (offsetWithin unordered) =
      [offsetOf "5".toList, offsetOf "6".toList, .nan, offsetOf "1".toList] := by
    have hdrawn : (glyphsBelow unordered).map (offsetWithin unordered) =
        [offsetOf "5".toList, offsetOf "6".toList, .nan, offsetOf "1".toList] := by
      decide +kernel
    have hsorted : (readingOrder unordered).map (offsetWithin unordered) =
        Binary64.sortedBy id ((glyphsBelow unordered).map (offsetWithin unordered)) :=
      Binary64.map_sortedBy fun _ _ => rfl
    rw [hsorted, hdrawn]
    exact Binary64.sortedBy_nan (by decide +kernel) _
  have hpairwise : ((readingOrder unordered).map (offsetWithin unordered)).Pairwise fun x y => y.less x = false :=
    List.pairwise_map.2 hordered
  rw [hpositions] at hpairwise
  exact absurd hpairwise (by decide +kernel)

end Svg

end Untypeset.Rendering
