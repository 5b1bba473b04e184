import Untypeset.Rendering.MathML
import Untypeset.Text.Hex

/-!
Formulas as styled boxes. Elements have names of their own with the prefix `mjx-`; the arguments of fractions, limits
and roots lie in boxes at varying depth, so each is looked for level by level, an outer one before a nested one.
Glyphs are boxes whose class holds the code point.
-/

namespace Untypeset.Rendering.Chtml

open Untypeset.Markup Untypeset.Text

/-- the elements with a kind of their own -/
def kinds : List (String × Kind) :=
  [("mjx-math", .math), ("mjx-mrow", .row), ("mjx-inferredmrow", .row), ("mjx-mi", .identifier),
   ("mjx-mn", .number), ("mjx-mo", .operator), ("mjx-mtext", .words), ("mjx-msqrt", .sqrt), ("mjx-sqrt", .sqrt),
   ("mjx-mroot", .root), ("mjx-mfrac", .fraction), ("mjx-frac", .fraction), ("mjx-msup", .superscript),
   ("mjx-msub", .subscript), ("mjx-msubsup", .subsup), ("mjx-munder", .under), ("mjx-munderover", .underover),
   ("mjx-mover", .over), ("mjx-mstyle", .style)]

/-- the elements that only draw or space -/
def ignoredNames : List String :=
  ["mjx-assistive-mml", "mjx-c", "mjx-surd", "mjx-spacer", "mjx-nstrut", "mjx-dstrut", "mjx-line", "mjx-linestrut",
   "mjx-mspace"]

/-- the kind of a node, by its name in lower case -/
def kind : Node → Kind
  | .element name .. =>
    let lowered := String.ofList (lowerCase name.toList)
    if ignoredNames.contains lowered then .ignored else (kinds.lookup lowered).getD .container
  | node@(.text ..) => Kind.ofText node

/-! ## Search for parts -/

/-- the children that are elements -/
def elementsOf (place : Located) : List Located :=
  place.children.filter (·.node.isElement)

/-- the number of nodes in and below a level -/
def weight : List Located → Nat
  | [] => 0
  | place :: rest => place.node.size + weight rest

theorem weight_append (a b : List Located) : weight (a ++ b) = weight a + weight b := by
  induction a with
  | nil => simp [weight]
  | cons place rest ih => simp only [List.cons_append, weight, ih]; omega

theorem weight_filter_le (p : Located → Bool) (level : List Located) : weight (level.filter p) ≤ weight level := by
  induction level with
  | nil => simp
  | cons place rest ih =>
    simp only [List.filter_cons]
    split <;> simp only [weight] <;> omega

theorem weight_siblings (parent : Node) (trail : List (Nat × Node)) (index : Nat) (nodes : List Node) :
    weight (Located.siblings parent trail index nodes) = Node.sizes nodes := by
  induction nodes generalizing index with
  | nil => rfl
  | cons node rest ih =>
    simp only [weight, Located.siblings, Node.sizes, ih]

theorem weight_elementsOf_lt (place : Located) : weight (elementsOf place) < place.node.size := by
  refine Nat.lt_of_le_of_lt (weight_filter_le _ _) ?_
  obtain ⟨node, trail⟩ := place
  cases node with
  | text => simp [Located.children, Node.children, Located.siblings, weight, Node.size]
  | element name attributes nodes =>
    simp only [Located.children, Node.children, weight_siblings, Node.size]
    omega

theorem weight_flatMap_elementsOf_le (level : List Located) : weight (level.flatMap elementsOf) ≤ weight level := by
  induction level with
  | nil => simp
  | cons place rest ih =>
    have := weight_elementsOf_lt place
    simp only [List.flatMap_cons, weight_append, weight]
    omega

/-- searches one level for an element of this name, then the level below it -/
def searchLevels? (name : String) : List Located → Option Located
  | [] => none
  | place :: rest =>
    match (place :: rest).find? (·.node.isNamed name) with
    | some found => some found
    | none => searchLevels? name ((place :: rest).flatMap elementsOf)
termination_by level => weight level
decreasing_by
  have h₁ := weight_elementsOf_lt place
  have h₂ := weight_flatMap_elementsOf_le rest
  simp only [List.flatMap_cons, weight_append, weight]
  omega

/-- the element of this name that lies least deep below a place, the first of several -/
def shallowest? (place : Located) (name : String) : Option Located :=
  searchLevels? name (elementsOf place)

/-! ## Structure -/

/-- the children that count -/
def counted (place : Located) : List Located :=
  countedChildren kind place

/-- the element that draws a radical: the place itself or the shallowest below it -/
def radical? (place : Located) : Option Located :=
  if place.node.isNamed "mjx-sqrt" then some place else shallowest? place "mjx-sqrt"

/-- the box that holds what stands under a radical -/
def radicalBox? (place : Located) : Option Located :=
  (radical? place).bind fun radical => radical.children.find? (·.node.isNamed "mjx-box")

/-- the shallowest boxes of several names, if they are all there -/
def boxes? (place : Located) : List String → Option (List Located)
  | [] => some []
  | name :: names =>
    (shallowest? place name).bind fun box => (boxes? place names).map fun boxes => box :: boxes

/-- the first two of a list -/
def firstTwo? : List Located → Option (List Located)
  | base :: script :: _ => some [base, script]
  | _ => none

/-- the base and the scripts of a list whose second element stacks the upper script onto the lower one -/
def stacked? : List Located → Option (List Located)
  | base :: scripts :: _ =>
    if scripts.node.isNamed "mjx-script" then
      match counted scripts with
      | upper :: lower :: _ => some [base, lower, upper]
      | _ => none
    else
      none
  | _ => none

/-- the arguments of a structure whose boxes are all there -/
def arguments? (place : Located) : Option (List Located) :=
  match kind place.node with
  | .fraction => boxes? place ["mjx-num", "mjx-den"]
  | .superscript | .subscript => firstTwo? (counted place)
  | .subsup => stacked? (counted place)
  | .under => boxes? place ["mjx-base", "mjx-under"]
  | .underover => boxes? place ["mjx-base", "mjx-under", "mjx-over"]
  | .over => boxes? place ["mjx-base", "mjx-over"]
  | .root =>
    (shallowest? place "mjx-root").bind fun index => (radicalBox? place).map fun box => [box, index]
  | _ => none

/-- the structural children: the arguments in reading order, or all that count where a box is missing -/
def children (place : Located) : List Located :=
  (arguments? place).getD (counted place)

/-- what stands under a square root -/
def radicand (place : Located) : List Located :=
  match radicalBox? place with
  | some box => counted box
  | none => counted place

/-! ## Parts stand below the whole -/

theorem elementsOf_lt {place child : Located} (h : child ∈ elementsOf place) : child.node.size < place.node.size :=
  Located.children_lt (List.mem_filter.1 h).1

theorem searchLevels?_lt {name : String} {level : List Located} {found : Located} {bound : Nat}
    (h : searchLevels? name level = some found) (hlevel : ∀ place ∈ level, place.node.size < bound) :
    found.node.size < bound := by
  induction level using searchLevels?.induct name with
  | case1 => simp [searchLevels?] at h
  | case2 place rest first hfirst =>
    rw [searchLevels?, hfirst] at h
    cases h
    exact hlevel _ (List.mem_of_find?_eq_some hfirst)
  | case3 place rest hnone ih =>
    rw [searchLevels?, hnone] at h
    refine ih h fun below hbelow => ?_
    obtain ⟨upper, hupper, hmem⟩ := List.mem_flatMap.1 hbelow
    exact Nat.lt_trans (elementsOf_lt hmem) (hlevel upper hupper)

theorem shallowest?_lt {place found : Located} {name : String} (h : shallowest? place name = some found) :
    found.node.size < place.node.size :=
  searchLevels?_lt h fun _ hmem => elementsOf_lt hmem

theorem counted_lt {place child : Located} (h : child ∈ counted place) : child.node.size < place.node.size :=
  countedChildren_lt h

theorem radical?_le {place radical : Located} (h : radical? place = some radical) :
    radical.node.size ≤ place.node.size := by
  unfold radical? at h
  split at h
  · cases h
    exact Nat.le_refl _
  · exact Nat.le_of_lt (shallowest?_lt h)

theorem radicalBox?_lt {place box : Located} (h : radicalBox? place = some box) :
    box.node.size < place.node.size := by
  obtain ⟨radical, hradical, hbox⟩ := Option.bind_eq_some_iff.1 h
  exact Nat.lt_of_lt_of_le (Located.children_lt (List.mem_of_find?_eq_some hbox)) (radical?_le hradical)

theorem boxes?_lt {place child : Located} {names : List String} {boxes : List Located}
    (h : boxes? place names = some boxes) (hmem : child ∈ boxes) : child.node.size < place.node.size := by
  induction names generalizing boxes with
  | nil =>
    cases h
    cases hmem
  | cons name names ih =>
    obtain ⟨box, hbox, hrest⟩ := Option.bind_eq_some_iff.1 h
    obtain ⟨rest, htail, rfl⟩ := Option.map_eq_some_iff.1 hrest
    rcases List.mem_cons.1 hmem with rfl | hmem
    · exact shallowest?_lt hbox
    · exact ih htail hmem

theorem firstTwo?_subset {places parts : List Located} (h : firstTwo? places = some parts) : parts ⊆ places := by
  unfold firstTwo? at h
  split at h
  · cases h
    simp
  · cases h

theorem stacked?_lt {place child : Located} {places parts : List Located}
    (hplaces : ∀ p ∈ places, p.node.size < place.node.size) (h : stacked? places = some parts) (hmem : child ∈ parts) :
    child.node.size < place.node.size := by
  unfold stacked? at h
  split at h
  · rename_i base scripts rest
    split at h
    · split at h
      · rename_i upper lower more hscripts
        cases h
        have hstack : scripts.node.size < place.node.size := hplaces _ (by simp)
        have hscript : ∀ p ∈ upper :: lower :: more, p.node.size < scripts.node.size :=
          fun p hp => counted_lt (hscripts ▸ hp)
        simp only [List.mem_cons, List.not_mem_nil, or_false] at hmem
        rcases hmem with rfl | rfl | rfl
        · exact hplaces _ (by simp)
        · exact Nat.lt_trans (hscript _ (by simp)) hstack
        · exact Nat.lt_trans (hscript _ (by simp)) hstack
      · cases h
    · cases h
  · cases h

theorem arguments?_lt {place child : Located} {parts : List Located} (h : arguments? place = some parts)
    (hmem : child ∈ parts) : child.node.size < place.node.size := by
  unfold arguments? at h
  split at h
  · exact boxes?_lt h hmem
  · exact counted_lt (firstTwo?_subset h hmem)
  · exact counted_lt (firstTwo?_subset h hmem)
  · exact stacked?_lt (fun _ hp => counted_lt hp) h hmem
  · exact boxes?_lt h hmem
  · exact boxes?_lt h hmem
  · exact boxes?_lt h hmem
  · obtain ⟨index, hindex, hrest⟩ := Option.bind_eq_some_iff.1 h
    obtain ⟨box, hbox, rfl⟩ := Option.map_eq_some_iff.1 hrest
    simp only [List.mem_cons, List.not_mem_nil, or_false] at hmem
    rcases hmem with rfl | rfl
    · exact radicalBox?_lt hbox
    · exact shallowest?_lt hindex
  · cases h

theorem children_lt {place child : Located} (h : child ∈ children place) : child.node.size < place.node.size := by
  unfold children at h
  cases hargs : arguments? place with
  | none => rw [hargs] at h; exact counted_lt h
  | some parts => rw [hargs] at h; exact arguments?_lt hargs h

theorem radicand_lt {place child : Located} (h : child ∈ radicand place) : child.node.size < place.node.size := by
  unfold radicand at h
  split at h
  · rename_i box hbox
    exact Nat.lt_trans (counted_lt h) (radicalBox?_lt hbox)
  · exact counted_lt h

/-! ## Glyphs -/

/-- the code that a text starts with: `mjx-c` and a run of hexadecimal digits that ends where the word ends -/
def codeAtStart? (s : List Char) : Option (List Char) :=
  let opening := "mjx-c".toList
  if opening.isPrefixOf s then
    let rest := s.drop opening.length
    let digits := rest.takeWhile isHexDigit
    let ends := !((rest.dropWhile isHexDigit).head?.map isWordChar).getD false
    if !digits.isEmpty && ends then some digits else none
  else
    none

/-- the first code in a class -/
def classCode? : List Char → Option (List Char)
  | [] => none
  | s@(_ :: rest) => (codeAtStart? s).or (classCode? rest)

/-- the codes of a glyph box: the one in its class, or else those of the characters it shows -/
def boxCodes (box : Node) : List (List Char) :=
  match classCode? ((box.attr? "class").getD "").toList with
  | some code => [code]
  | none => box.content.map fun c => hexDigits c.toNat

/-- the codes of all glyph boxes below a node in document order -/
def glyphCodes (node : Node) : List (List Char) :=
  ((Located.top node).descendants.filter (·.node.isNamed "mjx-c")).flatMap fun place => boxCodes place.node

end Untypeset.Rendering.Chtml
