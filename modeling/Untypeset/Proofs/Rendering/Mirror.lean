import Mathlib.Data.List.Find
import Untypeset.Proofs.Markup.Places
import Untypeset.Proofs.Rendering.Anywhere

/-!
A rendering and its mirror: a container holds what is drawn and, beside it, the same formula as assistive MathML. Where the
mirror is preferred, a conversion from the container or from any element in it is the conversion of the first formula of the
mirror, whatever is drawn; where it is not, a conversion of a container of styled boxes is the same whatever the mirror holds
(`mirror_apart`). An element that lies in another container, further in, is converted by that one instead
(`inner_container_has_no_mirror`).
-/

namespace Untypeset

open Untypeset.Markup Untypeset.Rendering Untypeset.Text

/-! ## Nodes below a place -/

namespace Markup.Located

variable {place below : Located}

theorem node_mem_of_mem_descendants (h : below ∈ place.descendants) : below.node ∈ place.node.nodes := by
  have hmem := node_mem_nodesOf h
  cases hnode : place.node with
  | text =>
    rw [hnode] at hmem
    cases hmem
  | element name attributes nodes =>
    rw [hnode] at hmem
    rw [Node.nodes]
    exact List.mem_cons_of_mem _ hmem

/-- selection by name depends on the node alone -/
theorem map_node_selectNamed? {place other : Located} (h : place.node = other.node) (name : String) :
    (place.selectNamed? name).map (·.node) = (other.selectNamed? name).map (·.node) := by
  have hnodes (place : Located) : (place.selectNamed? name).map (·.node) =
      (Node.nodesOf place.node.children).find? fun node => node.isElement && node.matchesName name := by
    rw [← map_node_descendants, List.find?_map]
    rfl
  rw [hnodes, hnodes, h]

theorem siblings_append (parent : Node) (trail : List (Nat × Node)) (index : Nat) (before after : List Node) :
    siblings parent trail index (before ++ after) =
      siblings parent trail index before ++ siblings parent trail (index + before.length) after := by
  induction before generalizing index with
  | nil => rfl
  | cons node rest ih =>
    rw [List.cons_append, siblings, siblings, ih, List.cons_append, List.length_cons, Nat.add_assoc, Nat.add_comm 1]

end Markup.Located

/-! ## Containers and mirrors -/

/-- a rendering: what is drawn before its mirror, the mirror, and what is drawn behind it -/
structure Rendition where
  attributes : List (String × String)
  before : List Node
  mirrorAttributes : List (String × String)
  inside : List Node
  after : List Node

namespace Rendition

variable (rendition : Rendition)

/-- the element that holds assistive MathML -/
def mirror : Node :=
  .element "mjx-assistive-mml" rendition.mirrorAttributes rendition.inside

/-- the container of a rendering -/
def container : Node :=
  .element "mjx-container" rendition.attributes (rendition.before ++ rendition.mirror :: rendition.after)

/-- the container in its place -/
def place (trail : List (Nat × Node)) : Located :=
  ⟨rendition.container, trail⟩

/-- the mirror in its place -/
def mirrorPlace (trail : List (Nat × Node)) : Located :=
  ⟨rendition.mirror, (rendition.before.length, rendition.container) :: trail⟩

/-- the rendering with something else in its mirror -/
def holding (inside : List Node) : Rendition :=
  { rendition with inside := inside }

end Rendition

/-- whether selectors take an element for a mirror -/
def isMirror (node : Node) : Bool :=
  node.matchesName "mjx-assistive-mml"

variable {rendition : Rendition} {trail : List (Nat × Node)} {found : Located}

theorem descendants_place : (rendition.place trail).descendants =
    ((Located.siblings rendition.container trail 0 rendition.before).flatMap fun child => child :: child.descendants) ++
      rendition.mirrorPlace trail :: ((rendition.mirrorPlace trail).descendants ++
        ((Located.siblings rendition.container trail (rendition.before.length + 1) rendition.after).flatMap
          fun child => child :: child.descendants)) := by
  rw [Located.descendants_eq, Located.children]
  change (Located.siblings rendition.container trail 0 (rendition.before ++ rendition.mirror :: rendition.after)).flatMap _ = _
  rw [Located.siblings_append, Located.siblings, List.flatMap_append, List.flatMap_cons, Nat.zero_add]
  rfl

theorem not_isMirror_container : isMirror rendition.container = false := by
  rfl

/-- no mirror is around what is drawn before the mirror -/
theorem not_inside_mirror (houter : ∀ outer ∈ (rendition.place trail).ancestors, isMirror outer.node = false)
    (hbefore : ∀ node ∈ rendition.before, node.Everywhere fun inner => isMirror inner = false) {child : Located}
    (hchild : child ∈ Located.siblings rendition.container trail 0 rendition.before)
    (h : found = child ∨ found ∈ child.descendants) : found.ancestors.any (isMirror ·.node) = false := by
  have hclear := hbefore child.node (Located.mem_siblings hchild)
  have hchildAncestors : child.ancestors = rendition.place trail :: (rendition.place trail).ancestors := by
    obtain ⟨i, -, htrail⟩ := Located.exists_of_mem_siblings hchild
    rw [Located.ancestors, htrail]
    rfl
  have habove : ∀ outer ∈ rendition.place trail :: (rendition.place trail).ancestors, isMirror outer.node = false :=
    List.forall_mem_cons.2 ⟨not_isMirror_container, houter⟩
  rw [List.any_eq_false]
  intro outer hmem
  rw [Bool.not_eq_true]
  rcases h with rfl | hfound
  · rw [hchildAncestors] at hmem
    exact habove outer hmem
  · obtain ⟨between, hancestors, hbetween⟩ := Located.ancestors_of_mem_descendants hfound
    rw [hancestors, hchildAncestors] at hmem
    rcases List.mem_append.1 hmem with hinner | hmem
    · exact hclear _ (Located.node_mem_of_mem_descendants (hbetween outer hinner).1)
    · rcases List.mem_cons.1 hmem with rfl | hmem
      · exact hclear _ (Node.mem_nodes _)
      · exact habove outer hmem

/-- whether this is a formula with a mirror around it -/
def isMirrored (place : Located) : Bool :=
  place.node.isElement && (place.node.matchesName "math" && place.ancestors.any (isMirror ·.node))

/-- below a mirror, any formula has a mirror around it -/
theorem find?_mirrorPlace :
    (rendition.mirrorPlace trail).descendants.find? isMirrored = (rendition.mirrorPlace trail).selectNamed? "math" := by
  apply List.find?_congr
  intro found hfound
  obtain ⟨between, hancestors, -⟩ := Located.ancestors_of_mem_descendants hfound
  have hany : found.ancestors.any (isMirror ·.node) = true := by
    rw [List.any_eq_true, hancestors]
    exact ⟨_, List.mem_append_right _ List.mem_cons_self, rfl⟩
  rw [isMirrored, hany, Bool.and_true]

/-- nothing that is drawn before the mirror is a formula with a mirror around it -/
theorem find?_before (houter : ∀ outer ∈ (rendition.place trail).ancestors, isMirror outer.node = false)
    (hbefore : ∀ node ∈ rendition.before, node.Everywhere fun inner => isMirror inner = false) :
    ((Located.siblings rendition.container trail 0 rendition.before).flatMap fun child =>
      child :: child.descendants).find? isMirrored = none := by
  rw [List.find?_eq_none]
  intro place hplace
  obtain ⟨child, hchild, hmem⟩ := List.mem_flatMap.1 hplace
  rw [isMirrored, not_inside_mirror houter hbefore hchild (List.mem_cons.1 hmem)]
  simp

/-- the assistive MathML of a container is the first formula in its mirror -/
theorem selectInside?_place (houter : ∀ outer ∈ (rendition.place trail).ancestors, isMirror outer.node = false)
    (hbefore : ∀ node ∈ rendition.before, node.Everywhere fun inner => isMirror inner = false) {math : Located}
    (hmath : (Located.top rendition.mirror).selectNamed? "math" = some math) :
    ∃ found, (rendition.place trail).selectInside? "mjx-assistive-mml" "math" = some found ∧ found.node = math.node := by
  have htop : (rendition.mirrorPlace trail).node = (Located.top rendition.mirror).node := rfl
  have hsame := Located.map_node_selectNamed? htop "math"
  rw [hmath] at hsame
  obtain ⟨found, hfound, hnode⟩ := Option.map_eq_some_iff.1 hsame
  refine ⟨found, ?_, hnode⟩
  have hself : ¬ isMirrored (rendition.mirrorPlace trail) = true := by
    rw [isMirrored, show (rendition.mirrorPlace trail).node.matchesName "math" = false from rfl]
    simp
  change (rendition.place trail).descendants.find? isMirrored = some found
  rw [descendants_place, List.find?_append, find?_before houter hbefore, Option.none_or, List.find?_cons_of_neg hself,
    List.find?_append, find?_mirrorPlace, hfound, Option.some_or]

/-! ## The container of an element -/

/-- an element of a rendition that neither is nor lies in a container further in -/
structure Belongs (trail : List (Nat × Node)) (rendition : Rendition) (place : Located) : Prop where
  element : place.node.isElement = true
  within : place = rendition.place trail ∨ place ∈ (rendition.place trail).descendants
  own : ∀ inner ∈ (rendition.place trail).descendants, inner.node.isNamed "mjx-container" = true →
    place ≠ inner ∧ place ∉ inner.descendants

/-- the container of what belongs to a rendition is the container of the rendition -/
theorem Belongs.container? {place : Located} (h : Belongs trail rendition place) :
    container? place = some (rendition.place trail) := by
  unfold Rendering.container?
  rcases h.within with rfl | hbelow
  · rfl
  · have hnot : ¬ place.node.isNamed "mjx-container" = true := by
      intro hnamed
      exact (h.own place hbelow hnamed).1 rfl
    obtain ⟨between, hancestors, hbetween⟩ := Located.ancestors_of_mem_descendants hbelow
    have hnone : between.find? (·.node.isNamed "mjx-container") = none := by
      rw [List.find?_eq_none]
      intro inner hinner hnamed
      obtain ⟨habove, hinside⟩ := hbetween inner hinner
      exact (h.own inner habove hnamed).2 hinside
    rw [if_neg hnot, Located.enclosing?, hancestors, List.find?_append, hnone, Option.none_or, List.find?_cons_of_pos rfl]

/-- **a preferred mirror decides**: what belongs to a rendition is converted as the first formula of its mirror -/
theorem convert_mirrored (converter : Converter) (hprefer : converter.preferAssistive = true)
    (houter : ∀ outer ∈ (rendition.place trail).ancestors, isMirror outer.node = false)
    (hbefore : ∀ node ∈ rendition.before, node.Everywhere fun inner => isMirror inner = false) {math : Located}
    (hmath : (Located.top rendition.mirror).selectNamed? "math" = some math) {place : Located}
    (h : Belongs trail rendition place) :
    (converter.convert (some place)).value = (converter.convertAs .mathml math).value := by
  obtain ⟨found, hfound, hnode⟩ := selectInside?_place houter hbefore hmath
  have hassistive : assistive? place = some found := by
    rw [assistive?, h.container?, Option.getD_some, hfound]
  have hdetect : detect? converter.preferAssistive place = some (.mathml, found) := by
    rw [detect?, h.element, hprefer, hassistive]
    rfl
  rw [Converter.convert, Option.bind_some, hdetect]
  exact value_convertAs_congr converter .mathml hnode

/-! ## What is drawn -/

/-- the counted parts of a container are what is drawn -/
theorem partNodes_place : (Formula.partPlaces .chtml (rendition.place trail)).map (·.node) =
    (rendition.before ++ rendition.after).filter fun child => Chtml.kind child ≠ .ignored := by
  have hparts : Formula.partPlaces .chtml (rendition.place trail) = Chtml.counted (rendition.place trail) := rfl
  have hmirror : Chtml.kind rendition.mirror = .ignored := rfl
  rw [hparts, Chtml.map_node_counted]
  change (rendition.before ++ rendition.mirror :: rendition.after).filter _ = _
  rw [List.filter_append, List.filter_append, List.filter_cons_of_neg]
  simp [hmirror]

/-- the LaTeX of what is drawn does not depend on the mirror -/
theorem latex_place (inside : List Node) (otherTrail : List (Nat × Node)) (symbols : Symbol.SymbolTable) :
    (Formula.read .chtml symbols (rendition.place trail)).latex symbols =
      (Formula.read .chtml symbols ((rendition.holding inside).place otherTrail)).latex symbols := by
  have hnodes : SameNodes (Formula.partPlaces .chtml (rendition.place trail))
      (Formula.partPlaces .chtml ((rendition.holding inside).place otherTrail)) := by
    rw [SameNodes, partNodes_place, partNodes_place]
    rfl
  have hkind (rendition : Rendition) (trail : List (Nat × Node)) :
      (Formula.read .chtml symbols (rendition.place trail)).kind.isPlain = true := by
    rw [Formula.kind_read]
    rfl
  rw [latex_plain (hkind rendition trail), latex_plain (hkind _ otherTrail), Formula.parts_read, Formula.parts_read]
  exact rowLatex_congr .chtml symbols hnodes

theorem isChtml_place (hjax : rendition.attributes.lookup "jax" = some "CHTML") : isChtml (rendition.place trail) = true := by
  have hholds : holdsBoxes (rendition.place trail).node = true := by
    rw [holdsBoxes, show (rendition.place trail).node.attr? "jax" = rendition.attributes.lookup "jax" from rfl, hjax]
    decide
  have hlower : lowerCase "mjx-container".toList = "mjx-container".toList := by decide
  rw [isChtml, show (rendition.place trail).node.name? = some "mjx-container" from rfl]
  dsimp only
  rw [hlower, if_neg (by decide), if_pos (by decide), hholds]

/-- where the mirror is not preferred, the boxes of a container are converted from the container on -/
theorem detect?_boxes (hjax : rendition.attributes.lookup "jax" = some "CHTML") :
    detect? false (rendition.place trail) = some (.chtml, rendition.place trail) := by
  have hboxes : boxes? (rendition.place trail) = some (rendition.place trail) := by
    rw [boxes?, if_pos (isChtml_place hjax)]
  rw [detect?, visual?, hboxes]
  rfl

/-- **what is drawn decides otherwise**: boxes are converted alike whatever the mirror beside them holds -/
theorem convert_drawn (converter : Converter) (hprefer : converter.preferAssistive = false)
    (hjax : rendition.attributes.lookup "jax" = some "CHTML") (inside : List Node) (otherTrail : List (Nat × Node)) :
    (converter.convert (some (rendition.place trail))).value =
      (converter.convert (some ((rendition.holding inside).place otherTrail))).value := by
  have hlatex : (convertAt .chtml converter.symbols (rendition.place trail)).value =
      (convertAt .chtml converter.symbols ((rendition.holding inside).place otherTrail)).value :=
    congrArg Latex.sized (latex_place inside otherTrail converter.symbols)
  have hother : detect? false ((rendition.holding inside).place otherTrail) =
      some (.chtml, (rendition.holding inside).place otherTrail) :=
    detect?_boxes hjax
  rw [Converter.convert, Converter.convert, Option.bind_some, Option.bind_some, hprefer, detect?_boxes hjax, hother]
  unfold Converter.convertAs
  dsimp only
  split
  · rfl
  · rw [hlatex]

/-- **a rendering and its mirror do not interfere**: where the mirror is preferred, whatever belongs to the rendition is
converted as the first formula of the mirror, so that neither the place nor what is drawn matters; where it is not, the
conversion of a container of styled boxes is the same whatever the mirror holds. No mirror may be around the container, nor in
what is drawn before its own mirror -/
theorem mirror_apart (converter : Converter) (rendition : Rendition) (trail : List (Nat × Node)) :
    (converter.preferAssistive = true →
      (∀ outer ∈ (rendition.place trail).ancestors, isMirror outer.node = false) →
      (∀ node ∈ rendition.before, node.Everywhere fun inner => isMirror inner = false) →
      ∀ math, (Located.top rendition.mirror).selectNamed? "math" = some math →
      ∀ place, Belongs trail rendition place →
        (converter.convert (some place)).value = (converter.convertAs .mathml math).value) ∧
    (converter.preferAssistive = false → rendition.attributes.lookup "jax" = some "CHTML" →
      ∀ inside otherTrail, (converter.convert (some (rendition.place trail))).value =
        (converter.convert (some ((rendition.holding inside).place otherTrail))).value) :=
  ⟨fun hprefer houter hbefore _ hmath _ => convert_mirrored converter hprefer houter hbefore hmath,
    convert_drawn converter⟩

/-- a converter with the default tables -/
def defaultConverter (preferAssistive : Bool) : Converter :=
  ⟨.default, preferAssistive, none⟩

/-- an element with one letter -/
def letterIn (name letter : String) : Node :=
  .element name [] [.text .plain letter]

/-- the boxes of one letter -/
def letterBox (code : String) : Node :=
  .element "mjx-math" [] [.element "mjx-mi" [] [.element "mjx-c" [("class", "mjx-c" ++ code)] []]]

/-- an x that is drawn, with a y in the mirror beside it -/
def twoLetters : Rendition where
  attributes := [("jax", "CHTML")]
  before := [letterBox "78"]
  mirrorAttributes := []
  inside := [.element "math" [] [letterIn "mi" "y"]]
  after := []

theorem mirror_apart_of_twoLetters :
    (∀ place ∈ twoLetters.place [] :: (twoLetters.place []).descendants, place.node.isElement = true →
      ((defaultConverter true).convert (some place)).value = .converted .mathml ['y']) ∧
    ((defaultConverter false).convert (some (twoLetters.place []))).value = .converted .chtml ['x'] ∧
      ((defaultConverter false).convert (some ((twoLetters.holding []).place []))).value = .converted .chtml ['x'] := by
  have hbelongs : ∀ place ∈ twoLetters.place [] :: (twoLetters.place []).descendants, place.node.isElement = true →
      Belongs [] twoLetters place := by
    have hnone : ∀ inner ∈ (twoLetters.place []).descendants, inner.node.isNamed "mjx-container" = false := by decide
    intro place hplace helement
    refine ⟨helement, List.mem_cons.1 hplace, ?_⟩
    intro inner hinner hnamed
    rw [hnone inner hinner] at hnamed
    cases hnamed
  have hmirror : ∀ place ∈ twoLetters.place [] :: (twoLetters.place []).descendants, place.node.isElement = true →
      ((defaultConverter true).convert (some place)).value = .converted .mathml ['y'] := by
    intro place hplace helement
    have hpreferred := (mirror_apart (defaultConverter true) twoLetters []).1 rfl nofun (by decide) _ rfl place
      (hbelongs place hplace helement)
    exact hpreferred.trans (by decide +kernel)
  have hboxes : ((defaultConverter false).convert (some (twoLetters.place []))).value = .converted .chtml ['x'] := by
    decide +kernel
  exact ⟨hmirror, hboxes, ((mirror_apart (defaultConverter false) twoLetters []).2 rfl rfl [] []).symm.trans hboxes⟩

/-- an x that is drawn, and in the mirror beside it a y and another container -/
def containerInMirror : Rendition where
  attributes := []
  before := [letterBox "78"]
  mirrorAttributes := []
  inside := [.element "math" [] [letterIn "mi" "y"], .element "mjx-container" [] [letterBox "7A"]]
  after := []

/-- an element of the container further in is not converted as the mirror around it -/
theorem inner_container_has_no_mirror : ∃ math, (Located.top containerInMirror.mirror).selectNamed? "math" = some math ∧
    (∀ node ∈ containerInMirror.before ++ containerInMirror.after, node.Everywhere fun inner =>
      isMirror inner = false ∧ inner.isNamed "mjx-container" = false) ∧
    ∃ place ∈ (containerInMirror.place []).descendants, place.node.isElement = true ∧
      ((defaultConverter true).convert (some place)).value ≠ ((defaultConverter true).convertAs .mathml math).value :=
  ⟨_, rfl, by decide, by decide +kernel⟩

end Untypeset
