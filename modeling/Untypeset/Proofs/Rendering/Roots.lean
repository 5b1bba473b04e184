import Untypeset.Proofs.Markup.Places
import Untypeset.Proofs.Markup.Tags
import Untypeset.Rendering.Locate

/-!
Where a formula is looked for, and whether one is found there. The root of a document is chosen by four selectors, one after the
other, and its shape is detected on the element that was chosen. In a document the two searches agree on everything but
containers: what another selector finds has a shape (`visual?_of_no_container`), but a container is chosen for its name alone,
and hides all other roots if it has none (`rejected_iff`). Preferring assistive MathML makes no difference to that, since any
MathML in a container is a visual rendering as well (`detect?_container`).
-/

namespace Untypeset

open Untypeset.Markup Untypeset.Rendering Untypeset.Text

/-- whether an element is the root of a rendered formula: a container, a drawn formula, or MathML -/
def IsRoot (node : Node) : Prop :=
  node.isNamed "mjx-container" = true ∨ node.attr? "data-mml-node" = some "math" ∨ isMath node = true

instance (node : Node) : Decidable (IsRoot node) :=
  inferInstanceAs (Decidable (_ ∨ _ ∨ _))

theorem isElement_of_isRoot {node : Node} (h : IsRoot node) : node.isElement = true := by
  cases node with
  | element => rfl
  | text =>
    rcases h with h | h | h
    · cases h
    · cases h
    · cases h

/-- whether names are in lower case everywhere below a place -/
def FoldedBelow (place : Located) : Prop :=
  ∀ below ∈ place.descendants, below.node.IsFolded

theorem foldedBelow_of_parse {s : String} {document : Node} (h : parse s = .ok document) : FoldedBelow (.top document) :=
  fun below hbelow => folded_of_parse h below.node (Located.node_mem_nodesOf hbelow)

variable {place below root : Located}

theorem foldedBelow_of_mem (h : FoldedBelow place) (hbelow : below ∈ place.descendants) : FoldedBelow below :=
  fun _ hlower => h _ (Located.mem_descendants_trans hbelow hlower)

namespace Markup.Located

variable {p : Located → Bool}

theorem isSome_firstBelow? (hbelow : below ∈ place.descendants) (helement : below.node.isElement = true) (hp : p below = true) :
    (place.firstBelow? p).isSome = true :=
  List.find?_isSome.2 ⟨below, hbelow, by rw [helement, hp]; rfl⟩

theorem of_firstBelow?_eq_some (h : place.firstBelow? p = some below) :
    below ∈ place.descendants ∧ below.node.isElement = true ∧ p below = true := by
  have hsome := List.find?_some h
  exact ⟨List.mem_of_find?_eq_some h, Bool.and_eq_true_iff.1 hsome⟩

end Markup.Located

/-! ## The root of a document -/

/-- where there is a root, one is chosen -/
theorem isSome_mathRoot? (hfolded : FoldedBelow place) (hbelow : below ∈ place.descendants) (hroot : IsRoot below.node) :
    (mathRoot? place).isSome = true := by
  have helement := isElement_of_isRoot hroot
  rw [mathRoot?, Option.isSome_or, Option.isSome_or, Option.isSome_or, Bool.or_eq_true, Bool.or_eq_true, Bool.or_eq_true]
  rcases hroot with hname | hvalue | hmath
  · refine .inl (Located.isSome_firstBelow? hbelow helement ?_)
    rw [matchesName_eq_isNamed (hfolded below hbelow), hname]
  · refine .inr (.inl (Located.isSome_firstBelow? hbelow helement ?_))
    rw [Node.matchesValue, matchedValue?_eq_attr? (hfolded below hbelow), hvalue]
    decide
  · exact .inr (.inr (.inr (Located.isSome_firstBelow? hbelow helement hmath)))

theorem isSome_visual? (h : (drawing? place).isSome = true ∨ (mathml? place).isSome = true) : (visual? place).isSome = true := by
  rw [visual?, Option.isSome_or, Option.isSome_or, Option.isSome_map, Option.isSome_map, Option.isSome_map, Bool.or_eq_true,
    Bool.or_eq_true]
  exact .inr h

theorem isSome_mathml?_of_isMath (h : isMath place.node = true) : (mathml? place).isSome = true := by
  rw [mathml?, if_pos h]
  rfl

theorem isMath_of_isNamed {node : Node} (h : node.isNamed "math" = true) : isMath node = true := by
  have hname : node.name? = some "math" := eq_of_beq h
  rw [isMath, hname]
  decide

theorem isSome_drawing? {value : String} (hvalue : place.node.attr? "data-mml-node" = some value) (hfull : value ≠ "") :
    (drawing? place).isSome = true := by
  have hnonempty : (place.node.nonempty? "data-mml-node").isSome = true := by
    rw [Node.nonempty?, hvalue, Option.filter_some, if_pos (decide_eq_true hfull)]
    rfl
  rw [drawing?, if_pos hnonempty]
  rfl

/-- **what is chosen for want of a container has a shape** -/
theorem visual?_of_no_container (hfolded : FoldedBelow place) (hroot : mathRoot? place = some root)
    (hnone : place.selectNamed? "mjx-container" = none) : (visual? root).isSome = true := by
  rw [mathRoot?, hnone, Option.none_or] at hroot
  apply isSome_visual?
  rcases Option.or_eq_some_iff.1 hroot with hdrawn | ⟨-, hroot⟩
  · obtain ⟨hbelow, -, hvalue⟩ := Located.of_firstBelow?_eq_some hdrawn
    rw [Node.matchesValue, matchedValue?_eq_attr? (hfolded root hbelow)] at hvalue
    split at hvalue
    · rename_i value hattr
      refine .inl (isSome_drawing? hattr ?_)
      rintro rfl
      simp at hvalue
    · cases hvalue
  · rcases Option.or_eq_some_iff.1 hroot with hmath | ⟨-, hlocal⟩
    · obtain ⟨hbelow, -, hname⟩ := Located.of_firstBelow?_eq_some hmath
      rw [matchesName_eq_isNamed (hfolded root hbelow)] at hname
      exact .inr (isSome_mathml?_of_isMath (isMath_of_isNamed hname))
    · obtain ⟨-, -, hname⟩ := Located.of_firstBelow?_eq_some hlocal
      exact .inr (isSome_mathml?_of_isMath hname)

theorem mem_of_mathRoot? (h : mathRoot? place = some root) : root ∈ place.descendants ∧ root.node.isElement = true := by
  have of_some {p : Located → Bool} (h : place.firstBelow? p = some root) :
      root ∈ place.descendants ∧ root.node.isElement = true :=
    ⟨(Located.of_firstBelow?_eq_some h).1, (Located.of_firstBelow?_eq_some h).2.1⟩
  rw [mathRoot?, Option.or_eq_some_iff, Option.or_eq_some_iff, Option.or_eq_some_iff] at h
  rcases h with h | ⟨-, h | ⟨-, h | ⟨-, h⟩⟩⟩ <;> exact of_some h

/-! ## Detection -/

theorem isSome_detect? (preferAssistive : Bool) (helement : root.node.isElement = true) (h : (visual? root).isSome = true) :
    (detect? preferAssistive root).isSome = true := by
  rw [detect?, helement]
  cases preferAssistive with
  | false => exact h
  | true =>
    change (((assistive? root).map (Shape.mathml, ·)).or (visual? root)).isSome = true
    rw [Option.isSome_or, h, Bool.or_true]

/-- assistive MathML in a container is a visual rendering too, so preferring it makes nothing a formula that is none -/
theorem detect?_container (hfolded : FoldedBelow root) (hname : root.node.isNamed "mjx-container" = true) (preferAssistive : Bool) :
    detect? preferAssistive root = none ↔ visual? root = none := by
  have helement : root.node.isElement = true := isElement_of_isRoot (.inl hname)
  constructor
  · intro hnone
    by_contra hvisual
    have hsome := isSome_detect? preferAssistive helement (Option.isSome_iff_ne_none.2 hvisual)
    rw [hnone] at hsome
    cases hsome
  · intro hnone
    have hassistive : assistive? root = none := by
      rw [assistive?, container?, if_pos hname, Option.getD_some]
      refine Option.eq_none_iff_forall_ne_some.2 fun math hmath => ?_
      obtain ⟨hbelow, hmathElement, hselected⟩ := Located.of_firstBelow?_eq_some hmath
      obtain ⟨hmathName, -⟩ := Bool.and_eq_true_iff.1 hselected
      rw [matchesName_eq_isNamed (hfolded math hbelow)] at hmathName
      have hmathml : (mathml? root).isSome = true := by
        rw [mathml?]
        split
        · rfl
        · exact Located.isSome_firstBelow? hbelow hmathElement (isMath_of_isNamed hmathName)
      have hsome := isSome_visual? (.inr hmathml)
      rw [hnone] at hsome
      cases hsome
    rw [detect?, helement, hassistive, hnone]
    cases preferAssistive <;> rfl

theorem detect?_of_selected (hfolded : FoldedBelow place) (h : place.selectNamed? "mjx-container" = some root)
    (preferAssistive : Bool) : detect? preferAssistive root = none ↔ visual? root = none := by
  obtain ⟨hbelow, -, hname⟩ := Located.of_firstBelow?_eq_some h
  rw [matchesName_eq_isNamed (hfolded root hbelow)] at hname
  exact detect?_container (foldedBelow_of_mem hfolded hbelow) hname preferAssistive

/-- **when a document is turned down**: if there is no root in it, or if its first container has no shape -/
theorem rejected_iff (hfolded : FoldedBelow place) (preferAssistive : Bool) :
    (mathRoot? place).bind (detect? preferAssistive) = none ↔
      mathRoot? place = none ∨ ∃ container, place.selectNamed? "mjx-container" = some container ∧ visual? container = none := by
  cases hcontainer : place.selectNamed? "mjx-container" with
  | some container =>
    have hroot : mathRoot? place = some container := by rw [mathRoot?, hcontainer, Option.some_or]
    rw [hroot, Option.bind_some, detect?_of_selected hfolded hcontainer]
    simp
  | none =>
    cases hroot : mathRoot? place with
    | none => simp
    | some root =>
      have hsome := isSome_detect? preferAssistive (mem_of_mathRoot? hroot).2 (visual?_of_no_container hfolded hroot hcontainer)
      rw [Option.isSome_iff_ne_none] at hsome
      simp [hsome]

end Untypeset
