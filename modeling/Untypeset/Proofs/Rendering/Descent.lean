import Untypeset.Proofs.Rendering.Parts
import Untypeset.Rendering.Shape

/-!
Parts are descendants. Whatever a shape lists as part of a place stands strictly below it (`Shape.mem_descendants_of_children`,
`Shape.mem_descendants_of_radicand`): a child, a child of a box that was found further down, or such a box itself. So the tree at
a part has fewer levels than the tree at the whole (`Located.height_lt`).
-/

namespace Untypeset.Markup

/-! ## Heights -/

namespace Node

mutual

/-- the number of levels of a tree; a node on its own is one level -/
def height : Node → Nat
  | .text .. => 1
  | .element _ _ children => 1 + heights children

/-- the number of levels of the highest of several trees -/
def heights : List Node → Nat
  | [] => 0
  | node :: rest => max (height node) (heights rest)

end

theorem height_pos (node : Node) : 0 < node.height := by
  cases node <;> rw [height] <;> omega

theorem height_le_heights {node : Node} {nodes : List Node} (h : node ∈ nodes) : node.height ≤ heights nodes := by
  induction nodes with
  | nil => cases h
  | cons head rest ih =>
    rw [heights]
    rcases List.mem_cons.1 h with rfl | h
    · exact Nat.le_max_left ..
    · exact Nat.le_trans (ih h) (Nat.le_max_right ..)

theorem height_lt_of_mem_children {node child : Node} (h : child ∈ node.children) : child.height < node.height := by
  cases node with
  | text => cases h
  | element name attributes nodes =>
    have hle : child.height ≤ heights nodes := height_le_heights h
    rw [height]
    omega

end Node

theorem Located.height_lt {place below : Located} (h : below ∈ place.descendants) : below.node.height < place.node.height := by
  refine forall_mem_descendants (P := fun place below => below.node.height < place.node.height) ?_ ?_ place below h
  · intro place child hchild
    exact Node.height_lt_of_mem_children (mem_siblings hchild)
  · intro place upper below hupper _ hbelow
    exact Nat.lt_trans hbelow (Node.height_lt_of_mem_children (mem_siblings hupper))

end Untypeset.Markup

namespace Untypeset.Rendering

open Untypeset.Markup

variable {place part : Located}

theorem mem_descendants_of_countedChildren {kind : Node → Kind} (h : part ∈ countedChildren kind place) :
    part ∈ place.descendants :=
  Located.mem_descendants_of_child (List.mem_filter.1 h).1

namespace Chtml

variable {box : Located} {places parts : List Located}

theorem mem_descendants_of_counted (h : part ∈ counted place) : part ∈ place.descendants :=
  mem_descendants_of_countedChildren h

theorem mem_descendants_of_boxes? {names : List String} (h : boxes? place names = some parts) (hpart : part ∈ parts) :
    part ∈ place.descendants := by
  obtain ⟨name, -, hfound⟩ := (mem_boxes? h).1 hpart
  exact mem_of_shallowest? hfound

/-- the scripts of a stack stand below it -/
theorem mem_descendants_of_stacked? (hplaces : ∀ p ∈ places, p ∈ place.descendants) (h : stacked? places = some parts)
    (hpart : part ∈ parts) : part ∈ place.descendants := by
  unfold stacked? at h
  split at h
  · rename_i base scripts rest
    split at h
    · split at h
      · rename_i upper lower more hscripts
        cases h
        have hscript : ∀ p ∈ upper :: lower :: more, p ∈ place.descendants := by
          intro p hp
          rw [← hscripts] at hp
          exact Located.mem_descendants_trans (hplaces scripts (by simp)) (mem_descendants_of_counted hp)
        simp only [List.mem_cons, List.not_mem_nil, or_false] at hpart
        rcases hpart with rfl | rfl | rfl
        · exact hplaces _ List.mem_cons_self
        · exact hscript _ (by simp)
        · exact hscript _ (by simp)
      · cases h
    · cases h
  · cases h

/-- the box under a radical is a child of the place, or of an element that was found below it -/
theorem mem_descendants_of_radicalBox? (h : radicalBox? place = some box) : box ∈ place.descendants := by
  obtain ⟨radical, hradical, hfind⟩ := Option.bind_eq_some_iff.1 h
  have hchild : box ∈ radical.descendants := Located.mem_descendants_of_child (List.mem_of_find?_eq_some hfind)
  unfold radical? at hradical
  split at hradical
  · cases hradical
    exact hchild
  · exact Located.mem_descendants_trans (mem_of_shallowest? hradical) hchild

theorem mem_descendants_of_arguments? (h : arguments? place = some parts) (hpart : part ∈ parts) : part ∈ place.descendants := by
  unfold arguments? at h
  split at h
  case h_1 | h_5 | h_6 | h_7 => exact mem_descendants_of_boxes? h hpart
  case h_2 | h_3 => exact mem_descendants_of_counted (firstTwo?_subset h hpart)
  case h_4 => exact mem_descendants_of_stacked? (fun _ hp => mem_descendants_of_counted hp) h hpart
  case h_8 =>
    obtain ⟨index, hindex, hrest⟩ := Option.bind_eq_some_iff.1 h
    obtain ⟨box, hbox, rfl⟩ := Option.map_eq_some_iff.1 hrest
    simp only [List.mem_cons, List.not_mem_nil, or_false] at hpart
    rcases hpart with rfl | rfl
    · exact mem_descendants_of_radicalBox? hbox
    · exact mem_of_shallowest? hindex
  case h_9 => cases h

theorem mem_descendants_of_children (h : part ∈ children place) : part ∈ place.descendants := by
  unfold children at h
  cases hargs : arguments? place with
  | none =>
    rw [hargs] at h
    exact mem_descendants_of_counted h
  | some parts =>
    rw [hargs] at h
    exact mem_descendants_of_arguments? hargs h

theorem mem_descendants_of_radicand (h : part ∈ radicand place) : part ∈ place.descendants := by
  unfold radicand at h
  split at h
  · rename_i box hbox
    exact Located.mem_descendants_trans (mem_descendants_of_radicalBox? hbox) (mem_descendants_of_counted h)
  · exact mem_descendants_of_counted h

end Chtml

namespace Shape

variable {shape : Shape}

/-- **structural children stand strictly below their node** -/
theorem mem_descendants_of_children (h : part ∈ shape.children place) : part ∈ place.descendants := by
  cases shape with
  | svg => exact mem_descendants_of_countedChildren h
  | chtml => exact Chtml.mem_descendants_of_children h
  | mathml => exact mem_descendants_of_countedChildren h

/-- **what stands under a radical stands strictly below it** -/
theorem mem_descendants_of_radicand (h : part ∈ shape.radicand place) : part ∈ place.descendants := by
  cases shape with
  | svg => exact mem_descendants_of_countedChildren (List.mem_filter.1 h).1
  | chtml => exact Chtml.mem_descendants_of_radicand h
  | mathml => exact mem_descendants_of_countedChildren h

end Shape

end Untypeset.Rendering
