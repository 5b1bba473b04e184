import Untypeset.Proofs.Markup.Places
import Untypeset.Rendering.Chtml

/-!
The search for parts, level by level. A level is a list of places of one depth in the order of their paths, and the level
below it is another (`IsLevel.next`). Hence the search finds the first element of a name in the order of levels, and it finds
none only if there is none (`shallowest?_eq_some_iff`, `shallowest?_eq_none_iff`).
-/

namespace Untypeset.Rendering.Chtml

open Untypeset.Markup

variable {name : String} {place found other : Located} {level : List Located} {depth : Nat}

/-! ## Levels -/

/-- places of one depth in the order of their paths -/
structure IsLevel (depth : Nat) (level : List Located) : Prop where
  depth : ∀ place ∈ level, place.path.length = depth
  ordered : level.Pairwise Located.Before

theorem children_of_mem_elementsOf (h : other ∈ elementsOf place) : other ∈ place.children :=
  (List.mem_filter.1 h).1

theorem length_path_of_child (h : other ∈ place.children) : other.path.length = place.path.length + 1 := by
  obtain ⟨i, hpath⟩ := Located.path_of_mem_children h
  rw [hpath, List.length_append, List.length_singleton]

theorem isLevel_elementsOf (place : Located) : IsLevel (place.path.length + 1) (elementsOf place) where
  depth _ hother := length_path_of_child (children_of_mem_elementsOf hother)
  ordered := place.children_pairwise.filter _

/-- the elements below a level are a level -/
theorem IsLevel.next (h : IsLevel depth level) : IsLevel (depth + 1) (level.flatMap elementsOf) where
  depth := by
    intro other hother
    obtain ⟨upper, hupper, hmem⟩ := List.mem_flatMap.1 hother
    rw [length_path_of_child (children_of_mem_elementsOf hmem), h.depth upper hupper]
  ordered := by
    rw [List.pairwise_flatMap]
    refine ⟨fun upper _ => (isLevel_elementsOf upper).ordered, ?_⟩
    refine h.ordered.imp_of_mem ?_
    intro a b ha hb hab x hx y hy
    refine hab.children ?_ (children_of_mem_elementsOf hx) (children_of_mem_elementsOf hy)
    rw [h.depth a ha, h.depth b hb]

/-! ## What a search can reach -/

/-- in a level or below it -/
def Reached (level : List Located) (other : Located) : Prop :=
  ∃ place ∈ level, other = place ∨ other ∈ place.descendants

theorem isElement_of_isNamed {node : Node} (h : node.isNamed name = true) : node.isElement = true := by
  cases node with
  | text => cases h
  | element => rfl

theorem isElement_of_mem_descendants (h : other ∈ place.descendants) : place.node.isElement = true := by
  obtain ⟨node, trail⟩ := place
  cases node with
  | text => cases h
  | element => rfl

/-- what is reached from the elements of a place stands below it, and any element below it is so reached -/
theorem reached_elementsOf (h : other.node.isElement = true) : Reached (elementsOf place) other ↔ other ∈ place.descendants := by
  rw [Located.mem_descendants_iff]
  constructor
  · rintro ⟨child, hchild, hother⟩
    exact ⟨child, children_of_mem_elementsOf hchild, hother⟩
  · rintro ⟨child, hchild, hother⟩
    refine ⟨child, List.mem_filter.2 ⟨hchild, ?_⟩, hother⟩
    rcases hother with rfl | hbelow
    · exact h
    · exact isElement_of_mem_descendants hbelow

/-- an element reached from a level is in the level or reached from the next one -/
theorem reached_iff (h : other.node.isElement = true) :
    Reached level other ↔ other ∈ level ∨ Reached (level.flatMap elementsOf) other := by
  have hnext : Reached (level.flatMap elementsOf) other ↔ ∃ upper ∈ level, Reached (elementsOf upper) other := by
    constructor
    · rintro ⟨place, hplace, hother⟩
      obtain ⟨upper, hupper, hmem⟩ := List.mem_flatMap.1 hplace
      exact ⟨upper, hupper, place, hmem, hother⟩
    · rintro ⟨upper, hupper, place, hmem, hother⟩
      exact ⟨place, List.mem_flatMap.2 ⟨upper, hupper, hmem⟩, hother⟩
  rw [hnext, Reached]
  simp only [reached_elementsOf h, and_or_left, exists_or, exists_eq_right']

/-! ## The search -/

/-- the first element of a name among those reached from a level -/
structure IsFirst (name : String) (level : List Located) (found : Located) : Prop where
  reached : Reached level found
  named : found.node.isNamed name = true
  first : ∀ other, Reached level other → other.node.isNamed name = true → other = found ∨ found.Before other

/-- the first of a name in a level is the first of all that are reached -/
theorem isFirst_of_find? (h : IsLevel depth level) (hfound : level.find? (·.node.isNamed name) = some found) :
    IsFirst name level found := by
  obtain ⟨hnamed, before, after, rfl, hbefore⟩ := List.find?_eq_some_iff_append.1 hfound
  have hmem : found ∈ before ++ found :: after := List.mem_append_right _ List.mem_cons_self
  refine ⟨⟨found, hmem, .inl rfl⟩, hnamed, ?_⟩
  rintro other ⟨upper, hupper, rfl | hbelow⟩ hother
  · rcases List.mem_append.1 hupper with hlate | hearly
    · simpa [hother] using hbefore other hlate
    · rcases List.mem_cons.1 hearly with rfl | hafter
      · exact .inl rfl
      · exact .inr ((List.pairwise_cons.1 (List.pairwise_append.1 h.ordered).2.1).1 other hafter)
  · right
    apply Located.before_of_length
    obtain ⟨i, rest, hpath⟩ := Located.path_of_mem_descendants hbelow
    rw [hpath, List.length_append, h.depth upper hupper, h.depth found hmem, List.length_cons]
    omega

/-- where a level has none of a name, its first is that of the next level -/
theorem IsFirst.of_next (hnone : level.find? (·.node.isNamed name) = none)
    (h : IsFirst name (level.flatMap elementsOf) found) : IsFirst name level found := by
  refine ⟨(reached_iff (isElement_of_isNamed h.named)).2 (.inr h.reached), h.named, ?_⟩
  intro other hreached hother
  rcases (reached_iff (isElement_of_isNamed hother)).1 hreached with hmem | hnext
  · exact absurd hother (List.find?_eq_none.1 hnone other hmem)
  · exact h.first other hnext hother

theorem isFirst_of_searchLevels? (h : IsLevel depth level) (hfound : searchLevels? name level = some found) :
    IsFirst name level found := by
  induction level using searchLevels?.induct name generalizing depth with
  | case1 => simp [searchLevels?] at hfound
  | case2 place rest first hfirst =>
    rw [searchLevels?, hfirst] at hfound
    cases hfound
    exact isFirst_of_find? h hfirst
  | case3 place rest hnone ih =>
    rw [searchLevels?, hnone] at hfound
    exact .of_next hnone (ih h.next hfound)

theorem not_named_of_searchLevels? (hnone : searchLevels? name level = none) (hreached : Reached level other) :
    other.node.isNamed name = false := by
  rw [Bool.eq_false_iff]
  intro hother
  induction level using searchLevels?.induct name with
  | case1 =>
    obtain ⟨upper, hupper, -⟩ := hreached
    cases hupper
  | case2 place rest first hfirst =>
    rw [searchLevels?, hfirst] at hnone
    cases hnone
  | case3 place rest hfind ih =>
    rw [searchLevels?, hfind] at hnone
    rcases (reached_iff (isElement_of_isNamed hother)).1 hreached with hmem | hnext
    · exact absurd hother (List.find?_eq_none.1 hfind other hmem)
    · exact ih hnone hnext

/-- two firsts of a name are the same -/
theorem IsFirst.eq (h : IsFirst name level found) (h' : IsFirst name level other) : found = other := by
  rcases h.first other h'.reached h'.named with rfl | hbefore
  · rfl
  · rcases h'.first found h.reached h.named with rfl | hafter
    · rfl
    · exact absurd hafter hbefore.asymm

/-- the first among the elements of a place and below them is the first below the place -/
theorem isFirst_elementsOf :
    IsFirst name (elementsOf place) found ↔ found ∈ place.descendants ∧ found.node.isNamed name = true ∧
      ∀ other ∈ place.descendants, other.node.isNamed name = true → other = found ∨ found.Before other := by
  constructor
  · rintro ⟨hreached, hnamed, hfirst⟩
    refine ⟨(reached_elementsOf (isElement_of_isNamed hnamed)).1 hreached, hnamed, ?_⟩
    intro other hother hname
    exact hfirst other ((reached_elementsOf (isElement_of_isNamed hname)).2 hother) hname
  · rintro ⟨hmem, hnamed, hfirst⟩
    refine ⟨(reached_elementsOf (isElement_of_isNamed hnamed)).2 hmem, hnamed, ?_⟩
    intro other hreached hname
    exact hfirst other ((reached_elementsOf (isElement_of_isNamed hname)).1 hreached) hname

theorem shallowest?_eq_none_iff :
    shallowest? place name = none ↔ ∀ other ∈ place.descendants, other.node.isNamed name = false := by
  constructor
  · intro hnone other hother
    rw [Bool.eq_false_iff]
    intro hnamed
    have hreached := (reached_elementsOf (isElement_of_isNamed hnamed)).2 hother
    rw [not_named_of_searchLevels? hnone hreached] at hnamed
    cases hnamed
  · intro hnone
    cases hfound : shallowest? place name with
    | none => rfl
    | some found =>
      obtain ⟨hmem, hnamed, -⟩ := isFirst_elementsOf.1 (isFirst_of_searchLevels? (isLevel_elementsOf place) hfound)
      rw [hnone found hmem] at hnamed
      cases hnamed

/-- **the search is exact**: it finds the element of a name that comes before all others below a place -/
theorem shallowest?_eq_some_iff :
    shallowest? place name = some found ↔ found ∈ place.descendants ∧ found.node.isNamed name = true ∧
      ∀ other ∈ place.descendants, other.node.isNamed name = true → other = found ∨ found.Before other := by
  rw [← isFirst_elementsOf]
  constructor
  · exact isFirst_of_searchLevels? (isLevel_elementsOf place)
  · intro h
    cases hfound : shallowest? place name with
    | none =>
      have hnone := shallowest?_eq_none_iff.1 hfound found (isFirst_elementsOf.1 h).1
      rw [h.named] at hnone
      cases hnone
    | some first => rw [h.eq (isFirst_of_searchLevels? (isLevel_elementsOf place) hfound)]

end Untypeset.Rendering.Chtml
