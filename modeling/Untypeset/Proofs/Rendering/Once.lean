import Untypeset.Conversion
import Untypeset.Proofs.Formula.Visits
import Untypeset.Proofs.Markup.Places

/-!
No node of a drawing or of plain MathML is walked through twice. In these shapes the parts of a node are some of its children,
so the positions in a formula that was read are paths of nodes below the place, each path at most once
(`positions_read_sublist`); what a conversion enters are some of these (`walked_at_most_once`).
-/

namespace Untypeset

open Untypeset.Markup Untypeset.Rendering Untypeset.Symbol

variable {shape : Shape} {place : Located}

/-- a place and those below it, without the ones that a shape ignores -/
def countedPlaces (shape : Shape) (place : Located) : List Located :=
  (place :: place.descendants).filter fun below => shape.kind below.node ≠ .ignored

theorem countedPlaces_of_counted (h : shape.kind place.node ≠ .ignored) :
    countedPlaces shape place = place :: place.children.flatMap (countedPlaces shape) := by
  rw [countedPlaces, List.filter_cons_of_pos (by simpa using h), Located.descendants_eq, List.filter_flatMap]
  rfl

/-- outside of styled boxes, the parts of a place are some of its children -/
theorem partPlaces_sublist (hshape : shape ≠ .chtml) : (Formula.partPlaces shape place).Sublist place.children := by
  unfold Formula.partPlaces
  cases shape with
  | chtml => exact absurd rfl hshape
  | mathml => split <;> exact List.filter_sublist
  | svg =>
    split
    · exact List.filter_sublist.trans List.filter_sublist
    · exact List.filter_sublist

/-- the positions in a formula are paths of nodes that count, in their order -/
theorem positions_read_sublist (hshape : shape ≠ .chtml) (symbols : SymbolTable) (place : Located) :
    (Formula.read shape symbols place).positions.Sublist ((countedPlaces shape place).map Located.path) := by
  have hkind := Formula.kind_read shape symbols place
  by_cases hi : shape.kind place.node = .ignored
  · rw [Formula.positions_of_ignored (hkind.trans hi)]
    exact List.nil_sublist _
  · have hplace : (Formula.read shape symbols place).facts.position = place.path := by
      rw [Formula.facts_read]
      rfl
    rw [countedPlaces_of_counted hi, List.map_cons, List.map_flatMap]
    by_cases hleaf : (shape.kind place.node).isLeaf = true
    · rw [Formula.positions_of_leaf (by rwa [hkind]), hplace]
      exact (List.nil_sublist _).cons_cons _
    · simp only [Bool.not_eq_true] at hleaf
      rw [Formula.positions_of_structure (by rwa [hkind]) (by rwa [hkind]), hplace, Formula.parts_read, List.flatMap_map]
      refine List.Sublist.cons_cons _ (((partPlaces_sublist hshape).flatMap _).trans (List.Sublist.flatMap_right _ ?_))
      intro child hchild
      exact positions_read_sublist hshape symbols child
termination_by place.node.size
decreasing_by exact Located.children_lt hchild

/-- **no node is walked through twice**: whatever the tables and the counts so far, a conversion of a drawing or of plain MathML
enters nodes of its subtree only, none of them ignored and none twice; so the count of visited nodes grows by no more than the
subtree has nodes that count, and it does grow unless the node itself is ignored -/
theorem walked_at_most_once (shape : Shape) (hshape : shape ≠ .chtml) (symbols : SymbolTable) (place : Located)
    (tally : Tally) :
    (walkAt shape symbols place).entered.Subperm ((countedPlaces shape place).map Located.path) ∧
    (walkAt shape symbols place).entered.Nodup ∧
    (tally.follow (walkAt shape symbols place)).visited ≤ tally.visited + (countedPlaces shape place).length ∧
    (shape.kind place.node ≠ .ignored → tally.visited < (tally.follow (walkAt shape symbols place)).visited) := by
  have hentered : (walkAt shape symbols place).entered.Subperm ((countedPlaces shape place).map Located.path) :=
    (entered_latexOf symbols _).trans (positions_read_sublist hshape symbols place).subperm
  have hpaths : ((countedPlaces shape place).map Located.path).Nodup :=
    (Located.nodup_paths place).sublist (List.filter_sublist.map Located.path)
  refine ⟨hentered, ?_, ?_, ?_⟩
  · obtain ⟨list, hperm, hsub⟩ := hentered
    exact hperm.nodup_iff.1 (hpaths.sublist hsub)
  · have hlength := hentered.length_le
    rw [List.length_map] at hlength
    rw [Tally.visited_follow]
    exact Nat.add_le_add_left hlength _
  · intro hi
    rw [Tally.visited_follow, walkAt, latexOf_counted (by rwa [Formula.kind_read]), Walk.entered_inside, List.length_cons]
    omega

/-- an x in parentheses, squared, and some space that is ignored -/
def squaredGroup : Located :=
  .top (.element "math" []
    [.element "msup" []
      [.element "mrow" []
        [.element "mo" [] [.text .plain "("], .element "mi" [] [.text .plain "x"], .element "mo" [] [.text .plain ")"]],
        .element "mn" [] [.text .plain "2"]],
      .element "mspace" [] []])

theorem walked_at_most_once_of_squaredGroup :
    Shape.mathml ≠ .chtml ∧ (walkAt .mathml .default squaredGroup).entered.Nodup ∧
      0 < (Tally.start.follow (walkAt .mathml .default squaredGroup)).visited ∧
      (Tally.start.follow (walkAt .mathml .default squaredGroup)).visited ≤ 11 := by
  obtain ⟨-, hnodup, hmost, hleast⟩ := walked_at_most_once .mathml (by decide) .default squaredGroup .start
  have hcount : (countedPlaces .mathml squaredGroup).length = 11 := by decide
  rw [hcount] at hmost
  exact ⟨by decide, hnodup, hleast (by decide), hmost⟩

end Untypeset
