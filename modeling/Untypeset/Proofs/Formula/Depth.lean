import Untypeset.Proofs.Formula.Traversal
import Untypeset.Proofs.Rendering.Descent

/-!
How deep a conversion goes. It comes back to the depth at which it began and goes down at most one level for each level of its
formula (`staysWithin_latexOf`), and a formula has no more levels than the tree it was read from (`Formula.height_read_le`).
-/

namespace Untypeset

open Untypeset.Markup Untypeset.Rendering Untypeset.Symbol

/-! ## Heights -/

namespace Formula

mutual

/-- the number of levels of a formula; a node on its own is one level -/
def height : Formula → Nat
  | .node _ parts => 1 + heights parts

/-- the number of levels of the highest of several formulas -/
def heights : List Formula → Nat
  | [] => 0
  | f :: rest => max (height f) (heights rest)

end

theorem height_eq (f : Formula) : f.height = heights f.parts + 1 := by
  obtain ⟨facts, parts⟩ := f
  rw [height, parts_node, Nat.add_comm]

@[simp] theorem heights_singleton (f : Formula) : heights [f] = f.height := by
  rw [heights, heights, Nat.max_zero]

theorem heights_le_iff {row : List Formula} {n : Nat} : heights row ≤ n ↔ ∀ f ∈ row, f.height ≤ n := by
  induction row with
  | nil => simp [heights]
  | cons f rest ih => rw [heights, List.forall_mem_cons, ← ih, Nat.max_le]

theorem height_le_heights {f : Formula} {row : List Formula} (h : f ∈ row) : f.height ≤ heights row :=
  heights_le_iff.1 (Nat.le_refl _) f h

theorem heights_mono {row others : List Formula} (h : row ⊆ others) : heights row ≤ heights others :=
  heights_le_iff.2 fun _ hf => height_le_heights (h hf)

theorem mem_descendants_of_partPlaces {shape : Shape} {place part : Located} (h : part ∈ partPlaces shape place) :
    part ∈ place.descendants := by
  unfold partPlaces at h
  split at h
  · exact Shape.mem_descendants_of_radicand h
  · exact Shape.mem_descendants_of_children h

/-- a formula has no more levels than the tree it was read from -/
theorem height_read_le (shape : Shape) (symbols : SymbolTable) (place : Located) :
    (read shape symbols place).height ≤ place.node.height := by
  have hpart : ∀ part ∈ partPlaces shape place, (read shape symbols part).height < place.node.height := by
    intro part hpart
    have := partPlaces_lt hpart
    exact Nat.lt_of_le_of_lt (height_read_le shape symbols part) (Located.height_lt (mem_descendants_of_partPlaces hpart))
  have hparts : heights (read shape symbols place).parts ≤ place.node.height - 1 := by
    rw [heights_le_iff, parts_read]
    intro f hf
    obtain ⟨part, hmem, rfl⟩ := List.mem_map.1 hf
    exact Nat.le_sub_one_of_lt (hpart part hmem)
  have := place.node.height_pos
  rw [height_eq]
  omega
termination_by place.node.size

end Formula

/-! ## Moves -/

/-- notes count for nothing -/
theorem Tally.follow_eq {α : Type} (tally : Tally) (walk : Walk α) :
    tally.follow walk = walk.moves.foldl after tally := by
  have hafter : after = fun tally step => if step.isMove then after tally step else tally := by
    funext tally step
    cases step <;> rfl
  rw [follow, Walk.moves, List.foldl_filter, ← hafter]

/-- moves that come back to the depth at which they began, and are never more than `levels` below it -/
structure StaysWithin (levels : Nat) (moves : List Step) : Prop where
  depth : ∀ tally : Tally, (moves.foldl Tally.after tally).depth = tally.depth
  maxDepth : ∀ tally : Tally, (moves.foldl Tally.after tally).maxDepth ≤ max tally.maxDepth (tally.depth + levels)

namespace StaysWithin

variable {levels : Nat} {moves other : List Step}

theorem nil : StaysWithin levels [] where
  depth _ := rfl
  maxDepth _ := Nat.le_max_left ..

theorem append (h : StaysWithin levels moves) (hother : StaysWithin levels other) : StaysWithin levels (moves ++ other) where
  depth tally := by rw [List.foldl_append, hother.depth, h.depth]
  maxDepth tally := by
    have hfirst := h.maxDepth tally
    have hsecond := hother.maxDepth (moves.foldl Tally.after tally)
    rw [h.depth] at hsecond
    rw [List.foldl_append]
    omega

theorem mono {more : Nat} (h : StaysWithin levels moves) (hle : levels ≤ more) : StaysWithin more moves where
  depth := h.depth
  maxDepth tally := by
    have := h.maxDepth tally
    omega

/-- a node is one level more -/
theorem inside {position : Path} (h : StaysWithin levels moves) :
    StaysWithin (levels + 1) (.enter position :: moves ++ [.leave]) where
  depth tally := by
    have hmoves := h.depth (tally.after (.enter position))
    rw [List.cons_append, List.foldl_cons, List.foldl_append, List.foldl_cons, List.foldl_nil]
    simp only [Tally.after] at hmoves ⊢
    omega
  maxDepth tally := by
    have hmoves := h.maxDepth (tally.after (.enter position))
    rw [List.cons_append, List.foldl_cons, List.foldl_append, List.foldl_cons, List.foldl_nil]
    simp only [Tally.after] at hmoves ⊢
    omega

theorem traversal : Traversal fun moves row => StaysWithin (Formula.heights row) moves where
  nil := nil
  append h hother :=
    (h.mono (Formula.heights_mono (List.subset_append_left _ _))).append
      (hother.mono (Formula.heights_mono (List.subset_append_right _ _)))
  mono h hsub := h.mono (Formula.heights_mono hsub.subset)
  leaf {f} _ := by
    rw [Formula.heights_singleton, f.height_eq]
    exact nil.inside
  inside {f} _ _ _ h := by
    rw [Formula.heights_singleton, f.height_eq]
    exact h.inside
  inner {f} _ _ h := by
    have hlow : Formula.heights f.innerParts ≤ Formula.heights f.parts := Formula.heights_mono f.innerParts_subset
    rw [Formula.heights_singleton, f.height_eq]
    exact h.mono (Nat.le_succ_of_le hlow)

end StaysWithin

/-- **a conversion comes back to where it began, and goes down at most one level for each level of its formula** -/
theorem staysWithin_latexOf (symbols : SymbolTable) (f : Formula) : StaysWithin f.height (latexOf symbols f).moves := by
  have htraversal := StaysWithin.traversal.latexOf symbols f
  rwa [Formula.heights_singleton] at htraversal

end Untypeset
