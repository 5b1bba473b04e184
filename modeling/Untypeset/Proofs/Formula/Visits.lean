import Mathlib.Data.List.Flatten
import Untypeset.Proofs.Formula.Content
import Untypeset.Proofs.Formula.Traversal

/-!
The nodes that a walk enters. The positions that a conversion enters are among those of the formula's nodes, none of them more
often than it stands there (`entered_latexOf`), and the count of visited nodes grows by as many (`Tally.visited_follow`).
-/

namespace Untypeset

open Untypeset.Markup Untypeset.Rendering Untypeset.Symbol

/-! ## Walks -/

/-- the node that a step enters, if it enters one -/
def Step.entered? : Step → Option Path
  | .enter position => some position
  | _ => none

namespace Walk

theorem entered_eq {α : Type} (walk : Walk α) : walk.entered = walk.moves.filterMap Step.entered? := by
  rw [moves, List.filterMap_filter]
  refine List.filterMap_congr fun step _ => ?_
  cases step <;> rfl

@[simp] theorem entered_inside {α : Type} (position : Path) (walk : Walk α) :
    (inside position walk).entered = position :: walk.entered := by
  simp [entered]

end Walk

/-- a count of visited nodes grows by the nodes that a walk enters -/
theorem Tally.visited_follow {α : Type} (tally : Tally) (walk : Walk α) :
    (tally.follow walk).visited = tally.visited + walk.entered.length := by
  rw [Tally.follow, Walk.entered]
  generalize walk.trace = trace
  induction trace generalizing tally with
  | nil => rfl
  | cons step rest ih =>
    rw [List.foldl_cons, ih]
    cases step with
    | enter position => exact Nat.succ_add_eq_add_succ ..
    | leave => rfl
    | note => rfl

/-! ## Positions -/

namespace Formula

/-- the positions of the nodes that the conversion of a formula can enter -/
def positions (f : Formula) : List Path :=
  (f.nodes.filter (·.kind ≠ .ignored)).map (·.facts.position)

theorem positions_of_structure {f : Formula} (h : f.kind.isLeaf = false) (hi : f.kind ≠ .ignored) :
    f.positions = f.facts.position :: f.parts.flatMap positions := by
  rw [positions, nodes_of_structure h hi, List.filter_cons_of_pos (by simpa using hi), List.map_cons, List.filter_flatMap,
    List.map_flatMap]
  rfl

theorem positions_of_leaf {f : Formula} (h : f.kind.isLeaf = true) : f.positions = [f.facts.position] := by
  have hcounts : decide (f.kind ≠ .ignored) = true := by
    rw [decide_eq_true_iff]
    intro hk
    rw [hk] at h
    cases h
  rw [positions, nodes_of_end (.inl h), List.filter_singleton, hcounts]
  rfl

theorem positions_of_ignored {f : Formula} (h : f.kind = .ignored) : f.positions = [] := by
  rw [positions, nodes_of_end (.inr h), List.filter_cons_of_neg (by simp [h])]
  rfl

theorem innerParts_sublist (f : Formula) : f.innerParts.Sublist f.parts :=
  (List.dropLast_sublist _).trans (List.tail_sublist _)

end Formula

/-! ## Conversion -/

/-- moves that enter nodes of some formulas, none more often than it stands there -/
def Within (moves : List Step) (row : List Formula) : Prop :=
  (moves.filterMap Step.entered?).Subperm (row.flatMap Formula.positions)

namespace Within

variable {moves other : List Step} {row others : List Formula} {f : Formula}

theorem append (h : Within moves row) (hother : Within other others) : Within (moves ++ other) (row ++ others) := by
  rw [Within, List.filterMap_append, List.flatMap_append]
  exact List.Subperm.append h hother

theorem mono (h : Within moves row) (hsub : row.Subperm others) : Within moves others := by
  obtain ⟨list, hperm, hlist⟩ := hsub
  have hpositions : (row.flatMap Formula.positions).Perm (list.flatMap Formula.positions) := hperm.symm.flatMap_right _
  exact List.Subperm.trans h (hpositions.subperm.trans (hlist.flatMap Formula.positions).subperm)

/-- a leaf is entered itself -/
theorem leaf (hk : f.kind.isLeaf = true) : Within [.enter f.facts.position, .leave] [f] := by
  rw [Within, List.flatMap_singleton, Formula.positions_of_leaf hk]
  exact List.Subperm.refl _

/-- the node of a structure stands before the nodes of its parts -/
theorem inside (hk : f.kind.isLeaf = false) (hi : f.kind ≠ .ignored) (h : Within moves f.parts) :
    Within (.enter f.facts.position :: moves ++ [.leave]) [f] := by
  have hentered : (Step.enter f.facts.position :: moves ++ [Step.leave]).filterMap Step.entered? =
      f.facts.position :: moves.filterMap Step.entered? := by
    simp [Step.entered?]
  rw [Within, hentered, List.flatMap_singleton, Formula.positions_of_structure hk hi]
  exact (List.subperm_cons _).2 h

theorem inner (hparen : f.isParenthesized = true) (h : Within moves f.innerParts) : Within moves [f] := by
  have hparts : Within moves f.parts := h.mono f.innerParts_sublist.subperm
  rw [Within, List.flatMap_singleton,
    Formula.positions_of_structure (Formula.isLeaf_of_isParenthesized hparen) (Formula.counts_of_isParenthesized hparen)]
  exact List.Subperm.trans hparts (List.sublist_cons_self _ _).subperm

theorem traversal : Traversal Within where
  nil := List.nil_subperm
  append := append
  mono := mono
  leaf := leaf
  inside := inside
  inner := inner

end Within

/-- **a conversion enters nodes of its formula only, and none too often** -/
theorem entered_latexOf (symbols : SymbolTable) (f : Formula) : (latexOf symbols f).entered.Subperm f.positions := by
  have hwithin : Within (latexOf symbols f).moves [f] := Within.traversal.latexOf symbols f
  rwa [Within, List.flatMap_singleton, ← Walk.entered_eq] at hwithin

end Untypeset
