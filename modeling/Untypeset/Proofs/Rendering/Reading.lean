import Untypeset.Proofs.Formula.Content
import Untypeset.Proofs.Rendering.Counted

/-!
Formulas read from a node, wherever it stands. What is known of such a formula is known from the node alone, and its parts
are read from the nodes that the shape lists as parts (`Reads.parts`).
-/

namespace Untypeset

open Untypeset.Markup Untypeset.Rendering Untypeset.Symbol

/-- the formula was read from this node -/
def Reads (shape : Shape) (node : Node) (f : Formula) : Prop :=
  ∃ trail, f = Formula.read shape .default ⟨node, trail⟩

namespace Reads

variable {shape : Shape} {node : Node} {f : Formula}

theorem read (shape : Shape) (place : Located) : Reads shape place.node (Formula.read shape .default place) :=
  ⟨place.trail, rfl⟩

theorem kind (h : Reads shape node f) : f.kind = shape.kind node := by
  obtain ⟨trail, rfl⟩ := h
  exact Formula.kind_read ..

theorem role (h : Reads shape node f) : f.facts.role = node.attr? "data-semantic-role" := by
  obtain ⟨trail, rfl⟩ := h
  rw [Formula.facts_read]
  rfl

theorem type (h : Reads shape node f) : f.facts.type = node.attr? "data-semantic-type" := by
  obtain ⟨trail, rfl⟩ := h
  rw [Formula.facts_read]
  rfl

theorem variant (h : Reads shape node f) : f.facts.variant = node.attr? "mathvariant" := by
  obtain ⟨trail, rfl⟩ := h
  rw [Formula.facts_read]
  rfl

theorem content (h : Reads shape node f) : f.facts.content = Formula.content shape .default node := by
  obtain ⟨trail, rfl⟩ := h
  rw [Formula.facts_read]
  rfl

theorem raw (h : Reads shape node f) : f.facts.raw = Formula.rawText shape node := by
  obtain ⟨trail, rfl⟩ := h
  rw [Formula.facts_read]
  rfl

theorem points (h : Reads shape node f) : f.facts.points = Formula.codePoints shape node := by
  obtain ⟨trail, rfl⟩ := h
  rw [Formula.facts_read]
  rfl

theorem reads_of_nodes {places : List Located} {nodes : List Node} (h : places.map (·.node) = nodes) :
    List.Forall₂ (Reads shape) nodes (places.map (Formula.read shape .default)) := by
  subst h
  induction places with
  | nil => exact .nil
  | cons place rest ih => exact .cons (read shape place) ih

/-- the parts of a formula are read from the parts of its node -/
theorem parts {nodes : List Node} (h : Reads shape node f)
    (hnodes : ∀ trail, (Formula.partPlaces shape ⟨node, trail⟩).map (·.node) = nodes) :
    List.Forall₂ (Reads shape) nodes f.parts := by
  obtain ⟨trail, rfl⟩ := h
  rw [Formula.parts_read]
  exact reads_of_nodes (hnodes trail)

end Reads

end Untypeset
