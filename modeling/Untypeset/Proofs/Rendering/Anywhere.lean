import Untypeset.Proofs.Rendering.Likeness

/-!
A formula reads the same wherever it stands. Equality of nodes is a likeness for every shape, so formulas read at places with one
node are converted in lockstep; they differ in positions only, which no conversion looks at (`value_convertAs_congr`).
-/

namespace Untypeset

open Untypeset.Markup Untypeset.Rendering Untypeset.Symbol

/-- no shape can tell a node from itself -/
theorem likeness_eq (shape : Shape) : Likeness shape Eq where
  name h := by rw [h]
  attr h _ := by rw [h]
  kind h := by rw [h]
  elements h := by rw [h, List.forall₂_eq_eq_eq]
  counted h := by rw [h, List.forall₂_eq_eq_eq]
  leaf h _ := by rw [h]
  box h _ _ := by rw [h]

/-- what is read at places with one node differs in positions only -/
theorem facts_read_congr (shape : Shape) (symbols : SymbolTable) {a b : Located} (h : a.node = b.node) :
    (Formula.read shape symbols a).facts = { (Formula.read shape symbols b).facts with position := a.path } := by
  rw [Formula.facts_read, Formula.facts_read, Formula.factsAt, Formula.factsAt, h]

/-- formulas read at places with one node are converted in lockstep -/
theorem lockstep_eq (shape : Shape) (symbols : SymbolTable) : Lockstep (Likeness.Read shape symbols Eq) := by
  refine (likeness_eq shape).lockstep symbols ?_ ?_
  · intro a b h
    rw [Formula.isIntegral, Formula.key, facts_read_congr shape symbols h]
    rfl
  · intro a b h marks _
    rw [Formula.showsAny, facts_read_congr shape symbols h]
    rfl

/-- two lists of places with the same nodes -/
def SameNodes (a b : List Located) : Prop :=
  a.map (·.node) = b.map (·.node)

/-- rows read at places with the same nodes have the same LaTeX -/
theorem rowLatex_congr (shape : Shape) (symbols : SymbolTable) {places others : List Located} (h : SameNodes places others) :
    rowLatex symbols (places.map (Formula.read shape symbols)) = rowLatex symbols (others.map (Formula.read shape symbols)) := by
  apply (lockstep_eq shape symbols).rows
  have hover : List.Forall₂ (Over Eq) places others := by
    rw [forall₂_over, List.forall₂_eq_eq_eq]
    exact h
  rw [List.forall₂_map_left_iff, List.forall₂_map_right_iff]
  exact hover.imp fun p q hpq => ⟨p, q, hpq, rfl, rfl⟩

/-- the LaTeX of a formula is the same at any place with its node -/
theorem value_convertAt_congr (shape : Shape) (symbols : SymbolTable) {a b : Located} (h : a.node = b.node) :
    (convertAt shape symbols a).value = (convertAt shape symbols b).value :=
  congrArg Latex.sized ((lockstep_eq shape symbols).latex symbols ⟨a, b, h, rfl, rfl⟩)

/-- **the outcome of a conversion does not depend on where its formula stands** -/
theorem value_convertAs_congr (converter : Converter) (shape : Shape) {a b : Located} (h : a.node = b.node) :
    (converter.convertAs shape a).value = (converter.convertAs shape b).value := by
  unfold Converter.convertAs
  dsimp only
  split
  · rfl
  · exact congrArg (Outcome.converted shape) (value_convertAt_congr shape _ h)

end Untypeset
