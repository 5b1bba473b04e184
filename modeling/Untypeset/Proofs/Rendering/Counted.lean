import Untypeset.Proofs.Markup.Nodes
import Untypeset.Proofs.Formula.Steps
import Untypeset.Proofs.Symbol.Spelled

/-!
The children that count, as nodes: what a shape lists as parts of a place depends on the node alone, wherever it stands.
-/

namespace Untypeset

open Untypeset.Markup Untypeset.Rendering Untypeset.Symbol

/-- counting children and forgetting where they stand can be swapped -/
theorem Rendering.map_node_countedChildren (kind : Node → Kind) (place : Located) :
    (countedChildren kind place).map (·.node) = place.node.children.filter fun child => kind child ≠ .ignored := by
  rw [countedChildren, ← Located.map_node_siblings place.node place.trail 0 place.node.children, List.filter_map]
  rfl

/-- the children that are elements -/
def Markup.Node.elements (node : Node) : List Node :=
  node.children.filter (·.isElement)

namespace Rendering.Chtml

theorem map_node_elementsOf (place : Located) : (elementsOf place).map (·.node) = place.node.elements := by
  rw [elementsOf, Node.elements, ← Located.map_node_siblings place.node place.trail 0 place.node.children,
    List.filter_map]
  rfl

theorem map_node_counted (place : Located) :
    (counted place).map (·.node) = place.node.children.filter fun child => kind child ≠ .ignored :=
  map_node_countedChildren ..

end Rendering.Chtml

/-- the parts of a place in plain MathML are the children that count -/
theorem Formula.partPlaces_mathml (place : Located) :
    Formula.partPlaces .mathml place = countedChildren MathML.kind place := by
  unfold Formula.partPlaces
  split <;> rfl

/-- no leaf is an enclave where elements with the names of enclaves are mere containers -/
theorem enclave?_of_leaf {kind : Node → Kind}
    (hkind : ∀ entry ∈ enclaveNames, ∀ attributes children, kind (.element entry.1 attributes children) = .container) {node : Node}
    (h : (kind node).isLeaf = true) : node.enclave? = none := by
  cases node with
  | text => rfl
  | element name attributes children =>
    cases henclave : Enclave.ofName? name with
    | none => exact henclave
    | some enclave =>
      rw [hkind _ (mem_of_lookup henclave)] at h
      cases h

/-- what a leaf of plain MathML shows is its text -/
theorem rawText_mathml (node : Node) : Formula.rawText .mathml node = node.trimmed := by
  unfold Formula.rawText
  split
  · rename_i h
    rw [List.isEmpty_iff.1 h]
    rfl
  · rfl

end Untypeset
