import Untypeset.Formula.Content

/-!
A formula as a tree of structure, free of the markup it was read from. `read` builds it from a place in a document; the
parts of a node are its structural children, and for a square root what stands under the radical.
-/

namespace Untypeset

open Untypeset.Markup Untypeset.Rendering Untypeset.Symbol

/-- what is known of one node of a formula -/
structure Facts where
  /-- the kind of structure -/
  kind : Kind
  /-- what the node shows, as LaTeX -/
  content : Latex
  /-- the characters that the node shows -/
  raw : List Char
  /-- the code points that the node shows -/
  points : List Nat
  /-- the semantic role -/
  role : Option String
  /-- the semantic type -/
  type : Option String
  /-- the variant of letters -/
  variant : Option String
  /-- where the node was read -/
  position : Path
  deriving Repr, Inhabited

/-- a formula: facts about its top node, and its parts from left to right -/
inductive Formula where
  | node (facts : Facts) (parts : List Formula)
  deriving Repr, Inhabited

namespace Formula

/-- the facts about the top node -/
def facts : Formula → Facts
  | .node facts _ => facts

/-- the parts of the top node -/
def parts : Formula → List Formula
  | .node _ parts => parts

/-- the kind of the top node -/
def kind (f : Formula) : Kind :=
  f.facts.kind

/-- the facts about a place -/
def factsAt (shape : Shape) (symbols : SymbolTable) (place : Located) : Facts where
  kind := shape.kind place.node
  content := content shape symbols place.node
  raw := rawText shape place.node
  points := codePoints shape place.node
  role := place.node.attr? "data-semantic-role"
  type := place.node.attr? "data-semantic-type"
  variant := place.node.attr? "mathvariant"
  position := place.path

/-- the places of the parts of a formula -/
def partPlaces (shape : Shape) (place : Located) : List Located :=
  if shape.kind place.node = .sqrt then shape.radicand place else shape.children place

theorem partPlaces_lt {shape : Shape} {place part : Located} (h : part ∈ partPlaces shape place) :
    part.node.size < place.node.size := by
  unfold partPlaces at h
  split at h
  · exact Shape.radicand_lt h
  · exact Shape.children_lt h

/-- reads the formula at a place -/
def read (shape : Shape) (symbols : SymbolTable) (place : Located) : Formula :=
  .node (factsAt shape symbols place)
    ((partPlaces shape place).attach.map fun part => read shape symbols part.1)
termination_by place.node.size
decreasing_by exact partPlaces_lt part.2

theorem read_eq (shape : Shape) (symbols : SymbolTable) (place : Located) :
    read shape symbols place =
      .node (factsAt shape symbols place) ((partPlaces shape place).map (read shape symbols)) := by
  rw [read]
  simp

@[simp] theorem facts_node (facts : Facts) (parts : List Formula) : (node facts parts).facts = facts := rfl

@[simp] theorem parts_node (facts : Facts) (parts : List Formula) : (node facts parts).parts = parts := rfl

@[simp] theorem facts_read (shape : Shape) (symbols : SymbolTable) (place : Located) :
    (read shape symbols place).facts = factsAt shape symbols place := by
  rw [read_eq, facts_node]

@[simp] theorem parts_read (shape : Shape) (symbols : SymbolTable) (place : Located) :
    (read shape symbols place).parts = (partPlaces shape place).map (read shape symbols) := by
  rw [read_eq, parts_node]

end Formula

end Untypeset
