import Untypeset.Markup.Node

/-!
Places in a document: a node together with the way down to it, so that the elements around the node can be asked for as
well as those inside it. A place is written as a path, the child indices from the document to the node.
-/

namespace Untypeset.Markup

/-- a path from the document down to a node, as indices among all children -/
abbrev Path := List Nat

/-- a node in its place; the trail lists the indices and elements on the way up, nearest first -/
structure Located where
  node : Node
  trail : List (Nat × Node)
  deriving Repr, Inhabited

namespace Located

/-- a node on its own, with nothing around it -/
def top (node : Node) : Located :=
  ⟨node, []⟩

/-- the path of a place -/
def path (place : Located) : Path :=
  (place.trail.map (·.1)).reverse

/-- the places on a trail, nearest first -/
def placesOn : List (Nat × Node) → List Located
  | [] => []
  | (_, parent) :: trail => ⟨parent, trail⟩ :: placesOn trail

/-- the elements around a place, nearest first -/
def ancestors (place : Located) : List Located :=
  placesOn place.trail

/-- the places of a list of siblings, the first of which has the index `index` -/
def siblings (parent : Node) (trail : List (Nat × Node)) : Nat → List Node → List Located
  | _, [] => []
  | index, node :: rest => ⟨node, (index, parent) :: trail⟩ :: siblings parent trail (index + 1) rest

/-- the places of the children -/
def children (place : Located) : List Located :=
  siblings place.node place.trail 0 place.node.children

mutual

/-- a place and all places below it, in document order -/
def subtree (trail : List (Nat × Node)) : Node → List Located
  | .text kind content => [⟨.text kind content, trail⟩]
  | .element name attributes nodes =>
    ⟨.element name attributes nodes, trail⟩ ::
      subtrees (.element name attributes nodes) trail 0 nodes

/-- the subtrees of a list of siblings in document order -/
def subtrees (parent : Node) (trail : List (Nat × Node)) : Nat → List Node → List Located
  | _, [] => []
  | index, node :: rest =>
    subtree ((index, parent) :: trail) node ++ subtrees parent trail (index + 1) rest

end

/-- the places strictly below a place, in document order -/
def descendants (place : Located) : List Located :=
  subtrees place.node place.trail 0 place.node.children

/-- the first element below a place that satisfies `p`, in document order -/
def firstBelow? (place : Located) (p : Located → Bool) : Option Located :=
  place.descendants.find? fun d => d.node.isElement && p d

/-- the nearest element around a place with exactly this name -/
def enclosing? (place : Located) (name : String) : Option Located :=
  place.ancestors.find? (·.node.isNamed name)

/-- follows a path downwards -/
def follow? (place : Located) : Path → Option Located
  | [] => some place
  | index :: path =>
    match place.children[index]? with
    | some child => child.follow? path
    | none => none

/-! ## What a place holds stands below it -/

theorem mem_siblings {parent : Node} {trail : List (Nat × Node)} {index : Nat} {nodes : List Node} {place : Located}
    (h : place ∈ siblings parent trail index nodes) : place.node ∈ nodes := by
  induction nodes generalizing index with
  | nil => simp [siblings] at h
  | cons node rest ih =>
    simp only [siblings, List.mem_cons] at h
    rcases h with rfl | h
    · exact List.mem_cons_self
    · exact List.mem_cons_of_mem _ (ih h)

theorem children_lt {place child : Located} (h : child ∈ place.children) : child.node.size < place.node.size :=
  Node.children_lt (mem_siblings h)

end Located

end Untypeset.Markup
