import Untypeset.Markup.Located

/-!
The nodes of a tree in document order. Places carry the way down to them, most properties are about the nodes alone; here
the places that a tree lists are turned into its nodes.
-/

namespace Untypeset.Markup

namespace Node

mutual

/-- the nodes of a tree in document order, the top one first -/
def nodes : Node → List Node
  | .text textKind content => [.text textKind content]
  | .element name attributes children => .element name attributes children :: nodesOf children

/-- the nodes of several trees -/
def nodesOf : List Node → List Node
  | [] => []
  | node :: rest => nodes node ++ nodesOf rest

end

theorem nodesOf_append (a b : List Node) : nodesOf (a ++ b) = nodesOf a ++ nodesOf b := by
  induction a with
  | nil => rfl
  | cons node rest ih => rw [List.cons_append, nodesOf, nodesOf, ih, List.append_assoc]

theorem nodesOf_singleton (node : Node) : nodesOf [node] = nodes node :=
  List.append_nil _

theorem mem_nodes (node : Node) : node ∈ nodes node := by
  cases node <;> simp [nodes]

theorem mem_nodesOf_iff {node : Node} {list : List Node} : node ∈ nodesOf list ↔ ∃ top ∈ list, node ∈ nodes top := by
  induction list with
  | nil => simp [nodesOf]
  | cons head rest ih => simp [nodesOf, ih]

theorem nodes_child_subset {node child : Node} (h : child ∈ node.children) : nodes child ⊆ nodes node := by
  cases node with
  | text textKind content => cases h
  | element name attributes children =>
    rw [nodes]
    exact fun inner hinner => List.mem_cons_of_mem _ (mem_nodesOf_iff.2 ⟨child, h, hinner⟩)

/-- a property of a node and of all nodes below it -/
def Everywhere (Q : Node → Prop) (tree : Node) : Prop :=
  ∀ node ∈ nodes tree, Q node

instance (Q : Node → Prop) [DecidablePred Q] (tree : Node) : Decidable (Everywhere Q tree) :=
  inferInstanceAs (Decidable (∀ node ∈ nodes tree, Q node))

theorem Everywhere.here {Q : Node → Prop} {tree : Node} (h : Everywhere Q tree) : Q tree :=
  h tree (mem_nodes tree)

theorem Everywhere.child {Q : Node → Prop} {tree child : Node} (h : Everywhere Q tree) (hc : child ∈ tree.children) :
    Everywhere Q child :=
  fun node hnode => h node (nodes_child_subset hc hnode)

/-! ## Texts -/

/-- the text of a node that an element around it shows -/
def shownText? (reader : Option Enclave) : Node → Option (List Char)
  | .text kind content => if kind.isShownIn reader then some content.toList else none
  | .element .. => none

mutual

/-- an element shows the texts among the nodes below it -/
theorem textsFor_eq (reader : Option Enclave) (node : Node) :
    node.textsFor reader = node.nodes.filterMap (shownText? reader) := by
  cases node with
  | text kind content =>
    rw [textsFor, nodes, List.filterMap_cons, shownText?, List.filterMap_nil]
    split <;> rfl
  | element name attributes children => exact textsOfAll_eq_filterMap reader children

theorem textsOfAll_eq_filterMap (reader : Option Enclave) (list : List Node) :
    textsOfAll reader list = (nodesOf list).filterMap (shownText? reader) := by
  cases list with
  | nil => rfl
  | cons node rest =>
    rw [textsOfAll, nodesOf, List.filterMap_append, textsFor_eq, textsOfAll_eq_filterMap]

end

theorem textsOfAll_append (reader : Option Enclave) (a b : List Node) :
    textsOfAll reader (a ++ b) = textsOfAll reader a ++ textsOfAll reader b := by
  rw [textsOfAll_eq_filterMap, textsOfAll_eq_filterMap, textsOfAll_eq_filterMap, nodesOf_append, List.filterMap_append]

end Node

/-! ## Places -/

namespace Located

theorem map_node_siblings (parent : Node) (trail : List (Nat × Node)) (index : Nat) (nodes : List Node) :
    (siblings parent trail index nodes).map (·.node) = nodes := by
  induction nodes generalizing index with
  | nil => rfl
  | cons node rest ih => rw [siblings, List.map_cons, ih]

mutual

theorem map_node_subtree (trail : List (Nat × Node)) (node : Node) :
    (subtree trail node).map (·.node) = node.nodes := by
  cases node with
  | text textKind content => rfl
  | element name attributes children =>
    rw [subtree, List.map_cons, map_node_subtrees, Node.nodes]

theorem map_node_subtrees (parent : Node) (trail : List (Nat × Node)) (index : Nat) (nodes : List Node) :
    (subtrees parent trail index nodes).map (·.node) = Node.nodesOf nodes := by
  cases nodes with
  | nil => rfl
  | cons node rest =>
    rw [subtrees, List.map_append, map_node_subtree, map_node_subtrees, Node.nodesOf]

end

theorem map_node_descendants (place : Located) :
    place.descendants.map (·.node) = Node.nodesOf place.node.children :=
  map_node_subtrees ..

theorem node_mem_nodesOf {place below : Located} (h : below ∈ place.descendants) : below.node ∈ Node.nodesOf place.node.children := by
  rw [← map_node_descendants]
  exact List.mem_map_of_mem h

end Located

end Untypeset.Markup
