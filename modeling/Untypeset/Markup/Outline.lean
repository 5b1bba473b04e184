import Untypeset.Markup.Node
import Untypeset.Text.Quoted

/-!
Outline of a tree for reading by people: one line for each element and each visible text, indented by depth.
-/

namespace Untypeset.Markup

open Untypeset.Text

/-- the attributes that an outline shows, in this order -/
def outlinedAttributes : List String :=
  ["data-mml-node", "data-c", "class", "transform", "data-semantic-role"]

/-- two spaces for each level; none at or above the top -/
def indent (depth : Int) : List Char :=
  List.replicate (2 * depth).toNat ' '

/-- the line of an element: its name and its non-empty attributes among the outlined ones -/
def elementLine (depth : Int) (name : String) (node : Node) : List Char :=
  let shown := outlinedAttributes.filterMap fun key =>
    (node.nonempty? key).map fun value => key.toList ++ '=' :: value.toList
  indent depth ++ "<".toList ++ name.toList ++ "> ".toList ++ joinWithSpace shown

/-- the line of a text that is neither a comment nor blank -/
def textLines (depth : Int) (kind : TextKind) (content : String) : List (List Char) :=
  if (Node.text kind content).isInvisibleText then []
  else [indent depth ++ "#text ".toList ++ quoted (trim content.toList)]

mutual

/-- the outline of a node at a depth; nothing below `maxDepth` is shown -/
def outline (maxDepth depth : Int) : Node → List (List Char)
  | .text kind content => if maxDepth < depth then [] else textLines depth kind content
  | .element name attributes children =>
    if maxDepth < depth then []
    else
      elementLine depth name (.element name attributes children) ::
        outlines maxDepth (depth + 1) children

/-- the outlines of a list of siblings -/
def outlines (maxDepth depth : Int) : List Node → List (List Char)
  | [] => []
  | node :: rest => outline maxDepth depth node ++ outlines maxDepth depth rest

end

/-- how deep an outline in a note goes -/
def outlineDepth : Int := 10

end Untypeset.Markup
