import Untypeset.Markup.Located
import Untypeset.Rendering.Kind

/-!
Formulas as plain MathML. The name of an element, apart from a namespace prefix and the case of its letters, is its
kind, and leaves carry their text.
-/

namespace Untypeset.Rendering

open Untypeset.Markup Untypeset.Text

/-- the part of a name after its last colon, in lower case -/
def localName (name : String) : String :=
  String.ofList (lowerCase (name.toList.reverse.takeWhile (· ≠ ':')).reverse)

/-- the children of a place that count under a classification of nodes -/
def countedChildren (kind : Node → Kind) (place : Located) : List Located :=
  place.children.filter fun child => kind child.node ≠ .ignored

theorem countedChildren_lt {kind : Node → Kind} {place child : Located} (h : child ∈ countedChildren kind place) :
    child.node.size < place.node.size :=
  Located.children_lt (List.mem_filter.1 h).1

namespace MathML

/-- the elements that add nothing to a formula -/
def ignoredNames : List String :=
  ["annotation", "annotation-xml", "mspace", "mphantom", "none"]

/-- the kind of a node -/
def kind : Node → Kind
  | .element name .. =>
    if ignoredNames.contains (localName name) then .ignored else Kind.ofName (localName name)
  | node@(.text ..) => Kind.ofText node

end MathML

end Untypeset.Rendering
