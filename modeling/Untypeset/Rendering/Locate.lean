import Untypeset.Markup.Select
import Untypeset.Rendering.Shape

/-!
Where the formula is: the root of the first rendered formula of a document, the assistive MathML beside a visual
rendering, and the shape and place that a conversion of a node starts from.
-/

namespace Untypeset.Rendering

open Untypeset.Markup Untypeset.Text

/-- whether this is an element whose local name is `math` -/
def isMath (node : Node) : Bool :=
  match node.name? with
  | some name => localName name == "math"
  | none => false

/-- the first rendered formula below a place: a container, or else a drawn formula, or else MathML, with a namespace
prefix only if there is none without -/
def mathRoot? (place : Located) : Option Located :=
  (place.selectNamed? "mjx-container").or <|
    (place.selectValue? "data-mml-node" "math").or <|
      (place.selectNamed? "math").or <|
        place.firstBelow? fun found => isMath found.node

/-- the container that a place is or lies in -/
def container? (place : Located) : Option Located :=
  if place.node.isNamed "mjx-container" then some place else place.enclosing? "mjx-container"

/-- the assistive MathML of the rendering that a place belongs to -/
def assistive? (place : Located) : Option Located :=
  ((container? place).getD place).selectInside? "mjx-assistive-mml" "math"

/-- whether a container says that it holds styled boxes, in any case -/
def holdsBoxes (node : Node) : Bool :=
  upperCase ((node.attr? "jax").getD "").toList == "CHTML".toList

/-- whether this is a container of styled boxes, or an element inside of one -/
def isChtml (place : Located) : Bool :=
  match place.node.name? with
  | none => false
  | some name =>
    let name := lowerCase name.toList
    if !"mjx-".toList.isPrefixOf name then false
    else if name == "mjx-container".toList then holdsBoxes place.node
    else if name == "mjx-math".toList then true
    else if (place.enclosing? "mjx-math").isSome then true
    else
      match place.enclosing? "mjx-container" with
      | some container => holdsBoxes container.node
      | none => false

/-- the styled boxes of a place: the place itself, or the first container or formula of that shape below it -/
def boxes? (place : Located) : Option Located :=
  if isChtml place then some place
  else
    (place.firstBelow? fun found =>
        found.node.matchesName "mjx-container" && found.node.matchesValue "jax" "CHTML").or
      (place.selectNamed? "mjx-math")

/-- the drawing of a place: the place itself, or the first drawn formula or else the first drawn part below it -/
def drawing? (place : Located) : Option Located :=
  if (place.node.nonempty? "data-mml-node").isSome then some place
  else (place.selectValue? "data-mml-node" "math").or (place.selectWith? "data-mml-node")

/-- the MathML of a place: the place itself or the first below it -/
def mathml? (place : Located) : Option Located :=
  if isMath place.node then some place else place.firstBelow? fun found => isMath found.node

/-- the shape of the visual rendering and where to start reading it -/
def visual? (place : Located) : Option (Shape × Located) :=
  ((boxes? place).map (Shape.chtml, ·)).or <|
    ((drawing? place).map (Shape.svg, ·)).or <|
      (mathml? place).map (Shape.mathml, ·)

/-- the shape of the formula at an element and where to start reading it; assistive MathML comes first if it is
preferred -/
def detect? (preferAssistive : Bool) (place : Located) : Option (Shape × Located) :=
  if !place.node.isElement then none
  else if preferAssistive then ((assistive? place).map (Shape.mathml, ·)).or (visual? place)
  else visual? place

/-- the first label in a list of places that does not reach beyond a container -/
def labelAmong? : List Located → Option String
  | [] => none
  | place :: rest =>
    match place.node.nonempty? "aria-label" with
    | some label => some label
    | none => if place.node.isNamed "mjx-container" then none else labelAmong? rest

/-- the spoken form of the formula at an element: the label of the element or of the nearest one around it, up to the
container -/
def label? (place : Located) : Option String :=
  if place.node.isElement then labelAmong? (place :: place.ancestors) else none

end Untypeset.Rendering
