import Untypeset.Markup.Located

/-!
Selection of elements below a place, in document order. Selection by name and by attribute disregards the case of ASCII
letters in names, as style sheets for such documents do; the values of attributes are compared as they are.
-/

namespace Untypeset.Markup

open Untypeset.Text

/-- the name with ASCII letters in lower case -/
def foldedName (name : String) : List Char :=
  name.toList.map Char.toLower

namespace Node

/-- whether an element has this name, given in lower case -/
def matchesName (node : Node) (name : String) : Bool :=
  match node.name? with
  | some actual => foldedName actual = name.toList
  | none => false

/-- the value of the first attribute with this name, given in lower case -/
def matchedValue? (node : Node) (name : String) : Option String :=
  match node with
  | .element _ attributes _ => (attributes.find? fun a => foldedName a.1 = name.toList).map (·.2)
  | .text .. => none

/-- whether an attribute has this value; one line break behind the value is overlooked -/
def matchesValue (node : Node) (name value : String) : Bool :=
  match node.matchedValue? name with
  | some actual => actual = value || actual = value ++ "\n"
  | none => false

end Node

namespace Located

/-- the first element of this name below a place -/
def selectNamed? (place : Located) (name : String) : Option Located :=
  place.firstBelow? (·.node.matchesName name)

/-- the first element below a place with an attribute of this name, whatever its value -/
def selectWith? (place : Located) (key : String) : Option Located :=
  place.firstBelow? fun found => (found.node.matchedValue? key).isSome

/-- the first element below a place with this value of an attribute -/
def selectValue? (place : Located) (key value : String) : Option Located :=
  place.firstBelow? (·.node.matchesValue key value)

/-- the first element of a name below a place that lies inside an element named `outer`, which may also be around the
place itself -/
def selectInside? (place : Located) (outer name : String) : Option Located :=
  place.firstBelow? fun found => found.node.matchesName name && found.ancestors.any (·.node.matchesName outer)

end Located

end Untypeset.Markup
