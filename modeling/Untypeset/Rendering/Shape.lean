import Untypeset.Rendering.Chtml
import Untypeset.Rendering.Svg

/-!
The three shapes in which a formula may be rendered, and the one view that the rest of the library has of them: the kind
of a node, its structural children, and the codes of its glyphs. Everything that a shape lists as part of a node stands
strictly below the node.
-/

namespace Untypeset.Rendering

open Untypeset.Markup Untypeset.Text

/-- a shape of rendered formula -/
inductive Shape where
  | svg
  | chtml
  | mathml
  deriving DecidableEq, Repr, Inhabited

namespace Shape

/-- the name of a shape -/
def name : Shape → String
  | .svg => "SVG"
  | .chtml => "CHTML"
  | .mathml => "MathML"

/-- whether a text of one character beyond ASCII is looked up in the glyph table -/
def looksUpText : Shape → Bool
  | .mathml => true
  | .svg | .chtml => false

/-- whether glyphs of ASCII characters stand for themselves, without the padding of the glyph table -/
def keepsAsciiBare : Shape → Bool
  | .chtml => true
  | .svg | .mathml => false

/-- the kind of a node -/
def kind : Shape → Node → Kind
  | .svg => Svg.kind
  | .chtml => Chtml.kind
  | .mathml => MathML.kind

/-- the structural children from left to right -/
def children : Shape → Located → List Located
  | .svg => Svg.children
  | .chtml => Chtml.children
  | .mathml => countedChildren MathML.kind

/-- what stands under the radical of a square root -/
def radicand : Shape → Located → List Located
  | .svg => Svg.radicand
  | .chtml => Chtml.radicand
  | .mathml => countedChildren MathML.kind

/-- the codes of the glyphs that a node shows, from left to right -/
def glyphCodes : Shape → Node → List (List Char)
  | .svg => Svg.glyphCodes
  | .chtml => Chtml.glyphCodes
  | .mathml => fun _ => []

/-! ## Parts stand below the whole -/

theorem children_lt {shape : Shape} {place child : Located} (h : child ∈ shape.children place) :
    child.node.size < place.node.size := by
  cases shape
  · exact countedChildren_lt h
  · exact Chtml.children_lt h
  · exact countedChildren_lt h

theorem radicand_lt {shape : Shape} {place child : Located} (h : child ∈ shape.radicand place) :
    child.node.size < place.node.size := by
  cases shape
  · exact countedChildren_lt (List.mem_filter.1 h).1
  · exact Chtml.radicand_lt h
  · exact countedChildren_lt h

end Shape

end Untypeset.Rendering
