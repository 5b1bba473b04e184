import Untypeset.Number.Binary64
import Untypeset.Rendering.MathML

/-!
Formulas as SVG drawings. Groups name their kind in an attribute; leaves hold positioned glyphs, which are read from
left to right. The position of a glyph is the sum of the shifts of the elements around it, up to the leaf.
-/

namespace Untypeset.Rendering.Svg

open Untypeset.Markup Untypeset.Text Untypeset.Number

/-- the elements that draw something but are no part of the structure -/
def ignoredNames : List String :=
  ["use", "rect", "title", "defs"]

/-- the kind of a node -/
def kind : Node → Kind
  | node@(.element name ..) =>
    if ignoredNames.contains name then .ignored
    else
      match node.nonempty? "data-mml-node" with
      | some value => Kind.ofName (String.ofList (lowerCase value.toList))
      | none => .container
  | node@(.text ..) => Kind.ofText node

/-! ## Positions of glyphs -/

/-- a character of the number in a shift -/
def isShiftChar (c : Char) : Bool :=
  c = '.' || (digitValue? c).isSome

/-- the number that follows `translate(` at the start of a text: a minus or none, then digits and points -/
def shiftAtStart? (s : List Char) : Option (List Char) :=
  let opening := "translate(".toList
  if opening.isPrefixOf s then
    let rest := (s.drop opening.length).dropWhile isBlank
    let (sign, rest) :=
      match rest with
      | '-' :: tail => (['-'], tail)
      | _ => ([], rest)
    let number := rest.takeWhile isShiftChar
    if number.isEmpty then none else some (sign ++ number)
  else
    none

/-- the number of the first shift in a text -/
def shift? : List Char → Option (List Char)
  | [] => none
  | s@(_ :: rest) => (shiftAtStart? s).or (shift? rest)

/-- a number given by an attribute; what is no number counts as zero -/
def offsetOf (s : List Char) : Binary64 :=
  (Binary64.parse? s).getD .zero

/-- adds the horizontal shifts of one element: its `x`, then the one in its transform -/
def addShifts (total : Binary64) (node : Node) : Binary64 :=
  let shifted := total.add (offsetOf ((node.attr? "x").getD "").toList)
  match shift? ((node.attr? "transform").getD "").toList with
  | some number => shifted.add (offsetOf number)
  | none => shifted

/-- the elements from a glyph up to, and without, the one that the search for it started from -/
def carriers (glyph : Located) : List Node :=
  glyph.node :: (glyph.trail.map (·.2)).dropLast

/-- the horizontal position of a glyph -/
def offset (glyph : Located) : Binary64 :=
  (carriers glyph).foldl addShifts .zero

/-- whether an element draws a glyph: a `use` with a code that is not empty -/
def isGlyph (node : Node) : Bool :=
  node.isNamed "use" && (node.nonempty? "data-c").isSome

/-- the glyphs below a node in document order, placed in the tree that starts at the node -/
def glyphs (node : Node) : List Located :=
  (Located.top node).descendants.filter fun place => isGlyph place.node

/-- the order from left to right; glyphs at one position keep their order -/
def leftToRight (glyphs : List Located) : List Located :=
  glyphs.mergeSort fun a b => !(offset b).less (offset a)

/-- the code of a glyph -/
def codeOf (glyph : Located) : List Char :=
  ((glyph.node.attr? "data-c").getD "").toList

/-- the codes of the glyphs below a node, from left to right -/
def glyphCodes (node : Node) : List (List Char) :=
  (leftToRight (glyphs node)).map codeOf

/-! ## Structure -/

/-- the operator that draws a radical sign: its only glyph is the sign -/
def isRadicalSign (node : Node) : Bool :=
  kind node = .operator && glyphCodes node == ["221A".toList]

/-- the structural children -/
def children (place : Located) : List Located :=
  countedChildren kind place

/-- what stands under a square root: the children without the radical sign -/
def radicand (place : Located) : List Located :=
  (children place).filter fun child => !isRadicalSign child.node

end Untypeset.Rendering.Svg
