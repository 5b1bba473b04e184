import Untypeset.Markup.Node

/-!
The kinds of structure that a formula is made of, whatever markup it was rendered to.
-/

namespace Untypeset.Rendering

open Untypeset.Markup

/-- what a node of a rendered formula is -/
inductive Kind where
  | math
  | row
  | identifier
  | number
  | operator
  | words
  | sqrt
  | root
  | fraction
  | superscript
  | subscript
  | subsup
  | under
  | underover
  | over
  | style
  | bareText
  | container
  | ignored
  deriving DecidableEq, Repr, Inhabited

namespace Kind

/-- the kinds that have an element of their own in MathML, with its name -/
def named : List (String × Kind) :=
  [("math", .math), ("mrow", .row), ("mi", .identifier), ("mn", .number), ("mo", .operator), ("mtext", .words),
   ("msqrt", .sqrt), ("mroot", .root), ("mfrac", .fraction), ("msup", .superscript), ("msub", .subscript),
   ("msubsup", .subsup), ("munder", .under), ("munderover", .underover), ("mover", .over), ("mstyle", .style)]

/-- the kind of a MathML name; any other name stands for a mere container -/
def ofName (name : String) : Kind :=
  (named.lookup name).getD .container

/-- the name of a kind -/
def name : Kind → String
  | .math => "math"
  | .row => "mrow"
  | .identifier => "mi"
  | .number => "mn"
  | .operator => "mo"
  | .words => "mtext"
  | .sqrt => "msqrt"
  | .root => "mroot"
  | .fraction => "mfrac"
  | .superscript => "msup"
  | .subscript => "msub"
  | .subsup => "msubsup"
  | .under => "munder"
  | .underover => "munderover"
  | .over => "mover"
  | .style => "mstyle"
  | .bareText => "#text"
  | .container => "container"
  | .ignored => "ignored"

/-- the kind of a text: a visible one is bare text, any other does not count -/
def ofText (node : Node) : Kind :=
  if node.isInvisibleText then .ignored else .bareText

end Kind

end Untypeset.Rendering
