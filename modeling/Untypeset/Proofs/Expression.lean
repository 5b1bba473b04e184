import Untypeset.Rendering.Shape

/-!
Expressions, and the three ways in which a renderer lays them out. An expression is free of any markup: leaves that show
characters, structures over a list, and structures with two or three arguments. `mathml` writes it as plain MathML,
`chtml` as styled boxes and `svg` as a drawing; `mathmlRoot`, `chtmlRoot` and `svgRoot` put a list of expressions under
the root of a formula.

Boxes keep the arguments of a structure at varying depth, and a drawing wraps them in anonymous groups, so the three
trees of one expression differ in shape. `text`, `boxed` and `drawn` list the characters in the order in which the three
hold them; only boxes and drawings hold the radical signs too.
-/

namespace Untypeset

open Untypeset.Markup Untypeset.Rendering Untypeset.Text

/-- the kinds of leaf -/
inductive LeafKind where
  | identifier
  | number
  | operator
  | words
  deriving DecidableEq, Repr

/-- the structures over a list -/
inductive ListKind where
  | row
  | style
  | sqrt
  deriving DecidableEq, Repr

/-- the structures with two arguments -/
inductive PairKind where
  | fraction
  | root
  | superscript
  | subscript
  | underscript
  | overscript
  deriving DecidableEq, Repr

/-- the structures with three arguments -/
inductive TripleKind where
  | subsup
  | underover
  deriving DecidableEq, Repr

/-- the kind of a node that shows such a leaf -/
def LeafKind.kind : LeafKind → Kind
  | .identifier => .identifier
  | .number => .number
  | .operator => .operator
  | .words => .words

/-- the kind of a node that holds such a list -/
def ListKind.kind : ListKind → Kind
  | .row => .row
  | .style => .style
  | .sqrt => .sqrt

/-- the kind of a node with such arguments -/
def PairKind.kind : PairKind → Kind
  | .fraction => .fraction
  | .root => .root
  | .superscript => .superscript
  | .subscript => .subscript
  | .underscript => .under
  | .overscript => .over

/-- the kind of a node with such arguments -/
def TripleKind.kind : TripleKind → Kind
  | .subsup => .subsup
  | .underover => .underover

/-- what an element says about its meaning -/
structure Marks where
  role : Option String
  type : Option String
  deriving DecidableEq, Repr

/-- the marks as attributes -/
def Marks.attributes (marks : Marks) : List (String × String) :=
  marks.role.toList.map (("data-semantic-role", ·)) ++ marks.type.toList.map (("data-semantic-type", ·))

/-- a character of a leaf, and where a drawing puts it -/
structure Glyph where
  char : Char
  x : Option String
  transform : Option String
  deriving DecidableEq, Repr

/-- the code of a character, in hexadecimal -/
def Glyph.code (c : Char) : List Char :=
  hexDigits c.toNat

/-- an expression; the base of a root comes before its index, and a lower limit before an upper one -/
inductive Expression where
  | leaf (kind : LeafKind) (marks : Marks) (glyphs : List Glyph)
  | list (kind : ListKind) (marks : Marks) (items : List Expression)
  | pair (kind : PairKind) (marks : Marks) (first second : Expression)
  | triple (kind : TripleKind) (marks : Marks) (base lower upper : Expression)

namespace Expression

/-- whether the expression is a leaf -/
def isLeaf : Expression → Bool
  | .leaf .. => true
  | .list .. | .pair .. | .triple .. => false

/-- the kind of the node that the expression becomes -/
def kind : Expression → Kind
  | .leaf kind .. => kind.kind
  | .list kind .. => kind.kind
  | .pair kind .. => kind.kind
  | .triple kind .. => kind.kind

/-- the marks of the node that the expression becomes -/
def marks : Expression → Marks
  | .leaf _ marks _ | .list _ marks _ | .pair _ marks _ _ | .triple _ marks _ _ _ => marks

/-- nothing said about the meaning -/
def unmarked : Marks :=
  ⟨none, none⟩

/-- an unmarked leaf with these characters, drawn without positions -/
def leafOf (kind : LeafKind) (cs : List Char) : Expression :=
  .leaf kind unmarked (cs.map fun c => ⟨c, none, none⟩)

/-! ## Plain MathML -/

mutual

/-- the expression as plain MathML -/
def mathml : Expression → Node
  | .leaf kind marks glyphs =>
    .element kind.kind.name marks.attributes [.text .plain (String.ofList (glyphs.map (·.char)))]
  | .list kind marks items => .element kind.kind.name marks.attributes (mathmls items)
  | .pair kind marks first second => .element kind.kind.name marks.attributes [mathml first, mathml second]
  | .triple kind marks base lower upper =>
    .element kind.kind.name marks.attributes [mathml base, mathml lower, mathml upper]

/-- several expressions as plain MathML -/
def mathmls : List Expression → List Node
  | [] => []
  | e :: rest => mathml e :: mathmls rest

end

/-- a formula as plain MathML -/
def mathmlRoot (es : List Expression) : Node :=
  .element "math" [] (mathmls es)

/-! ## Styled boxes -/

/-- an element without attributes -/
def bare (name : String) (children : List Node) : Node :=
  .element name [] children

/-- the box of a character -/
def glyphBox (c : Char) : Node :=
  .element "mjx-c" [("class", "mjx-c" ++ String.ofList (Glyph.code c))] []

/-- the radical sign -/
def radicalSign : Char := '√'

/-- the box that draws a radical sign -/
def surd : Node :=
  bare "mjx-surd" [bare "mjx-mo" [glyphBox radicalSign]]

/-- the boxes of the elements of a list -/
def listBoxes : ListKind → List Node → List Node
  | .row, items | .style, items => items
  | .sqrt, items => [bare "mjx-sqrt" [surd, bare "mjx-box" items]]

/-- the boxes of two arguments; those of a fraction and of a root lie deeper than the others -/
def pairBoxes : PairKind → Node → Node → List Node
  | .fraction, numerator, denominator =>
    [bare "mjx-frac" [bare "mjx-num" [numerator],
      bare "mjx-dbox" [bare "mjx-dtable" [bare "mjx-row" [bare "mjx-den" [denominator]]]]]]
  | .root, base, index => [bare "mjx-sqrt" [bare "mjx-root" [index], bare "mjx-box" [base]]]
  | .superscript, base, script | .subscript, base, script => [base, bare "mjx-script" [script]]
  | .underscript, base, script => [bare "mjx-base" [base], bare "mjx-under" [script]]
  | .overscript, base, script => [bare "mjx-base" [base], bare "mjx-over" [script]]

/-- the boxes of three arguments; a script box stacks the upper script onto the lower one -/
def tripleBoxes : TripleKind → Node → Node → Node → List Node
  | .subsup, base, lower, upper => [base, bare "mjx-script" [upper, bare "mjx-spacer" [], lower]]
  | .underover, base, lower, upper => [bare "mjx-base" [base], bare "mjx-under" [lower], bare "mjx-over" [upper]]

/-- the name of the box of a kind -/
def boxName (kind : Kind) : String :=
  "mjx-" ++ kind.name

mutual

/-- the expression as styled boxes -/
def chtml : Expression → Node
  | .leaf kind marks glyphs => .element (boxName kind.kind) marks.attributes (glyphs.map fun g => glyphBox g.char)
  | .list kind marks items => .element (boxName kind.kind) marks.attributes (listBoxes kind (chtmls items))
  | .pair kind marks first second =>
    .element (boxName kind.kind) marks.attributes (pairBoxes kind (chtml first) (chtml second))
  | .triple kind marks base lower upper =>
    .element (boxName kind.kind) marks.attributes (tripleBoxes kind (chtml base) (chtml lower) (chtml upper))

/-- several expressions as styled boxes -/
def chtmls : List Expression → List Node
  | [] => []
  | e :: rest => chtml e :: chtmls rest

end

/-- a formula as styled boxes -/
def chtmlRoot (es : List Expression) : Node :=
  bare "mjx-math" (chtmls es)

/-! ## Drawings -/

/-- a group that draws a node of a kind -/
def group (kind : Kind) (attributes : List (String × String)) (children : List Node) : Node :=
  .element "g" (("data-mml-node", kind.name) :: attributes) children

/-- the drawing of a glyph -/
def useOf (glyph : Glyph) : Node :=
  .element "use" (("data-c", String.ofList (Glyph.code glyph.char)) :: (glyph.x.toList.map (("x", ·)) ++
    glyph.transform.toList.map (("transform", ·)))) []

/-- the line of a fraction or of a radical -/
def line : Node :=
  bare "rect" []

/-- the operator that draws a radical sign -/
def drawnRadical : Node :=
  group .operator [] [useOf ⟨radicalSign, none, none⟩]

/-- the drawing of the elements of a list -/
def listDrawing : ListKind → List Node → List Node
  | .row, items | .style, items => items
  | .sqrt, items => [bare "g" items, drawnRadical, line]

/-- the drawing of two arguments -/
def pairDrawing : PairKind → Node → Node → List Node
  | .fraction, numerator, denominator => [bare "g" [numerator], bare "g" [denominator], line]
  | .root, first, second | .superscript, first, second | .subscript, first, second | .underscript, first, second
  | .overscript, first, second => [first, second]

mutual

/-- the expression as a drawing -/
def svg : Expression → Node
  | .leaf kind marks glyphs => group kind.kind marks.attributes (glyphs.map useOf)
  | .list kind marks items => group kind.kind marks.attributes (listDrawing kind (svgs items))
  | .pair kind marks first second => group kind.kind marks.attributes (pairDrawing kind (svg first) (svg second))
  | .triple kind marks base lower upper => group kind.kind marks.attributes [svg base, svg lower, svg upper]

/-- several expressions as drawings -/
def svgs : List Expression → List Node
  | [] => []
  | e :: rest => svg e :: svgs rest

end

/-- a formula as a drawing -/
def svgRoot (es : List Expression) : Node :=
  group .math [] (svgs es)

/-! ## Characters -/

mutual

/-- the characters of an expression in the order in which MathML holds them -/
def text : Expression → List Char
  | .leaf _ _ glyphs => glyphs.map (·.char)
  | .list _ _ items => texts items
  | .pair _ _ first second => text first ++ text second
  | .triple _ _ base lower upper => text base ++ text lower ++ text upper

/-- the characters of several expressions -/
def texts : List Expression → List Char
  | [] => []
  | e :: rest => text e ++ texts rest

end

mutual

/-- the characters in the order in which boxes hold them; a radical sign comes before what stands under it, an index
before its base, and an upper script in a stack before the lower one -/
def boxed : Expression → List Char
  | .leaf _ _ glyphs => glyphs.map (·.char)
  | .list .sqrt _ items => radicalSign :: boxeds items
  | .list .row _ items | .list .style _ items => boxeds items
  | .pair .root _ base index => boxed index ++ boxed base
  | .pair .fraction _ first second | .pair .superscript _ first second | .pair .subscript _ first second
  | .pair .underscript _ first second | .pair .overscript _ first second => boxed first ++ boxed second
  | .triple .subsup _ base lower upper => boxed base ++ boxed upper ++ boxed lower
  | .triple .underover _ base lower upper => boxed base ++ boxed lower ++ boxed upper

/-- the characters that the boxes of several expressions hold -/
def boxeds : List Expression → List Char
  | [] => []
  | e :: rest => boxed e ++ boxeds rest

end

mutual

/-- the characters in the order in which a drawing holds them; a radical sign comes after what stands under it -/
def drawn : Expression → List Char
  | .leaf _ _ glyphs => glyphs.map (·.char)
  | .list .sqrt _ items => drawns items ++ [radicalSign]
  | .list .row _ items | .list .style _ items => drawns items
  | .pair _ _ first second => drawn first ++ drawn second
  | .triple _ _ base lower upper => drawn base ++ drawn lower ++ drawn upper

/-- the characters that the drawings of several expressions hold -/
def drawns : List Expression → List Char
  | [] => []
  | e :: rest => drawn e ++ drawns rest

end

/-! ## Subexpressions -/

/-- the arguments of an expression, or the elements of its list -/
def parts : Expression → List Expression
  | .leaf .. => []
  | .list _ _ items => items
  | .pair _ _ first second => [first, second]
  | .triple _ _ base lower upper => [base, lower, upper]

mutual

/-- an expression and all expressions inside it -/
def subexpressions : Expression → List Expression
  | .leaf kind marks glyphs => [.leaf kind marks glyphs]
  | .list kind marks items => .list kind marks items :: subexpressionsOf items
  | .pair kind marks first second => .pair kind marks first second :: (subexpressions first ++ subexpressions second)
  | .triple kind marks base lower upper =>
    .triple kind marks base lower upper :: (subexpressions base ++ subexpressions lower ++ subexpressions upper)

/-- several expressions and all expressions inside them -/
def subexpressionsOf : List Expression → List Expression
  | [] => []
  | e :: rest => subexpressions e ++ subexpressionsOf rest

end

theorem mem_subexpressions (e : Expression) : e ∈ subexpressions e := by
  cases e <;> simp [subexpressions]

theorem subexpressions_subset {e : Expression} {es : List Expression} (h : e ∈ es) :
    subexpressions e ⊆ subexpressionsOf es := by
  induction es with
  | nil => cases h
  | cons first rest ih =>
    rw [subexpressionsOf]
    rcases List.mem_cons.1 h with rfl | h
    · exact List.subset_append_left _ _
    · exact List.subset_append_of_subset_right _ (ih h)

theorem subexpressions_part {e part : Expression} (h : part ∈ e.parts) : subexpressions part ⊆ subexpressions e := by
  cases e with
  | leaf => cases h
  | list kind marks items =>
    rw [subexpressions]
    exact List.subset_cons_of_subset _ (subexpressions_subset h)
  | pair kind marks first second =>
    simp only [parts, List.mem_cons, List.not_mem_nil, or_false] at h
    rw [subexpressions]
    rcases h with rfl | rfl
    · exact List.subset_cons_of_subset _ (List.subset_append_left _ _)
    · exact List.subset_cons_of_subset _ (List.subset_append_right _ _)
  | triple kind marks base lower upper =>
    simp only [parts, List.mem_cons, List.not_mem_nil, or_false] at h
    rw [subexpressions]
    rcases h with rfl | rfl | rfl
    · exact List.subset_cons_of_subset _ (List.subset_append_of_subset_left _ (List.subset_append_left _ _))
    · exact List.subset_cons_of_subset _ (List.subset_append_of_subset_left _ (List.subset_append_right _ _))
    · exact List.subset_cons_of_subset _ (List.subset_append_right _ _)

/-- a property of an expression and of all expressions inside it -/
def Everywhere (Q : Expression → Prop) (e : Expression) : Prop :=
  ∀ s ∈ subexpressions e, Q s

instance (Q : Expression → Prop) [DecidablePred Q] (e : Expression) : Decidable (Everywhere Q e) :=
  inferInstanceAs (Decidable (∀ s ∈ subexpressions e, Q s))

theorem Everywhere.here {Q : Expression → Prop} {e : Expression} (h : Everywhere Q e) : Q e :=
  h e (mem_subexpressions e)

theorem Everywhere.part {Q : Expression → Prop} {e part : Expression} (h : Everywhere Q e) (hpart : part ∈ e.parts) :
    Everywhere Q part :=
  fun s hs => h s (subexpressions_part hpart hs)

theorem mathmls_eq (es : List Expression) : mathmls es = es.map mathml := by
  induction es with
  | nil => rfl
  | cons e rest ih => rw [mathmls, ih, List.map_cons]

theorem chtmls_eq (es : List Expression) : chtmls es = es.map chtml := by
  induction es with
  | nil => rfl
  | cons e rest ih => rw [chtmls, ih, List.map_cons]

theorem svgs_eq (es : List Expression) : svgs es = es.map svg := by
  induction es with
  | nil => rfl
  | cons e rest ih => rw [svgs, ih, List.map_cons]

end Expression

end Untypeset
