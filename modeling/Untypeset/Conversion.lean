import Untypeset.Formula.Convert
import Untypeset.Latex.Paren
import Untypeset.Markup.Fault
import Untypeset.Markup.Outline
import Untypeset.Rendering.Locate

/-!
Conversion of a node to LaTeX: find out which shape of formula it holds, walk through the formula, size the parentheses
of the result, and note what was done.
-/

namespace Untypeset

open Untypeset.Markup Untypeset.Rendering Untypeset.Symbol

/-- the outcome of a conversion -/
inductive Outcome where
  /-- LaTeX, and the shape that it was read from -/
  | converted (shape : Shape) (latex : Latex)
  /-- there is no formula -/
  | notFound
  /-- the input is no markup -/
  | invalidInput
  /-- the input is markup that cannot be read -/
  | unreadable (fault : Fault)
  /-- the conversion of a shape broke off -/
  | broken (shape : Shape) (message : List Char)
  deriving DecidableEq, Repr, Inhabited

namespace Outcome

/-- whether there is LaTeX -/
def ok : Outcome → Bool
  | .converted .. => true
  | .notFound | .invalidInput | .unreadable _ | .broken .. => false

/-- the shape of the formula, where one was found -/
def shape? : Outcome → Option Shape
  | .converted shape _ | .broken shape _ => some shape
  | .notFound | .invalidInput | .unreadable _ => none

/-- the text that answers a request: the LaTeX, or a message in its place -/
def text : Outcome → List Char
  | .converted _ latex => latex
  | .notFound => "No valid MathML found".toList
  | .invalidInput => "Invalid input provided".toList
  | .unreadable fault => fault.message
  | .broken _ message => "Error: ".toList ++ message

end Outcome

/-- a value and the notes made on the way to it -/
structure Noted (α : Type) where
  value : α
  notes : List Note

/-- how to convert -/
structure Converter where
  symbols : SymbolTable
  preferAssistive : Bool
  /-- the message with which every conversion breaks off; none if conversions work -/
  fault : Option (List Char)

/-- the walk that converts the formula at a place -/
def walkAt (shape : Shape) (symbols : SymbolTable) (place : Located) : Walk Latex :=
  latexOf symbols (Formula.read shape symbols place)

/-- the LaTeX that a walk comes to with its parentheses sized, and what the walk counted -/
def convertWalk (shape : Shape) (walk : Walk Latex) : Noted Latex :=
  let tally := Tally.start.follow walk
  ⟨Latex.sized walk.value, walk.notes ++ [.converted shape tally.visited tally.maxDepth]⟩

/-- the LaTeX of the formula at a place with its parentheses sized -/
def convertAt (shape : Shape) (symbols : SymbolTable) (place : Located) : Noted Latex :=
  convertWalk shape (walkAt shape symbols place)

/-- the notes about the input of a conversion: its spoken form, or the text of MathML without one, and the outline of a
drawing -/
def inputNotes (shape : Shape) (place : Located) : List Note :=
  let spoken : List Note :=
    match label? place with
    | some label => [.spoken label.toList]
    | none => if shape = .mathml then [.spoken place.node.spaced] else []
  let drawing : List Note := if shape = .svg then [.drawing (outline outlineDepth 0 place.node)] else []
  spoken ++ drawing

namespace Converter

/-- converts the formula of a shape that starts at a place -/
def convertAs (converter : Converter) (shape : Shape) (place : Located) : Noted Outcome :=
  let before := .starting shape :: inputNotes shape place
  match converter.fault with
  | some message => ⟨.broken shape message, before ++ [.failed shape]⟩
  | none =>
    let converted := convertAt shape converter.symbols place
    ⟨.converted shape converted.value,
      before ++ converted.notes ++ [.completed shape, .produced converted.value]⟩

/-- converts the formula at a place, if there is a place -/
def convert (converter : Converter) (place : Option Located) : Noted Outcome :=
  match place.bind (detect? converter.preferAssistive) with
  | none => ⟨.notFound, [.nothingRecognised]⟩
  | some (shape, start) => converter.convertAs shape start

end Converter

end Untypeset
