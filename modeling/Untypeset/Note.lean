import Untypeset.Latex.Basic
import Untypeset.Rendering.Shape

/-!
Notes: what a conversion reports about its progress. A note is a cause; its level and its wording are functions of it.
Texts that come from the input are shortened when a note is worded, so the limit is a parameter of the wording.
-/

namespace Untypeset

open Untypeset.Rendering

/-- how important a note is -/
inductive Level where
  | debug
  | info
  | warning
  | error
  deriving DecidableEq, Repr, Inhabited

namespace Level

/-- the name of a level -/
def name : Level → String
  | .debug => "DEBUG"
  | .info => "INFO"
  | .warning => "WARNING"
  | .error => "ERROR"

/-- the levels in ascending order as numbers -/
def rank : Level → Nat
  | .debug => 0
  | .info => 1
  | .warning => 2
  | .error => 3

end Level

/-- the structures whose conversion is noted -/
inductive Landmark where
  | equality
  | squareRoot
  | root
  | fraction
  | superscript
  | integral
  deriving DecidableEq, Repr, Inhabited

/-- the name of a noted structure -/
def Landmark.name : Landmark → String
  | .equality => "equality"
  | .squareRoot => "square root"
  | .root => "root"
  | .fraction => "fraction"
  | .superscript => "superscript"
  | .integral => "integral"

/-- something that a conversion reports -/
inductive Note where
  | processed (landmark : Landmark)
  | reassembled (name : Latex)
  | nothingRecognised
  | starting (shape : Shape)
  | spoken (text : List Char)
  | drawing (lines : List (List Char))
  | converted (shape : Shape) (nodes depth : Nat)
  | completed (shape : Shape)
  | produced (latex : Latex)
  | failed (shape : Shape)
  | rejectedMarkup
  | reused
  | reading (markup : List Char)
  | noRoot
  | cleared
  | refused (message : List Char)
  deriving DecidableEq, Repr, Inhabited

/-- the text cut to the limit, with three dots where something was cut off; a negative limit counts from the end -/
def shorten (limit : Int) (text : List Char) : List Char :=
  if (text.length : Int) ≤ limit then text
  else if 0 ≤ limit then text.take limit.toNat ++ "...".toList
  else text.take (text.length - limit.natAbs) ++ "...".toList

/-- a value that a note may show -/
inductive Payload where
  | text (content : List Char)
  | integer (value : Int)
  | flag (value : Bool)
  | nothing
  deriving DecidableEq, Repr, Inhabited

/-- how a value is shown -/
def Payload.shown : Payload → List Char
  | .text content => content
  | .integer value => (toString value).toList
  | .flag true => "True".toList
  | .flag false => "False".toList
  | .nothing => "None".toList

namespace Note

/-- the level of a note -/
def level : Note → Level
  | .processed _ | .reassembled _ | .drawing _ | .converted .. | .produced _ | .reused | .reading _ | .cleared => .debug
  | .starting _ | .spoken _ | .completed _ => .info
  | .nothingRecognised | .rejectedMarkup | .noRoot | .refused _ => .warning
  | .failed _ => .error

/-- the wording of a note -/
def text (limit : Int) : Note → List Char
  | .processed landmark => "Processed ".toList ++ landmark.name.toList
  | .reassembled name => "Reassembled function name ".toList ++ name
  | .nothingRecognised => "No recognizable MathJax structure in input".toList
  | .starting shape => "Translating ".toList ++ shape.name.toList ++ " format...".toList
  | .spoken words => "Converting: ".toList ++ shorten limit words
  | .drawing lines => "SVG tree:\n".toList ++ ['\n'].intercalate lines
  | .converted shape nodes depth =>
    "Converted ".toList ++ shape.name.toList ++ " tree: ".toList ++ (Nat.repr nodes).toList ++
      " nodes, depth ".toList ++ (Nat.repr depth).toList
  | .completed shape => shape.name.toList ++ " to LaTeX conversion completed successfully".toList
  | .produced latex => "LaTeX output: ".toList ++ shorten limit latex
  | .failed shape => shape.name.toList ++ " to LaTeX conversion failed".toList
  | .rejectedMarkup => "Rejected empty or non-string markup".toList
  | .reused => "Using cached conversion result".toList
  | .reading markup => "Converting markup: ".toList ++ shorten limit markup
  | .noRoot => "No math root found in markup".toList
  | .cleared => "Conversion cache cleared".toList
  | .refused message => "Conversion rejected: ".toList ++ message

/-- the notes at or above a level -/
def atLeast (level : Level) (notes : List Note) : List Note :=
  notes.filter fun note => level.rank ≤ note.level.rank

end Note

end Untypeset
