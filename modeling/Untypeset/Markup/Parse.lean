import Untypeset.Markup.Token

/-!
Trees from tokens. A closing tag closes the nearest open element of its name together with all that is open inside it;
without such an element it is ignored, and nothing else is closed before the end. Texts that follow each other directly
are one node.

An element that never holds anything is closed by its opening tag. A closing tag of that name may still follow, so one
such tag is overlooked for each element closed in this way, wherever it comes. A tag that closes itself needs no other,
and none is overlooked for it.
-/

namespace Untypeset.Markup

open Untypeset.Text

/-- an element whose end has not come yet; its children are in reverse -/
structure OpenElement where
  name : String
  attributes : List (String × String)
  children : List Node

/-- a tree being built: the open elements, innermost first, the finished top-level nodes in reverse, the text since the
last tag, and the names of which a closing tag is to be overlooked -/
structure Builder where
  stack : List OpenElement
  done : List Node
  pending : Option (List Char)
  overlooked : List String

/-- the elements that never hold anything -/
def voidNames : List String :=
  ["area", "base", "br", "col", "embed", "hr", "img", "input", "keygen", "link", "menuitem", "meta", "param", "source",
   "track", "wbr", "basefont", "bgsound", "command", "frame", "image", "isindex", "nextid", "spacer"]

/-- the characters that layout consists of -/
def isLayoutChar (c : Char) : Bool :=
  c == ' ' || c == '\n' || c == '\t' || c == '\x0c' || c == '\r'

/-- the elements inside which layout matters -/
def preformattedNames : List String :=
  ["pre", "textarea"]

/-- the content under which a text is kept: mere layout shrinks to one line break or one space -/
def keptText (s : List Char) : List Char :=
  if s.all isLayoutChar then if s.contains '\n' then ['\n'] else [' '] else s

namespace Builder

/-- the builder before any token -/
def start : Builder :=
  ⟨[], [], none, []⟩

/-- puts a node behind those of the innermost open element -/
def add (builder : Builder) (node : Node) : Builder :=
  match builder.stack with
  | [] => { builder with done := node :: builder.done }
  | inner :: outer => { builder with stack := { inner with children := node :: inner.children } :: outer }

/-- whether a preformatted element is open -/
def keepsLayout (builder : Builder) : Bool :=
  builder.stack.any fun element => preformattedNames.contains element.name

/-- the innermost enclave that is open -/
def enclave? (builder : Builder) : Option Enclave :=
  builder.stack.findSome? fun element => Enclave.ofName? element.name

/-- the kind of plain text in the innermost open element -/
def plainKind (builder : Builder) : TextKind :=
  match builder.enclave? with
  | some enclave => .enclosed enclave
  | none => .plain

/-- puts a text behind the nodes of the innermost open element -/
def addText (builder : Builder) (kind : TextKind) (content : List Char) : Builder :=
  builder.add (.text kind (String.ofList (if builder.keepsLayout then content else keptText content)))

/-- makes a node of the text since the last tag -/
def flush (builder : Builder) : Builder :=
  match builder.pending with
  | none => builder
  | some content => { builder with pending := none }.addText builder.plainKind content

/-- closes the innermost open element -/
def closeInner (builder : Builder) : Builder :=
  match builder.stack with
  | [] => builder
  | inner :: outer =>
    { builder with stack := outer }.add (Node.ofParts inner.name inner.attributes inner.children.reverse)

/-- closes the elements up to a number of them -/
def closeMany : Nat → Builder → Builder
  | 0, builder => builder
  | count + 1, builder => closeMany count builder.closeInner

/-- closes the nearest open element of a name and all inside it -/
def close (builder : Builder) (name : String) : Builder :=
  match builder.stack.findIdx? (·.name == name) with
  | none => builder
  | some index => closeMany (index + 1) builder

/-- takes an opening tag in -/
def openTag (builder : Builder) (name : String) (attributes : List (String × String)) (closed : Bool) : Builder :=
  let flushed := builder.flush
  let filled := flushed.add (Node.ofParts name attributes [])
  if closed then filled
  else if voidNames.contains name then { filled with overlooked := name :: filled.overlooked }
  else { flushed with stack := ⟨name, attributes, []⟩ :: flushed.stack }

/-- takes a closing tag in, unless it is to be overlooked -/
def closeTag (builder : Builder) (name : String) : Builder :=
  if builder.overlooked.contains name then { builder with overlooked := builder.overlooked.erase name }
  else builder.flush.close name

/-- takes one token in -/
def step (builder : Builder) : Token → Builder
  | .text content => { builder with pending := some (builder.pending.getD [] ++ content) }
  | .special kind content => builder.flush.addText kind content
  | .closing name => builder.closeTag name
  | .opening name attributes closed => builder.openTag name attributes closed
  | .fault _ => builder

/-- the finished top-level nodes -/
def nodes (builder : Builder) : List Node :=
  let flushed := builder.flush
  (closeMany flushed.stack.length flushed).done.reverse

end Builder

/-- the fault that a token stands for -/
def Token.fault? : Token → Option Fault
  | .fault cause => some cause
  | .text _ | .opening .. | .closing _ | .special .. => none

/-- the document that tokens describe -/
def documentOf (tokens : List Token) : Node :=
  Node.document (tokens.foldl Builder.step Builder.start).nodes

/-- the document that a text describes, or what makes it unreadable -/
def parse (s : String) : Except Fault Node :=
  match (tokens s.toList).findSome? Token.fault? with
  | some fault => .error fault
  | none => .ok (documentOf (tokens s.toList))

end Untypeset.Markup
