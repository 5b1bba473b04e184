import Untypeset.Text.Blank
import Untypeset.Text.Case

/-!
Parsed markup. A node is an element with attributes and children, or a piece of text of some kind. Only plain text and
character data are shown to a reader; the other kinds take part in no text of an element. Some elements are enclaves,
such as scripts and ruby annotations: the text inside one belongs to it alone.

Attributes whose value is a list of words are kept in one spelling, the words with single spaces between them, so that
every other module may compare them as plain strings.
-/

namespace Untypeset.Markup

open Untypeset.Text

/-- the elements that keep the text inside them to themselves -/
inductive Enclave where
  | script
  | style
  | template
  | rubyText
  | rubyParenthesis
  deriving DecidableEq, Repr, Inhabited

/-- the names of the enclaves -/
def enclaveNames : List (String × Enclave) :=
  [("script", .script), ("style", .style), ("template", .template), ("rt", .rubyText), ("rp", .rubyParenthesis)]

/-- the enclave that an element of this name is -/
def Enclave.ofName? (name : String) : Option Enclave :=
  enclaveNames.lookup name

/-- what a piece of text stands for; text inside an enclave is marked with the nearest one -/
inductive TextKind where
  | plain
  | enclosed (enclave : Enclave)
  | cdata
  | comment
  | instruction
  | doctype
  | declaration
  deriving DecidableEq, Repr, Inhabited

/-- whether text of this kind belongs to the text of an element: an enclave shows what is marked as its own, any other
element plain text and character data -/
def TextKind.isShownIn (reader : Option Enclave) : TextKind → Bool
  | .plain | .cdata => reader.isNone
  | .enclosed enclave => reader == some enclave
  | .comment | .instruction | .doctype | .declaration => false

/-- a node of a parsed document -/
inductive Node where
  | text (kind : TextKind) (content : String)
  | element (name : String) (attributes : List (String × String)) (children : List Node)
  deriving Repr, Inhabited

/-- the attributes that hold a list of words on every element -/
def wordListAttributes : List String :=
  ["class", "accesskey", "dropzone"]

/-- the attributes that hold a list of words on one kind of element only -/
def elementWordLists : List (String × List String) :=
  [("a", ["rel", "rev"]), ("link", ["rel", "rev"]), ("td", ["headers"]), ("th", ["headers"]),
   ("form", ["accept-charset"]), ("object", ["archive"]), ("area", ["rel"]), ("icon", ["sizes"]),
   ("iframe", ["sandbox"]), ("output", ["for"])]

/-- whether an attribute of an element holds a list of words -/
def holdsWords (element attr : String) : Bool :=
  wordListAttributes.contains attr ||
    ((elementWordLists.lookup (String.ofList (lowerCase element.toList))).getD []).contains attr

/-- the spelling under which an attribute value is kept -/
def storedValue (element attr value : String) : String :=
  if holdsWords element attr then String.ofList (joinWithSpace (words value.toList)) else value

namespace Node

/-- an element whose attribute values are brought into their stored spelling -/
def ofParts (name : String) (attributes : List (String × String)) (children : List Node) : Node :=
  .element name (attributes.map fun a => (a.1, storedValue name a.1 a.2)) children

/-- a document, as the element that holds its top-level nodes -/
def document (nodes : List Node) : Node :=
  .element "[document]" [] nodes

/-- no node at all: an empty text, which has no kind, no attributes and nothing to show -/
def nothing : Node :=
  .text .plain ""

/-- whether the node is an element -/
def isElement : Node → Bool
  | .element .. => true
  | .text .. => false

/-- the name of an element -/
def name? : Node → Option String
  | .element name .. => some name
  | .text .. => none

/-- whether the node is an element of exactly this name -/
def isNamed (node : Node) (name : String) : Bool :=
  node.name? == some name

/-- the children of an element; a text has none -/
def children : Node → List Node
  | .element _ _ children => children
  | .text .. => []

/-- the value of an attribute; a text has none -/
def attr? (node : Node) (name : String) : Option String :=
  match node with
  | .element _ attributes _ => attributes.lookup name
  | .text .. => none

/-- the value of an attribute that is present and not empty -/
def nonempty? (node : Node) (name : String) : Option String :=
  (node.attr? name).filter (· ≠ "")

mutual

/-- the texts below a node that an element shows, in document order, the node's own included -/
def textsFor (reader : Option Enclave) : Node → List (List Char)
  | .text kind content => if kind.isShownIn reader then [content.toList] else []
  | .element _ _ children => textsOfAll reader children

/-- the texts below a list of nodes that an element shows -/
def textsOfAll (reader : Option Enclave) : List Node → List (List Char)
  | [] => []
  | node :: rest => textsFor reader node ++ textsOfAll reader rest

end

/-- the enclave that a node is -/
def enclave? (node : Node) : Option Enclave :=
  node.name?.bind Enclave.ofName?

/-- the texts that a node shows, in document order -/
def shownTexts (node : Node) : List (List Char) :=
  node.textsFor node.enclave?

/-- the text of a node: its own content for a text of any kind, all shown texts in a row for an element -/
def content : Node → List Char
  | .text _ content => content.toList
  | node@(.element ..) => node.shownTexts.flatten

/-- the text of a node without the blanks around it -/
def trimmed (node : Node) : List Char :=
  trim node.content

/-- the shown texts without the blanks around each, empty ones left out, one space between them -/
def spaced (node : Node) : List Char :=
  joinWithSpace ((node.shownTexts.map trim).filter (· ≠ []))

/-- a comment, or a text of any other kind that is blank: nothing that a formula could hold -/
def isInvisibleText : Node → Bool
  | .text .comment _ => true
  | .text _ content => allBlank content.toList
  | .element .. => false

/-! ## Size -/

mutual

/-- the number of nodes of a tree -/
def size : Node → Nat
  | .text .. => 1
  | .element _ _ children => 1 + sizes children

/-- the number of nodes of several trees together -/
def sizes : List Node → Nat
  | [] => 0
  | node :: rest => size node + sizes rest

end

theorem size_pos (node : Node) : 0 < node.size := by
  cases node <;> simp only [size] <;> omega

theorem size_le_sizes {node : Node} {nodes : List Node} (h : node ∈ nodes) : node.size ≤ sizes nodes := by
  induction nodes with
  | nil => cases h
  | cons head rest ih =>
    simp only [sizes]
    rcases List.mem_cons.1 h with rfl | h
    · omega
    · have := ih h
      omega

theorem children_lt {node child : Node} (h : child ∈ node.children) : child.size < node.size := by
  cases node with
  | text => simp [children] at h
  | element name attributes nodes =>
    have := size_le_sizes (show child ∈ nodes from h)
    simp only [size]
    omega

end Node

end Untypeset.Markup
