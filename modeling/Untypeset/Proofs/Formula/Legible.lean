import Untypeset.Conversion
import Untypeset.Proofs.Formula.Content
import Untypeset.Proofs.Formula.Digits
import Untypeset.Proofs.Rendering.Counted

/-!
Which MathML trees are legible. `MathML.digits` reads the digits off the tree itself, leaf by leaf in document order, with
the index of a root before its base. A tree is regular if no digit hides where the conversion does not look:
- in text that no leaf shows, such as a processing instruction;
- behind a character whose table entry has digits of its own;
- in the script over a base;
- in a base under two limits, but not in the text of this base, as is the text of an enclave;
- in an operator with the role of an application mark that stands directly behind an identifier.

The last two conditions cannot be dropped (`ordinary_loses_digits`).
-/

namespace Untypeset.Rendering.MathML

open Untypeset.Markup Untypeset.Symbol Untypeset.Text

/-- the children of a node that count -/
def counted (node : Node) : List Node :=
  node.children.filter fun child => kind child ≠ .ignored

mutual

/-- the digits of the leaves of a tree, in document order but for the indices of roots -/
def digits : Node → List Char
  | .text textKind content => orderedDigits (kind (.text textKind content)) (Latex.digits content.toList) []
  | .element name attributes children =>
    orderedDigits (kind (.element name attributes children))
      (Latex.digits (Node.element name attributes children).content) (partDigits children)

/-- the digits of each of several nodes, of those that count -/
def partDigits : List Node → List (List Char)
  | [] => []
  | node :: rest => if kind node = .ignored then partDigits rest else digits node :: partDigits rest

end

theorem partDigits_eq (nodes : List Node) :
    partDigits nodes = (nodes.filter fun node => kind node ≠ .ignored).map digits := by
  induction nodes with
  | nil => rfl
  | cons node rest ih =>
    rw [partDigits, ih]
    by_cases h : kind node = .ignored <;> simp [h]

/-! ## Regular trees -/

/-- what kind of text a node is -/
def textKind? : Node → Option TextKind
  | .text textKind _ => some textKind
  | .element .. => none

/-- a character beyond ASCII whose entry in the glyph table has a digit -/
def hidesDigit (c : Char) : Bool :=
  0x7F < c.toNat && (SymbolTable.default.glyph? c.toNat).any fun token => token.any isAsciiDigit

/-- whether this node is an operator with the role of an application mark and with digits of its own -/
def marksWithDigits (node : Node) : Bool :=
  kind node = .operator && node.attr? "data-semantic-role" = some "application" && digits node ≠ []

/-- a node without processing instructions and declarations, whose digits stand neither in a script over a base nor
behind a lone character -/
structure Ordinary (node : Node) : Prop where
  text : ∀ textKind ∈ textKind? node, textKind ≠ .instruction ∧ textKind ≠ .doctype ∧ textKind ≠ .declaration
  leaf : (kind node).isLeaf = true → node.trimmed.length = 1 → node.trimmed.any hidesDigit = false
  overscript : kind node = .over → (counted node).length = 2 → ∀ script ∈ (counted node).getLast?, digits script = []

/-- a node whose own text holds all digits of the tree below it -/
def ShowsDigits (node : Node) : Prop :=
  ∀ c ∈ digits node, c ∈ node.content

/-- an ordinary node whose base shows its digits, if it has one with two limits, and among whose children no application mark
with digits stands behind an identifier -/
structure Regular (node : Node) : Prop extends Ordinary node where
  base : kind node = .subsup ∨ kind node = .underover → (counted node).length = 3 →
    ∀ base ∈ (counted node).head?, ShowsDigits base
  marks : (counted node).IsChain fun a b => kind a = .identifier → marksWithDigits b = false

instance (node : Node) : Decidable (Ordinary node) :=
  decidable_of_iff (_ ∧ _ ∧ _) ⟨fun h => ⟨h.1, h.2.1, h.2.2⟩, fun h => ⟨h.text, h.leaf, h.overscript⟩⟩

instance (node : Node) : Decidable (ShowsDigits node) :=
  decidable_of_iff ((digits node).all fun c => c ∈ node.content) List.all_iff_forall_prop

instance (node : Node) : Decidable (Regular node) :=
  decidable_of_iff (Ordinary node ∧ _ ∧ _)
    ⟨fun h => ⟨h.1, h.2.1, h.2.2⟩, fun h => ⟨h.toOrdinary, h.base, h.marks⟩⟩

end Untypeset.Rendering.MathML

namespace Untypeset

open Untypeset.Markup Untypeset.Rendering Untypeset.Symbol Untypeset.Text

/-! ## Digits of the formula that is read from a tree -/

theorem Formula.map_node_partPlaces (place : Located) :
    (Formula.partPlaces .mathml place).map (·.node) = MathML.counted place.node := by
  rw [Formula.partPlaces_mathml, map_node_countedChildren]
  rfl

theorem MathML.digits_eq (node : Node) :
    MathML.digits node =
      orderedDigits (MathML.kind node) (Latex.digits node.content) ((MathML.counted node).map MathML.digits) := by
  cases node with
  | text textKind content => rfl
  | element name attributes children =>
    rw [MathML.digits, MathML.partDigits_eq]
    rfl

/-- a digit of a tree is one of a leaf, or of a child that counts -/
theorem MathML.mem_digits {node : Node} {c : Char} (h : c ∈ MathML.digits node) :
    (MathML.kind node).isLeaf = true ∧ c ∈ Latex.digits node.content ∨
      ∃ child ∈ MathML.counted node, c ∈ MathML.digits child := by
  rw [MathML.digits_eq] at h
  rw [← List.mem_flatMap, List.flatMap_def]
  exact mem_orderedDigits h

theorem MathML.isAsciiDigit_of_mem_digits {node : Node} {c : Char} (h : c ∈ MathML.digits node) : isAsciiDigit c = true := by
  rcases MathML.mem_digits h with ⟨-, hdigit⟩ | ⟨child, hchild, hdigit⟩
  · exact (List.mem_filter.1 hdigit).2
  · have := Node.children_lt (List.mem_of_mem_filter hchild)
    exact isAsciiDigit_of_mem_digits hdigit
termination_by node.size

theorem digits_read (place : Located) :
    (Formula.read .mathml .default place).digits = MathML.digits place.node := by
  have hparts : (Formula.read .mathml .default place).parts.map Formula.digits =
      (MathML.counted place.node).map MathML.digits := by
    rw [Formula.parts_read, ← Formula.map_node_partPlaces, List.map_map, List.map_map]
    apply List.map_congr_left
    intro part hpart
    have := Formula.partPlaces_lt hpart
    exact digits_read part
  have hraw : Latex.digits (Formula.read .mathml .default place).facts.raw = Latex.digits place.node.content := by
    rw [Formula.facts_read]
    change Latex.digits (Formula.rawText .mathml place.node) = _
    rw [rawText_mathml, Node.trimmed, Latex.digits_trim]
  have hkind : (Formula.read .mathml .default place).kind = MathML.kind place.node := Formula.kind_read ..
  rw [Formula.digits_eq, MathML.digits_eq, hraw, hkind, hparts]
termination_by place.node.size

/-! ## Digits of leaves -/

theorem digits_of_lone {c : Char} (h : 0x7F < c.toNat) : Latex.digits [c] = [] := by
  rw [Latex.digits_eq_nil_iff]
  intro d hd
  by_contra hdigit
  simp only [Bool.not_eq_false] at hdigit
  have := ascii_of_digit hdigit
  rw [List.mem_singleton.1 hd] at this
  omega

/-- what a node shows has the digits of its text, unless the text is a lone character beyond ASCII -/
theorem digits_content {node : Node} (h : node.trimmed.length = 1 → node.trimmed.any MathML.hidesDigit = false) :
    Latex.digits (Formula.content .mathml .default node) = Latex.digits node.trimmed := by
  unfold Formula.content
  split
  · rename_i hempty
    rw [List.isEmpty_iff.1 hempty]
    rfl
  · unfold Formula.textContent
    cases hsymbol : Formula.textSymbol? .mathml .default node.trimmed with
    | none => exact Latex.digits_functionOr _
    | some token =>
      obtain ⟨c, hc, hbeyond, htoken⟩ := exists_of_textSymbol? hsymbol
      have hhides := h (by rw [hc]; rfl)
      rw [hc, List.any_cons, List.any_nil, Bool.or_false, MathML.hidesDigit, htoken, Option.any_some,
        decide_eq_true hbeyond, Bool.true_and, List.any_eq_false] at hhides
      rw [Option.getD_some, hc, digits_of_lone hbeyond, Latex.digits_eq_nil_iff]
      intro d hd
      simpa using hhides d hd

/-- without the condition on lone characters: no digit of the text is missing, as such a character is none itself -/
theorem digits_trimmed_of_content {node : Node} (h : Latex.digits (Formula.content .mathml .default node) = []) :
    Latex.digits node.trimmed = [] := by
  by_cases hlone : ∃ c, node.trimmed = [c] ∧ 0x7F < c.toNat
  · obtain ⟨c, hc, hascii⟩ := hlone
    rw [hc, digits_of_lone hascii]
  · refine (digits_content fun hlength => ?_).symm.trans h
    obtain ⟨c, hc⟩ := List.length_eq_one_iff.1 hlength
    have hascii : ¬ 0x7F < c.toNat := by
      intro hascii
      exact hlone ⟨c, hc, hascii⟩
    simp [hc, MathML.hidesDigit, hascii]

/-! ## Integral signs -/

/-- a node that the layout of integrals takes for the sign shows no digit -/
theorem digits_content_of_isIntegral {place : Located}
    (h : (Formula.read .mathml .default place).isIntegral = true) : Latex.digits place.node.content = [] := by
  rw [← Latex.digits_trim]
  change Latex.digits place.node.trimmed = []
  simp only [Formula.isIntegral, Bool.or_eq_true, decide_eq_true_eq, Formula.key, Formula.facts_read] at h
  have hkey : ∀ key, trim (Formula.content .mathml .default place.node) = key → Latex.digits key = [] →
      Latex.digits place.node.trimmed = [] := by
    intro key hkey hdigits
    refine digits_trimmed_of_content ?_
    rw [← Latex.digits_trim, hkey, hdigits]
  rcases h with (h | h) | h
  · exact hkey _ h (by decide)
  · exact hkey _ h (by decide)
  · change trim (Formula.rawText .mathml place.node) = ['∫'] at h
    rw [rawText_mathml] at h
    rw [← Latex.digits_trim, h]
    decide

theorem digits_of_isIntegral {place : Located} (hshows : MathML.ShowsDigits place.node)
    (h : (Formula.read .mathml .default place).isIntegral = true) : MathML.digits place.node = [] := by
  rw [List.eq_nil_iff_forall_not_mem]
  intro c hc
  have hnone := Latex.digits_eq_nil_iff.1 (digits_content_of_isIntegral h) c (hshows c hc)
  rw [MathML.isAsciiDigit_of_mem_digits hc] at hnone
  cases hnone

/-! ## Regular trees are legible -/

/-- the invisible mark of an application shows nothing but itself -/
theorem digits_of_applicationMark {node : Node} (hoperator : MathML.kind node = .operator)
    (hraw : Formula.rawText .mathml node = [applicationMark]) : MathML.digits node = [] := by
  have hleaf : (MathML.kind node).isLeaf = true := by
    rw [hoperator]
    rfl
  rw [rawText_mathml, Node.trimmed] at hraw
  rw [MathML.digits_eq, orderedDigits_of_isLeaf hleaf, ← Latex.digits_trim, hraw]
  decide

theorem mem_children_of_mem_partPlaces {place part : Located} (h : part ∈ Formula.partPlaces .mathml place) :
    part.node ∈ place.node.children := by
  have hnode := List.mem_map_of_mem (f := (·.node)) h
  rw [Formula.map_node_partPlaces] at hnode
  exact List.mem_of_mem_filter hnode

theorem legible_read {place : Located} (h : Node.Everywhere MathML.Regular place.node) :
    (Formula.read .mathml .default place).Legible where
  leaf hleaf := by
    rw [Formula.kind_read] at hleaf
    rw [Formula.facts_read]
    change Latex.digits (Formula.content .mathml .default place.node) = Latex.digits (Formula.rawText .mathml place.node)
    rw [rawText_mathml]
    exact digits_content (h.here.leaf hleaf)
  overscript hover base script hparts := by
    rw [Formula.kind_read] at hover
    rw [Formula.parts_read] at hparts
    obtain ⟨first, rest, hplaces, -, hrest⟩ := List.map_eq_cons_iff.1 hparts
    obtain ⟨second, last, rfl, rfl, hlast⟩ := List.map_eq_cons_iff.1 hrest
    rw [digits_read]
    have hcounted : MathML.counted place.node = [first.node, second.node] := by
      rw [← Formula.map_node_partPlaces, hplaces, List.map_eq_nil_iff.1 hlast]
      rfl
    exact h.here.overscript hover (by rw [hcounted]; rfl) second.node (by rw [hcounted]; rfl)
  integral hlimits base lower upper hparts hsign := by
    rw [Formula.parts_read] at hparts
    obtain ⟨place', rest, hplaces, rfl, -⟩ := List.map_eq_cons_iff.1 hparts
    have hcounted : MathML.counted place.node = place'.node :: rest.map (·.node) := by
      rw [← Formula.map_node_partPlaces, hplaces, List.map_cons]
    have hlength : (MathML.counted place.node).length = 3 := by
      rw [← Formula.map_node_partPlaces, List.length_map, ← List.length_map (f := Formula.read .mathml .default), hparts]
      rfl
    rw [Formula.kind_read] at hlimits
    rw [digits_read]
    exact digits_of_isIntegral (h.here.base hlimits hlength _ (by rw [hcounted]; rfl)) hsign
  marks := by
    have hmarks := h.here.marks
    rw [← Formula.map_node_partPlaces, List.isChain_map] at hmarks
    rw [Formula.parts_read, List.isChain_map]
    apply hmarks.imp
    intro a b hab ha hb
    rw [Formula.kind_read] at ha
    simp only [Formula.isApplication, Bool.and_eq_true, Bool.or_eq_true, decide_eq_true_eq, Formula.kind_read] at hb
    rw [digits_read]
    obtain ⟨hoperator, hrole | hraw⟩ := hb
    · rw [Formula.facts_read] at hrole
      have hnone := hab ha
      rw [MathML.marksWithDigits, decide_eq_true (show MathML.kind b.node = .operator from hoperator),
        decide_eq_true (show b.node.attr? "data-semantic-role" = some "application" from hrole)] at hnone
      simpa using hnone
    · rw [Formula.facts_read] at hraw
      exact digits_of_applicationMark hoperator hraw

theorem allLegible_read {place : Located} (h : Node.Everywhere MathML.Regular place.node) :
    (Formula.read .mathml .default place).AllLegible := by
  refine .intro (legible_read h) ?_
  intro part hpart
  rw [Formula.parts_read] at hpart
  obtain ⟨below, hbelow, rfl⟩ := List.mem_map.1 hpart
  have := Formula.partPlaces_lt hbelow
  exact allLegible_read (h.child (mem_children_of_mem_partPlaces hbelow))
termination_by place.node.size

/-- **the digits of a converted tree are those of its leaves**, in document order but for the index of a root -/
theorem digits_convertAt (place : Located) (h : Node.Everywhere MathML.Regular place.node) :
    Latex.digits (convertAt .mathml .default place).value = MathML.digits place.node := by
  rw [convertAt, convertWalk, Latex.digits_sized, ← digits_read]
  exact Formula.digits_latex (allLegible_read h)

/-- a cube root beside a letter -/
def cubeRoot : Located :=
  .top (.element "math" []
    [.element "mroot" [] [.element "mn" [] [.text .plain "8"], .element "mn" [] [.text .plain "3"]],
      .element "mi" [] [.text .plain "x"]])

theorem digits_of_cubeRoot :
    Node.Everywhere MathML.Regular cubeRoot.node ∧
      Latex.digits (convertAt .mathml .default cubeRoot).value = MathML.digits cubeRoot.node ∧
      MathML.digits cubeRoot.node = ['3', '8'] := by
  have h : Node.Everywhere MathML.Regular cubeRoot.node := by decide +kernel
  exact ⟨h, digits_convertAt cubeRoot h, by decide +kernel⟩

/-- a digit as the mark between a function and its argument -/
def markedDigit : Located :=
  .top (.element "math" []
    [.element "mi" [] [.text .plain "f"], .element "mo" [("data-semantic-role", "application")] [.text .plain "5"],
      .element "mi" [] [.text .plain "x"]])

/-- a digit beside an integral sign, in an element that keeps its text to itself -/
def enclosedDigit : Located :=
  .top (.element "munderover" []
    [.element "mrow" []
        [.element "mo" [] [.text .plain "∫"], .element "style" [] [.text (.enclosed .style) "5"]],
      .element "mi" [] [.text .plain "a"], .element "mi" [] [.text .plain "b"]])

/-- that all nodes are ordinary is not enough: the mark and the base of the integral are left out with their digits -/
theorem ordinary_loses_digits :
    (Node.Everywhere MathML.Ordinary markedDigit.node ∧
      Latex.digits (convertAt .mathml .default markedDigit).value = [] ∧ MathML.digits markedDigit.node = ['5']) ∧
    Node.Everywhere MathML.Ordinary enclosedDigit.node ∧
      Latex.digits (convertAt .mathml .default enclosedDigit).value = [] ∧ MathML.digits enclosedDigit.node = ['5'] := by
  decide +kernel

end Untypeset
