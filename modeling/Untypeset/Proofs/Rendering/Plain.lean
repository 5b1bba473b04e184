import Untypeset.Proofs.Expression
import Untypeset.Proofs.Formula.Content
import Untypeset.Proofs.Rendering.Counted

/-!
Reading back the plain MathML of an expression: the kinds, the marks, the arguments and the text of each node are those of
the expression.
-/

namespace Untypeset

open Untypeset.Markup Untypeset.Rendering Untypeset.Symbol Untypeset.Text

/-! ## Marks -/

namespace Expression

theorem kind_ne_ignored (e : Expression) : e.kind ≠ .ignored := by
  cases e with
  | leaf kind | list kind | pair kind | triple kind => cases kind <;> simp [Expression.kind, LeafKind.kind, ListKind.kind,
      PairKind.kind, TripleKind.kind]

/-! ## Nodes -/

theorem mathml_eq (e : Expression) : ∃ children, e.mathml = .element e.kind.name e.marks.attributes children := by
  cases e <;> exact ⟨_, rfl⟩

theorem kind_name (kind : Kind) (attributes : List (String × String)) (children : List Node)
    (h : kind ≠ .ignored) (htext : kind ≠ .bareText) :
    MathML.kind (.element kind.name attributes children) = kind := by
  cases kind <;> first | rfl | exact absurd rfl h | exact absurd rfl htext

theorem kind_ne_bareText (e : Expression) : e.kind ≠ .bareText := by
  cases e with
  | leaf kind | list kind | pair kind | triple kind => cases kind <;> simp [Expression.kind, LeafKind.kind, ListKind.kind,
      PairKind.kind, TripleKind.kind]

theorem kind_mathml (e : Expression) : MathML.kind e.mathml = e.kind := by
  obtain ⟨children, h⟩ := e.mathml_eq
  rw [h]
  exact kind_name _ _ _ e.kind_ne_ignored e.kind_ne_bareText

theorem attr?_mathml (e : Expression) (name : String) : e.mathml.attr? name = e.marks.attributes.lookup name := by
  obtain ⟨children, h⟩ := e.mathml_eq
  rw [h]
  rfl

theorem children_mathml {e : Expression} (h : e.isLeaf = false) : e.mathml.children = e.parts.map mathml := by
  cases e with
  | leaf => cases h
  | list kind marks items => rw [mathml, Node.children, mathmls_eq, parts]
  | pair => rfl
  | triple => rfl

theorem filter_mathmls (es : List Expression) :
    ((es.map mathml).filter fun child => MathML.kind child ≠ .ignored) = es.map mathml := by
  rw [List.filter_eq_self]
  intro node hnode
  obtain ⟨e, -, rfl⟩ := List.mem_map.1 hnode
  rw [kind_mathml]
  simpa using e.kind_ne_ignored

/-- the arguments of a node of plain MathML -/
theorem partPlaces_mathml {e : Expression} (h : e.isLeaf = false) (trail : List (Nat × Node)) :
    (Formula.partPlaces .mathml ⟨e.mathml, trail⟩).map (·.node) = e.parts.map mathml := by
  rw [Formula.partPlaces_mathml, map_node_countedChildren, children_mathml h, filter_mathmls]

/-! ## Text -/

mutual

theorem texts_mathml (e : Expression) : (e.mathml.textsFor none).flatten = e.text := by
  cases e with
  | leaf kind marks glyphs =>
    rw [mathml, text, Node.textsFor, Node.textsOfAll, Node.textsOfAll, Node.textsFor]
    exact (List.append_nil _).trans String.toList_ofList
  | list kind marks items =>
    rw [mathml, text, Node.textsFor]
    exact texts_mathmls items
  | pair kind marks first second =>
    rw [mathml, text, Node.textsFor, Node.textsOfAll, Node.textsOfAll, Node.textsOfAll, List.append_nil,
      List.flatten_append, texts_mathml first, texts_mathml second]
  | triple kind marks base lower upper =>
    rw [mathml, text, Node.textsFor, Node.textsOfAll, Node.textsOfAll, Node.textsOfAll, Node.textsOfAll, List.append_nil,
      List.flatten_append, List.flatten_append, texts_mathml base, texts_mathml lower, texts_mathml upper,
      List.append_assoc]

theorem texts_mathmls (es : List Expression) : (Node.textsOfAll none (mathmls es)).flatten = texts es := by
  cases es with
  | nil => rfl
  | cons e rest => rw [mathmls, texts, Node.textsOfAll, List.flatten_append, texts_mathml, texts_mathmls]

end

theorem enclave?_mathml (e : Expression) : e.mathml.enclave? = none := by
  obtain ⟨children, h⟩ := e.mathml_eq
  rw [h]
  have all : ∀ kind : Kind, Enclave.ofName? kind.name = none := by
    intro kind
    cases kind <;> rfl
  exact all e.kind

theorem content_mathml (e : Expression) : e.mathml.content = e.text := by
  have henclave := e.enclave?_mathml
  obtain ⟨children, h⟩ := e.mathml_eq
  rw [← texts_mathml, h]
  rw [h] at henclave
  rw [Node.content, Node.shownTexts, henclave]

theorem trimmed_mathml {e : Expression} (h : Solid e.text) : e.mathml.trimmed = e.text := by
  rw [Node.trimmed, content_mathml, trim_of_solid h]

end Expression

end Untypeset
