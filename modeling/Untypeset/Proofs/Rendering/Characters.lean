import Mathlib.Data.List.Basic
import Untypeset.Proofs.Expression

/-!
The characters of an expression in the three orders. Boxes and drawings hold the same characters as MathML, apart from the
radical signs and the order (`filter_boxed_perm`, `filter_drawn_perm`).
-/

namespace Untypeset

namespace Expression

variable {p : Char → Bool}

mutual

/-- apart from radical signs, boxes hold the characters of the text -/
theorem filter_boxed_perm (hp : p radicalSign = false) (e : Expression) : (e.boxed.filter p).Perm (e.text.filter p) := by
  cases e with
  | leaf => exact List.Perm.refl _
  | list kind marks items =>
    have ih := filter_boxeds_perm hp items
    cases kind with
    | row | style => exact ih
    | sqrt =>
      rw [boxed, text, List.filter_cons_of_neg (by simp [hp])]
      exact ih
  | pair kind marks first second =>
    have ih := (filter_boxed_perm hp first).append (filter_boxed_perm hp second)
    rw [text, List.filter_append]
    cases kind with
    | root =>
      rw [boxed, List.filter_append]
      exact List.perm_append_comm.trans ih
    | fraction | superscript | subscript | underscript | overscript =>
      rw [boxed, List.filter_append]
      exact ih
  | triple kind marks base lower upper =>
    have ih₁ := filter_boxed_perm hp base
    have ih₂ := filter_boxed_perm hp lower
    have ih₃ := filter_boxed_perm hp upper
    rw [text, List.filter_append, List.filter_append]
    cases kind with
    | subsup =>
      rw [boxed, List.filter_append, List.filter_append, List.append_assoc, List.append_assoc]
      exact ih₁.append (List.perm_append_comm.trans (ih₂.append ih₃))
    | underover =>
      rw [boxed, List.filter_append, List.filter_append]
      exact (ih₁.append ih₂).append ih₃

theorem filter_boxeds_perm (hp : p radicalSign = false) (es : List Expression) :
    ((boxeds es).filter p).Perm ((texts es).filter p) := by
  cases es with
  | nil => exact List.Perm.refl _
  | cons e rest =>
    rw [boxeds, texts, List.filter_append, List.filter_append]
    exact (filter_boxed_perm hp e).append (filter_boxeds_perm hp rest)

end

mutual

/-- apart from radical signs, a drawing holds the characters of the text -/
theorem filter_drawn_eq (hp : p radicalSign = false) (e : Expression) : e.drawn.filter p = e.text.filter p := by
  cases e with
  | leaf => rfl
  | list kind marks items =>
    have ih := filter_drawns_eq hp items
    cases kind with
    | row | style => exact ih
    | sqrt =>
      rw [drawn, text, List.filter_append, List.filter_cons_of_neg (by simp [hp]), ih]
      exact List.append_nil _
  | pair kind marks first second =>
    rw [drawn, text, List.filter_append, List.filter_append, filter_drawn_eq hp first, filter_drawn_eq hp second]
  | triple kind marks base lower upper =>
    rw [drawn, text, List.filter_append, List.filter_append, List.filter_append, List.filter_append,
      filter_drawn_eq hp base, filter_drawn_eq hp lower, filter_drawn_eq hp upper]

theorem filter_drawns_eq (hp : p radicalSign = false) (es : List Expression) :
    (drawns es).filter p = (texts es).filter p := by
  cases es with
  | nil => rfl
  | cons e rest =>
    rw [drawns, texts, List.filter_append, List.filter_append, filter_drawn_eq hp e, filter_drawns_eq hp rest]

end

end Expression

/-- rows with the same characters of some kind both have such a character, or both have none -/
theorem any_eq_of_filter_perm {p : Char → Bool} {a b : List Char} (h : (a.filter p).Perm (b.filter p)) :
    a.any p = b.any p := by
  have hmem : ∀ c, c ∈ a ∧ p c = true ↔ c ∈ b ∧ p c = true := by
    intro c
    rw [← List.mem_filter, ← List.mem_filter]
    exact h.mem_iff
  rw [Bool.eq_iff_iff, List.any_eq_true, List.any_eq_true]
  exact exists_congr hmem

end Untypeset
