import Untypeset.Latex.Paren
import Untypeset.Proofs.Symbol.Spelled
import Untypeset.Proofs.Text.Ascii
import Untypeset.Proofs.Text.Squash

/-!
The ASCII digits of a source, in order. No blank is a digit, so trimming keeps them, and no control word that is put around
a source has one. In the default tables, function names and operators have no digits; a name or a key that is looked up
there has none either.
-/

namespace Untypeset.Latex

open Untypeset.Symbol Untypeset.Text

/-- the ASCII digits of a text, in order -/
def digits (s : List Char) : List Char :=
  s.filter isAsciiDigit

variable {a b s body : Latex}

@[simp] theorem digits_nil : digits [] = [] := rfl

@[simp] theorem digits_append (a b : Latex) : digits (a ++ b) = digits a ++ digits b :=
  List.filter_append ..

theorem digits_cons_of_not {c : Char} (h : isAsciiDigit c = false) (s : Latex) : digits (c :: s) = digits s :=
  List.filter_cons_of_neg (by simp [h])

theorem digits_eq_nil_iff : digits s = [] ↔ ∀ c ∈ s, isAsciiDigit c = false := by
  simp [digits, List.filter_eq_nil_iff]

theorem digits_flatMap {α : Type} (list : List α) (g : α → Latex) :
    digits (list.flatMap g) = list.flatMap fun x => digits (g x) := by
  induction list with
  | nil => rfl
  | cons x rest ih => rw [List.flatMap_cons, List.flatMap_cons, digits_append, ih]

theorem digits_squash (s : Latex) : digits (squash s) = digits s := by
  rw [digits, digits, squash, List.filter_filter]
  apply List.filter_congr
  intro c _
  by_cases hc : isAsciiDigit c = true
  · simp [hc, (digit_spec hc).1]
  · simp [hc]

@[simp] theorem digits_trim (s : Latex) : digits (trim s) = digits s := by
  rw [← digits_squash, squash_trim, digits_squash]

@[simp] theorem digits_trimEnd (s : Latex) : digits (trimEnd s) = digits s := by
  rw [← digits_squash, squash_trimEnd, digits_squash]

/-! ## Layouts -/

theorem digits_group (body : Latex) : digits ('\x7b' :: body ++ ['\x7d']) = digits body := by
  rw [digits_append, digits_cons_of_not (by decide), digits_cons_of_not (by decide), digits_nil, List.append_nil]

theorem digits_braced {control : String} (h : digits control.toList = []) (body : Latex) :
    digits (braced control body) = digits body := by
  rw [braced, List.append_assoc, digits_append, h, List.nil_append]
  exact digits_group body

theorem digits_parenthesized (body : Latex) : digits (parenthesized body) = digits body := by
  rw [parenthesized, digits_append, digits_cons_of_not (by decide), digits_cons_of_not (by decide), digits_nil,
    List.append_nil]

theorem digits_sizedAfter (before s : Latex) : digits (sizedAfter before s) = digits s := by
  induction s generalizing before with
  | nil => rfl
  | cons c s ih =>
    have hchar : digits (sizedChar before c) = digits [c] := by
      rcases sizedChar_cases before c with ⟨h, -⟩ | ⟨rfl, h⟩ | ⟨rfl, h⟩
      · rw [h]
      · rw [h, leftWord_eq]
        decide
      · rw [h, rightWord_eq]
        decide
    rw [sizedAfter, digits_append, ih, hchar, ← digits_append, List.singleton_append]

theorem digits_sized (s : Latex) : digits (sized s) = digits s :=
  digits_sizedAfter [] s

/-! ## Default tables -/

theorem mem_lowerCaseAfter {c : Char} (hc : isAsciiDigit c = true) (before : Latex) (h : c ∈ s) :
    c ∈ lowerCaseAfter before s := by
  induction s generalizing before with
  | nil => cases h
  | cons d s ih =>
    rw [lowerCaseAfter]
    rcases List.mem_cons.1 h with rfl | h
    · have hsigma : c ≠ 'Σ' := by
        rintro rfl
        exact absurd hc (by decide)
      rw [if_neg hsigma, (digit_spec hc).2]
      exact List.mem_append_left _ (List.mem_singleton_self c)
    · exact List.mem_append_right _ (ih _ h)

/-- neither a function name nor its macro has a digit -/
theorem digits_of_isFunction {name : Latex} (h : SymbolTable.default.isFunction name = true) :
    digits name = [] ∧ digits (functionMacro name) = [] := by
  have all : ∀ name ∈ spelledFunctions.1, digits name = [] ∧ digits ('\\' :: name ++ [' ']) = [] := by decide
  obtain ⟨hlower, hname⟩ := all _ (mem_of_isFunction h)
  refine ⟨?_, hname⟩
  rw [← digits_trim, digits_eq_nil_iff]
  intro c hc
  cases hdigit : isAsciiDigit c with
  | false => rfl
  | true => exact hdigit.symm.trans (digits_eq_nil_iff.1 hlower c (mem_lowerCaseAfter hdigit [] hc))

/-- neither the key of an operator nor its token has a digit -/
theorem digits_of_operator {key token : Latex} (h : SymbolTable.default.operator? key = some token) :
    digits key = [] ∧ digits token = [] := by
  have all : ∀ entry ∈ spelledOperators, digits entry.1 = [] ∧ digits entry.2 = [] := by decide
  rw [operator?_default] at h
  exact all (key, token) (mem_of_lookup h)

theorem digits_functionOr (s : Latex) : digits (SymbolTable.default.functionOr s) = digits s := by
  unfold SymbolTable.functionOr
  split
  · rename_i h
    rw [← functionMacro_trim, (digits_of_isFunction h).2, ← digits_trim, (digits_of_isFunction h).1]
  · rfl

end Untypeset.Latex
