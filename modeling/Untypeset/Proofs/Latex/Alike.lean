import Untypeset.Latex.Basic
import Untypeset.Proofs.Text.Squash

/-!
Sources that are the same without their blanks, once every exponent in braces that is a bare 2 is written without them. The
braces have to go because a 2 with a space behind it is no bare 2 when an exponent is laid out.
-/

namespace Untypeset.Latex

open Untypeset.Text

/-- a character put before a source; the braces around an exponent that is a 2 are dropped -/
def push : Char → Latex → Latex
  | '^', '\x7b' :: '2' :: '\x7d' :: rest => '^' :: '2' :: rest
  | c, s => c :: s

/-- the source with `^2` for an exponent 2 in braces -/
def plainSquares (s : Latex) : Latex :=
  s.foldr push []

/-- sources that differ in blanks and in braces around an exponent 2 only -/
def Alike (s t : Latex) : Prop :=
  plainSquares (squash s) = plainSquares (squash t)

variable {a a' b b' r s t : Latex} {c : Char}

/-! ## Exponents without braces -/

theorem push_cases (c : Char) (s : Latex) :
    push c s = c :: s ∨ c = '^' ∧ ∃ rest, s = '\x7b' :: '2' :: '\x7d' :: rest ∧ push c s = '^' :: '2' :: rest := by
  unfold push
  split
  · exact .inr ⟨rfl, _, rfl, rfl⟩
  · exact .inl rfl

theorem push_ne_nil (c : Char) (s : Latex) : push c s ≠ [] := by
  rcases push_cases c s with h | ⟨-, rest, -, h⟩ <;> rw [h] <;> simp

theorem plainSquares_eq_nil_iff : plainSquares s = [] ↔ s = [] := by
  cases s with
  | nil => exact iff_of_true rfl rfl
  | cons c s => exact iff_of_false (push_ne_nil c _) (by simp)

theorem plainSquares_eq_singleton_iff : plainSquares s = [c] ↔ s = [c] := by
  cases s with
  | nil => exact iff_of_false (by simp [plainSquares]) (by simp)
  | cons d s =>
    rw [plainSquares, List.foldr_cons, ← plainSquares]
    rcases push_cases d (plainSquares s) with h | ⟨rfl, rest, hrest, h⟩
    · rw [h, List.cons.injEq, List.cons.injEq, plainSquares_eq_nil_iff]
    · rw [h]
      refine iff_of_false (by simp) ?_
      intro heq
      rw [(List.cons.inj heq).2] at hrest
      cases hrest

/-- dropping braces first makes no difference to what is put behind -/
theorem foldr_push_plainSquares (s r : Latex) : (plainSquares s).foldr push r = s.foldr push r := by
  induction s with
  | nil => rfl
  | cons c s ih =>
    rw [plainSquares, List.foldr_cons, ← plainSquares, List.foldr_cons, ← ih]
    rcases push_cases c (plainSquares s) with h | ⟨rfl, rest, hrest, h⟩
    · rw [h, List.foldr_cons]
    · rw [h, hrest]
      rfl

theorem plainSquares_append (a b : Latex) :
    plainSquares (a ++ b) = (plainSquares a).foldr push (plainSquares b) := by
  rw [foldr_push_plainSquares, plainSquares, List.foldr_append]
  rfl

/-! ## Likeness -/

theorem Alike.refl (s : Latex) : Alike s s := rfl

theorem Alike.of_squash (h : squash s = squash t) : Alike s t := by
  rw [Alike, h]

theorem Alike.append (ha : Alike a a') (hb : Alike b b') : Alike (a ++ b) (a' ++ b') := by
  rw [Alike, squash_append, squash_append, plainSquares_append, plainSquares_append, ha, hb]

theorem Alike.trim (h : Alike s t) : Alike (trim s) (trim t) := by
  rwa [Alike, squash_trim, squash_trim]

theorem Alike.trimEnd (h : Alike s t) : Alike (trimEnd s) (trimEnd t) := by
  rwa [Alike, squash_trimEnd, squash_trimEnd]

theorem Alike.squash_eq_nil_iff (h : Alike s t) : squash s = [] ↔ squash t = [] := by
  rw [← plainSquares_eq_nil_iff, h, plainSquares_eq_nil_iff]

theorem Alike.squash_eq_singleton_iff (h : Alike s t) (c : Char) : squash s = [c] ↔ squash t = [c] := by
  rw [← plainSquares_eq_singleton_iff, h, plainSquares_eq_singleton_iff]

theorem Alike.braced (control : String) (h : Alike s t) : Alike (Latex.braced control s) (Latex.braced control t) :=
  ((refl control.toList).append ((refl ['\x7b']).append h)).append (refl ['\x7d'])

end Untypeset.Latex
