import Untypeset.Latex.Paren
import Untypeset.Proofs.Text.Squash

/-!
Sources that differ in spaces behind characters beyond ASCII. Such a space is neither at the start of a source nor inside a
control word, so trimming and sizing cannot make more of the difference (`Spaced.trim`, `Spaced.sized`), and without their
blanks the two sources are one (`Spaced.squash`).
-/

namespace Untypeset.Latex

open Untypeset.Text

/-- the second source is the first, with a space behind some of the solid characters beyond ASCII -/
inductive Spaced : Latex → Latex → Prop
  | nil : Spaced [] []
  | same (c : Char) {s t : Latex} : Spaced s t → Spaced (c :: s) (c :: t)
  | padded {c : Char} {s t : Latex} : 0x7F < c.toNat → isBlank c = false → Spaced s t → Spaced (c :: s) (c :: ' ' :: t)

namespace Spaced

variable {a b s t : Latex}

theorem refl (s : Latex) : Spaced s s := by
  induction s with
  | nil => exact .nil
  | cons c s ih => exact .same c ih

theorem append {a' b' : Latex} (ha : Spaced a a') (hb : Spaced b b') : Spaced (a ++ b) (a' ++ b') := by
  induction ha with
  | nil => exact hb
  | same c _ ih => exact .same c ih
  | padded hascii hc _ ih => exact .padded hascii hc ih

/-- without blanks there is no difference -/
theorem squash (h : Spaced s t) : squash s = squash t := by
  induction h with
  | nil => rfl
  | same c _ ih => rw [squash_cons, squash_cons, ih]
  | padded hascii hc _ ih => rw [squash_cons_solid hc, squash_cons_solid hc, squash_cons_blank rfl, ih]

theorem trimEnd (h : Spaced s t) : Spaced (trimEnd s) (trimEnd t) := by
  induction h with
  | nil => exact .nil
  | @same c s t h ih =>
    have hempty : Text.trimEnd s = [] ↔ Text.trimEnd t = [] := by
      rw [trimEnd_eq_nil_iff, trimEnd_eq_nil_iff, h.squash]
    simp only [trimEnd_cons, hempty]
    split
    · exact .nil
    · exact .same c ih
  | @padded c s t hascii hc h ih =>
    have hempty : Text.trimEnd s = [] ↔ Text.trimEnd t = [] := by
      rw [trimEnd_eq_nil_iff, trimEnd_eq_nil_iff, h.squash]
    rw [trimEnd_cons, if_neg (by simp [hc]), trimEnd_cons, if_neg (by simp [hc]), trimEnd_cons]
    split
    · rename_i hblank
      rw [hempty.2 hblank.1]
      exact refl _
    · exact .padded hascii hc ih

theorem trimStart (h : Spaced s t) : Spaced (trimStart s) (trimStart t) := by
  induction h with
  | nil => exact .nil
  | @same c s t h ih =>
    by_cases hc : isBlank c = true
    · rw [Text.trimStart, Text.trimStart, List.dropWhile_cons_of_pos hc, List.dropWhile_cons_of_pos hc]
      exact ih
    · rw [Text.trimStart, Text.trimStart, List.dropWhile_cons_of_neg hc, List.dropWhile_cons_of_neg hc]
      exact .same c h
  | padded hascii hc h _ =>
    rw [Text.trimStart, Text.trimStart, List.dropWhile_cons_of_neg (by simp [hc]),
      List.dropWhile_cons_of_neg (by simp [hc])]
    exact .padded hascii hc h

theorem trim (h : Spaced s t) : Spaced (trim s) (trim t) :=
  h.trimStart.trimEnd

/-! ## Words before a place -/

/-- a word of solid ASCII characters is spaced in one way only -/
theorem eq_of_ascii (h : Spaced s t) (hs : ∀ c ∈ s, c.toNat ≤ 0x7F) : s = t := by
  induction h with
  | nil => rfl
  | same c _ ih => rw [ih fun d hd => hs d (List.mem_cons_of_mem c hd)]
  | padded hascii _ _ _ => exact absurd (hs _ List.mem_cons_self) (Nat.not_le.2 hascii)

theorem eq_of_ascii_right (h : Spaced s t) (ht : ∀ c ∈ t, c.toNat ≤ 0x7F) : s = t := by
  induction h with
  | nil => rfl
  | same c _ ih => rw [ih fun d hd => ht d (List.mem_cons_of_mem c hd)]
  | padded hascii _ _ _ => exact absurd (ht _ List.mem_cons_self) (Nat.not_le.2 hascii)

/-- two spaced sources end in the same words of solid ASCII characters -/
theorem suffix_iff {word : Latex} (hword : ∀ c ∈ word, c.toNat ≤ 0x7F ∧ isBlank c = false) (h : Spaced s t) :
    word <:+ s ↔ word <:+ t := by
  induction h with
  | nil => exact Iff.rfl
  | @same c s t h ih =>
    rw [List.suffix_cons_iff, List.suffix_cons_iff, ih]
    have hwhole : word = c :: s ↔ word = c :: t := by
      constructor
      · rintro rfl
        rw [h.eq_of_ascii fun d hd => (hword d (List.mem_cons_of_mem c hd)).1]
      · rintro rfl
        rw [h.eq_of_ascii_right fun d hd => (hword d (List.mem_cons_of_mem c hd)).1]
    rw [hwhole]
  | @padded c s t hascii _ h ih =>
    have hfirst : ∀ rest, word ≠ c :: rest := by
      rintro rest rfl
      exact absurd (hword c List.mem_cons_self).1 (Nat.not_le.2 hascii)
    have hspace : word ≠ ' ' :: t := by
      rintro rfl
      cases (hword ' ' List.mem_cons_self).2
    rw [List.suffix_cons_iff, List.suffix_cons_iff, List.suffix_cons_iff, ih]
    simp [hfirst, hspace]

theorem follows_eq {word : Latex} (hword : ∀ c ∈ word, c.toNat ≤ 0x7F ∧ isBlank c = false) (h : Spaced s t) :
    follows s.reverse word = follows t.reverse word := by
  rw [Bool.eq_iff_iff, follows, follows, List.isPrefixOf_iff_prefix, List.isPrefixOf_iff_prefix, List.reverse_prefix,
    List.reverse_prefix]
  exact h.suffix_iff hword

theorem ascii_leftWord : ∀ c ∈ leftWord, c.toNat ≤ 0x7F ∧ isBlank c = false := by
  rw [leftWord_eq]
  exact List.all_iff_forall_prop.1 (by decide)

theorem ascii_rightWord : ∀ c ∈ rightWord, c.toNat ≤ 0x7F ∧ isBlank c = false := by
  rw [rightWord_eq]
  exact List.all_iff_forall_prop.1 (by decide)

/-- what is put before a parenthesis does not depend on the spaces before it -/
theorem sizedAfter {before other : Latex} (hbefore : Spaced before other) (h : Spaced s t) :
    Spaced (sizedAfter before.reverse s) (sizedAfter other.reverse t) := by
  have snoc : ∀ (c : Char) (s : Latex), c :: s.reverse = (s ++ [c]).reverse := by simp
  induction h generalizing before other with
  | nil => exact .nil
  | @same c s t h ih =>
    have hchar : sizedChar before.reverse c = sizedChar other.reverse c := by
      rw [sizedChar, sizedChar, hbefore.follows_eq ascii_leftWord, hbefore.follows_eq ascii_rightWord]
    have hnext : Spaced (before ++ [c]) (other ++ [c]) := hbefore.append (refl [c])
    rw [Latex.sizedAfter, Latex.sizedAfter, hchar, snoc, snoc]
    exact (refl _).append (ih hnext)
  | @padded c s t hascii hc h ih =>
    have hplain : ∀ before, sizedChar before c = [c] := by
      intro before
      have hparen : c ≠ '(' ∧ c ≠ ')' := by
        constructor
        · rintro rfl
          exact absurd hascii (by decide)
        · rintro rfl
          exact absurd hascii (by decide)
      simp [sizedChar, hparen]
    have hspace : ∀ before, sizedChar before ' ' = [' '] := by
      intro before
      simp [sizedChar]
    have hnext : Spaced (before ++ [c]) (other ++ [c] ++ [' ']) := by
      rw [List.append_assoc]
      exact hbefore.append (.padded hascii hc .nil)
    rw [Latex.sizedAfter, Latex.sizedAfter, Latex.sizedAfter, hplain, hplain, hspace, snoc, snoc, snoc]
    exact .padded hascii hc (ih hnext)

/-- **sizing the parentheses keeps the difference to spaces** -/
theorem sized (h : Spaced s t) : Spaced (sized s) (sized t) :=
  nil.sizedAfter h

end Spaced

end Untypeset.Latex
