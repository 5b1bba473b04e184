import Untypeset.Text.Blank
import Untypeset.Text.Case
import Untypeset.Text.Digit
import Untypeset.Text.Letter

/-!
ASCII characters. What holds of the first 128 code points holds of every ASCII character (`forall_ascii`), which settles how
the classes of ASCII letters, ASCII digits and blanks lie to each other.
-/

namespace Untypeset.Text

theorem forall_ascii {P : Char → Prop} (h : ∀ n < 0x80, P (Char.ofNat n)) {c : Char} (hc : c.toNat < 0x80) : P c := by
  have hchar := h c.toNat hc
  rwa [Char.ofNat_toNat] at hchar

theorem ascii_of_digit {c : Char} (h : isAsciiDigit c = true) : c.toNat < 0x80 := by
  simp only [isAsciiDigit, Bool.and_eq_true, decide_eq_true_eq, Char.le_def, UInt32.le_iff_toNat_le] at h
  change 48 ≤ c.toNat ∧ c.toNat ≤ 57 at h
  omega

theorem ascii_of_letter {c : Char} (h : isAsciiLetter c = true) : c.toNat < 0x80 := by
  simp only [isAsciiLetter, Bool.or_eq_true, Bool.and_eq_true, decide_eq_true_eq, Char.le_def, UInt32.le_iff_toNat_le] at h
  change (97 ≤ c.toNat ∧ c.toNat ≤ 122) ∨ (65 ≤ c.toNat ∧ c.toNat ≤ 90) at h
  omega

/-- a digit is no blank, and has no other case -/
theorem digit_spec {c : Char} (h : isAsciiDigit c = true) : isBlank c = false ∧ lowerChar c = [c] := by
  have all : ∀ n < 0x80, isAsciiDigit (Char.ofNat n) = true →
      isBlank (Char.ofNat n) = false ∧ (Char.ofNat n).toLower = Char.ofNat n := by decide
  have hc := ascii_of_digit h
  obtain ⟨hsolid, hlower⟩ :=
    forall_ascii (P := fun c => isAsciiDigit c = true → isBlank c = false ∧ c.toLower = c) all hc h
  rw [lowerChar_ascii hc, hlower]
  exact ⟨hsolid, rfl⟩

theorem not_letter_of_blank {c : Char} (h : isBlank c = true) : isAsciiLetter c = false := by
  refine Bool.eq_false_iff.2 fun hletter => ?_
  have all : ∀ n < 0x80, isAsciiLetter (Char.ofNat n) = true → isBlank (Char.ofNat n) = false := by decide
  have hsolid :=
    forall_ascii (P := fun c => isAsciiLetter c = true → isBlank c = false) all (ascii_of_letter hletter) hletter
  rw [h] at hsolid
  cases hsolid

theorem not_digit_of_letter {c : Char} (h : isAsciiLetter c = true) : isAsciiDigit c = false := by
  have all : ∀ n < 0x80, isAsciiLetter (Char.ofNat n) = true → isAsciiDigit (Char.ofNat n) = false := by decide
  exact forall_ascii (P := fun c => isAsciiLetter c = true → isAsciiDigit c = false) all (ascii_of_letter h) h

end Untypeset.Text
