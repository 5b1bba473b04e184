import Mathlib.Data.List.Induction
import Mathlib.Data.List.TakeWhile
import Untypeset.Proofs.Text.Ascii
import Untypeset.Text.Hex

/-!
Hexadecimal numerals are read back to the number that was written (`hexNumber_hexDigits`), and a number is written with the
significant digits of any numeral that denotes it, in upper case (`hexDigits_hexNumber`).
-/

namespace Untypeset.Text

theorem hexDigit_spec : ∀ value < 16, isHexDigit (hexDigit value) = true ∧ hexValue (hexDigit value) = value := by
  decide

/-- what holds of the sixteen digits holds of every digit of a numeral -/
theorem forall_mem_hexDigits {Q : Char → Prop} (h : ∀ value < 16, Q (hexDigit value)) (n : Nat) :
    ∀ c ∈ hexDigits n, Q c := by
  intro c hc
  fun_induction hexDigits n with
  | case1 n hn =>
    rw [List.mem_singleton.1 hc]
    exact h n hn
  | case2 n hn ih =>
    rcases List.mem_append.1 hc with hc | hc
    · exact ih hc
    · rw [List.mem_singleton.1 hc]
      exact h _ (Nat.mod_lt n (by decide))

theorem isHexDigit_of_mem {n : Nat} {c : Char} (h : c ∈ hexDigits n) : isHexDigit c = true :=
  forall_mem_hexDigits (Q := fun c => isHexDigit c = true) (fun value hvalue => (hexDigit_spec value hvalue).1) n c h

theorem hexDigits_ne_nil (n : Nat) : hexDigits n ≠ [] := by
  unfold hexDigits
  split <;> simp

theorem hexNumber_hexDigits (n : Nat) : hexNumber (hexDigits n) = n := by
  fun_induction hexDigits n with
  | case1 n hn => simp [hexNumber, (hexDigit_spec n hn).2]
  | case2 n hn ih =>
    have hlast := (hexDigit_spec _ (Nat.mod_lt n (by decide : 0 < 16))).2
    rw [hexNumber, List.foldl_append, ← hexNumber, ih]
    simp only [List.foldl_cons, List.foldl_nil, hlast]
    omega

/-! ## Leading zeros and the case of the digits -/

theorem ascii_of_isHexDigit {c : Char} (h : isHexDigit c = true) : c.toNat < 0x80 := by
  simp only [isHexDigit, isAsciiDigit, Bool.or_eq_true, Bool.and_eq_true, decide_eq_true_eq, Char.le_def,
    UInt32.le_iff_toNat_le] at h
  change ((48 ≤ c.toNat ∧ c.toNat ≤ 57) ∨ 97 ≤ c.toNat ∧ c.toNat ≤ 102) ∨ 65 ≤ c.toNat ∧ c.toNat ≤ 70 at h
  omega

/-- a digit is written back in upper case, and only a zero has the value 0 -/
theorem hexValue_spec {c : Char} (h : isHexDigit c = true) :
    hexValue c < 16 ∧ hexDigit (hexValue c) = c.toUpper ∧ (hexValue c = 0 ↔ c.toUpper = '0') := by
  have all : ∀ n < 0x80, isHexDigit (Char.ofNat n) = true →
      hexValue (Char.ofNat n) < 16 ∧ hexDigit (hexValue (Char.ofNat n)) = (Char.ofNat n).toUpper ∧
        (hexValue (Char.ofNat n) = 0 ↔ (Char.ofNat n).toUpper = '0') := by
    decide
  exact forall_ascii (P := fun c => isHexDigit c = true →
    hexValue c < 16 ∧ hexDigit (hexValue c) = c.toUpper ∧ (hexValue c = 0 ↔ c.toUpper = '0')) all (ascii_of_isHexDigit h) h

theorem hexNumber_append_singleton (digits : List Char) (c : Char) :
    hexNumber (digits ++ [c]) = 16 * hexNumber digits + hexValue c := by
  rw [hexNumber, List.foldl_append]
  rfl

theorem hexNumber_padZeros (width : Nat) (digits : List Char) : hexNumber (padZeros width digits) = hexNumber digits := by
  have hzeros : ∀ k, hexNumber (List.replicate k '0') = 0 := by
    intro k
    induction k with
    | zero => rfl
    | succ k ih => rw [List.replicate_succ', hexNumber_append_singleton, ih]; rfl
  rw [padZeros, hexNumber, List.foldl_append, ← hexNumber, hzeros, ← hexNumber]

/-- a numeral with other digits than zeros denotes no zero -/
theorem hexNumber_eq_zero_iff {digits : List Char} (h : ∀ c ∈ digits, isHexDigit c = true) :
    hexNumber digits = 0 ↔ (digits.map Char.toUpper).all (· == '0') = true := by
  induction digits using List.reverseRecOn with
  | nil => exact iff_of_true rfl rfl
  | append_singleton digits c ih =>
    have hc := hexValue_spec (h c (by simp))
    rw [hexNumber_append_singleton, List.map_append, List.all_append, Bool.and_eq_true,
      ← ih fun d hd => h d (List.mem_append_left _ hd)]
    simp only [List.map_cons, List.map_nil, List.all_cons, List.all_nil, Bool.and_true, beq_iff_eq, ← hc.2.2]
    omega

/-- **a number is written with the significant digits of any numeral that denotes it**, in upper case -/
theorem hexDigits_hexNumber {digits : List Char} (h : ∀ c ∈ digits, isHexDigit c = true) :
    hexDigits (hexNumber digits) = significant (digits.map Char.toUpper) := by
  induction digits using List.reverseRecOn with
  | nil =>
    rw [show hexNumber [] = 0 from rfl, hexDigits]
    rfl
  | append_singleton digits c ih =>
    have hdigits : ∀ d ∈ digits, isHexDigit d = true := fun d hd => h d (List.mem_append_left _ hd)
    obtain ⟨hlt, hwritten, hzero⟩ := hexValue_spec (h c (by simp))
    have ih := ih hdigits
    rw [hexNumber_append_singleton, List.map_append, List.map_singleton, significant, List.all_append]
    by_cases hall : hexNumber digits = 0
    · have hzeros := (hexNumber_eq_zero_iff hdigits).1 hall
      have hdropped : (digits.map Char.toUpper).dropWhile (· == '0') = [] :=
        List.dropWhile_eq_nil_iff.2 (List.all_eq_true.1 hzeros)
      rw [hall, Nat.mul_zero, Nat.zero_add, hexDigits, if_pos hlt, hwritten, hzeros, Bool.true_and]
      by_cases hc : c.toUpper = '0'
      · simp [hc]
      · rw [List.dropWhile_append, hdropped]
        simp [hc]
    · have hsome : (digits.map Char.toUpper).all (· == '0') = false := by
        rw [← Bool.not_eq_true, ← hexNumber_eq_zero_iff hdigits]
        exact hall
      have hkept : (digits.map Char.toUpper).dropWhile (· == '0') ≠ [] := by
        rw [Ne, List.dropWhile_eq_nil_iff, ← List.all_eq_true, hsome]
        exact Bool.false_ne_true
      rw [significant, hsome, if_neg Bool.false_ne_true] at ih
      rw [hexDigits, if_neg (by omega), show (16 * hexNumber digits + hexValue c) / 16 = hexNumber digits by omega,
        show (16 * hexNumber digits + hexValue c) % 16 = hexValue c by omega, ih, hwritten, hsome, Bool.false_and,
        if_neg Bool.false_ne_true, List.dropWhile_append, if_neg (by simpa using hkept)]

end Untypeset.Text
