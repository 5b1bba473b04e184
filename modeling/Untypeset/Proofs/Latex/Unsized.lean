import Mathlib.Data.List.Basic
import Untypeset.Latex.Paren
import Untypeset.Proofs.Latex.Alike

/-!
Sources in which no parenthesis is sized yet, however they are continued and whatever blanks are left out. Sizing puts a
control word before each parenthesis of such a source and looks at nothing else (`sized_of_unsized`), so it keeps likeness
(`Alike.sized`).
-/

namespace Untypeset.Latex

open Untypeset.Text

/-- what stands behind the backslash of a sized parenthesis -/
def sizings : List Latex :=
  [['l', 'e', 'f', 't', '('], ['r', 'i', 'g', 'h', 't', ')']]

/-- a source that is not the start of a sizing and does not start with one -/
def isClear (s : Latex) : Bool :=
  sizings.all fun w => !s.isPrefixOf w && !w.isPrefixOf s

/-- whether no backslash of a source can be that of a sized parenthesis -/
def clearAfter : Latex → Bool
  | [] => true
  | c :: s => (c ≠ '\\' || isClear s) && clearAfter s

/-- no parenthesis is sized, also without the blanks and whatever is put behind -/
def Unsized (s : Latex) : Prop :=
  clearAfter (squash s) = true

instance (s : Latex) : Decidable (Unsized s) :=
  inferInstanceAs (Decidable (_ = _))

variable {a b s t : Latex}

/-! ## Unsized sources -/

theorem isClear_append (h : isClear a = true) (b : Latex) : isClear (a ++ b) = true := by
  rw [isClear, List.all_eq_true] at h ⊢
  intro w hw
  have hclear := h w hw
  rw [Bool.and_eq_true, Bool.not_eq_true', Bool.not_eq_true', ← Bool.not_eq_true, ← Bool.not_eq_true,
    List.isPrefixOf_iff_prefix, List.isPrefixOf_iff_prefix] at hclear ⊢
  constructor
  · intro hprefix
    exact hclear.1 ((List.prefix_append a b).trans hprefix)
  · intro hprefix
    rcases List.prefix_or_prefix_of_prefix (List.prefix_append a b) hprefix with h | h
    · exact hclear.1 h
    · exact hclear.2 h

theorem clearAfter_append (ha : clearAfter a = true) (hb : clearAfter b = true) : clearAfter (a ++ b) = true := by
  induction a with
  | nil => exact hb
  | cons c a ih =>
    rw [clearAfter, Bool.and_eq_true, Bool.or_eq_true] at ha
    rw [List.cons_append, clearAfter, Bool.and_eq_true, Bool.or_eq_true]
    exact ⟨ha.1.imp_right fun h => isClear_append h b, ih ha.2⟩

theorem Unsized.append (ha : Unsized a) (hb : Unsized b) : Unsized (a ++ b) := by
  rw [Unsized, squash_append]
  exact clearAfter_append ha hb

theorem Unsized.trim (h : Unsized s) : Unsized (trim s) := by
  rwa [Unsized, squash_trim]

theorem Unsized.trimEnd (h : Unsized s) : Unsized (trimEnd s) := by
  rwa [Unsized, squash_trimEnd]

/-- without backslashes nothing is sized -/
theorem Unsized.of_plain (h : '\\' ∉ s) : Unsized s := by
  have hsquash : '\\' ∉ squash s := by
    intro hmem
    exact h (List.mem_filter.1 hmem).1
  rw [Unsized]
  revert hsquash
  induction squash s with
  | nil => intro _; rfl
  | cons c s ih =>
    intro hmem
    rw [List.mem_cons, not_or] at hmem
    rw [clearAfter, ih hmem.2, Bool.and_true, Bool.or_eq_true]
    exact .inl (by simpa using Ne.symm hmem.1)

/-! ## Sizing -/

/-- a character with the control word of a parenthesis before it -/
def sizeChar (c : Char) : Latex :=
  if c = '(' then leftWord ++ ['('] else if c = ')' then rightWord ++ [')'] else [c]

theorem not_follows {before rest w : Latex} {c : Char} (hw : Solid w) (hc : isBlank c = false)
    (hsizing : w ++ [c] ∈ sizings) (h : Unsized (before.reverse ++ c :: rest)) : follows before ('\\' :: w) = false := by
  rw [Bool.eq_false_iff]
  intro hfollows
  rw [follows, List.isPrefixOf_iff_prefix] at hfollows
  obtain ⟨start, hstart⟩ := hfollows
  have hbefore : before.reverse = start.reverse ++ '\\' :: w := by rw [← hstart]; simp
  have hsquash : squash (before.reverse ++ c :: rest) =
      squash start.reverse ++ '\\' :: ((w ++ [c]) ++ squash rest) := by
    rw [hbefore, squash_append, squash_append, squash_cons_solid (show isBlank '\\' = false from rfl), squash_of_solid hw,
      squash_cons_solid hc]
    simp
  have hclear : ∀ start, clearAfter (start ++ '\\' :: ((w ++ [c]) ++ squash rest)) = true → False := by
    intro start hstart
    induction start with
    | nil =>
      rw [List.nil_append, clearAfter, Bool.and_eq_true, Bool.or_eq_true] at hstart
      have hall := List.all_eq_true.1 (hstart.1.resolve_left (by simp)) _ hsizing
      rw [Bool.and_eq_true, Bool.not_eq_true', Bool.not_eq_true', ← Bool.not_eq_true, ← Bool.not_eq_true,
        List.isPrefixOf_iff_prefix, List.isPrefixOf_iff_prefix] at hall
      exact hall.2 (List.prefix_append _ _)
    | cons d start ih =>
      rw [List.cons_append, clearAfter, Bool.and_eq_true] at hstart
      exact ih hstart.2
  rw [Unsized, hsquash] at h
  exact hclear _ h

theorem sizedAfter_of_unsized (before s : Latex) (h : Unsized (before.reverse ++ s)) :
    sizedAfter before s = s.flatMap sizeChar := by
  induction s generalizing before with
  | nil => rfl
  | cons c s ih =>
    have hnext : sizedAfter (c :: before) s = s.flatMap sizeChar := ih (c :: before) (by simpa using h)
    have hchar : sizedChar before c = sizeChar c := by
      unfold sizedChar sizeChar
      by_cases hopen : c = '('
      · subst hopen
        rw [leftWord_eq, not_follows (by decide) rfl (by decide) h]
        simp
      · by_cases hclose : c = ')'
        · subst hclose
          rw [rightWord_eq, not_follows (by decide) rfl (by decide) h]
          simp
        · simp [hopen, hclose]
    rw [sizedAfter, hchar, hnext, List.flatMap_cons]

/-- **every parenthesis of an unsized source is sized** -/
theorem sized_of_unsized (h : Unsized s) : sized s = s.flatMap sizeChar :=
  sizedAfter_of_unsized [] s h

/-! ## Likeness -/

theorem squash_sizeChar (c : Char) : squash (sizeChar c) = (squash [c]).flatMap sizeChar := by
  unfold sizeChar
  by_cases hopen : c = '('
  · subst hopen
    rw [leftWord_eq]
    decide
  · by_cases hclose : c = ')'
    · subst hclose
      rw [rightWord_eq]
      decide
    · by_cases hc : isBlank c = true
      · simp [hopen, hclose, squash, hc]
      · simp only [Bool.not_eq_true] at hc
        simp [hopen, hclose, squash, hc]

theorem squash_flatMap_sizeChar (s : Latex) : squash (s.flatMap sizeChar) = (squash s).flatMap sizeChar := by
  induction s with
  | nil => rfl
  | cons c s ih =>
    have hcons : squash (c :: s) = squash [c] ++ squash s := squash_append [c] s
    rw [List.flatMap_cons, squash_append, ih, squash_sizeChar, hcons, List.flatMap_append]

theorem foldr_push_of_not_mem (h : '^' ∉ s) (r : Latex) : s.foldr push r = s ++ r := by
  induction s with
  | nil => rfl
  | cons c s ih =>
    rw [List.mem_cons, not_or] at h
    rw [List.foldr_cons, ih h.2, List.cons_append]
    rcases push_cases c (s ++ r) with hpush | ⟨rfl, -⟩
    · exact hpush
    · exact absurd rfl h.1

theorem caret_not_mem_sizeChar {c : Char} (h : c ≠ '^') : '^' ∉ sizeChar c := by
  unfold sizeChar
  split
  · rw [leftWord_eq]
    decide
  · split
    · rw [rightWord_eq]
      decide
    · simpa using Ne.symm h

/-- what is no backslash stood there before the parentheses were sized -/
theorem of_flatMap_sizeChar_eq_cons {d : Char} {r : Latex} (h : s.flatMap sizeChar = d :: r) (hd : d ≠ '\\') :
    ∃ rest, s = d :: rest ∧ r = rest.flatMap sizeChar := by
  cases s with
  | nil => cases h
  | cons c s =>
    rw [List.flatMap_cons] at h
    unfold sizeChar at h
    split at h
    · rw [leftWord_eq] at h
      exact absurd (List.cons.inj h).1.symm hd
    · split at h
      · rw [rightWord_eq] at h
        exact absurd (List.cons.inj h).1.symm hd
      · obtain ⟨rfl, rfl⟩ := List.cons.inj h
        exact ⟨s, rfl, rfl⟩

theorem push_flatMap_sizeChar (s : Latex) : push '^' (s.flatMap sizeChar) = (push '^' s).flatMap sizeChar := by
  have hbraced (rest : Latex) :
      ('\x7b' :: '2' :: '\x7d' :: rest).flatMap sizeChar = '\x7b' :: '2' :: '\x7d' :: rest.flatMap sizeChar := rfl
  rcases push_cases '^' s with h | ⟨-, rest, rfl, h⟩
  · rcases push_cases '^' (s.flatMap sizeChar) with hsized | ⟨-, rest, hrest, -⟩
    · rw [h, hsized]
      rfl
    · -- the braces were there before
      obtain ⟨s₁, rfl, h₁⟩ := of_flatMap_sizeChar_eq_cons hrest (by decide)
      obtain ⟨s₂, rfl, h₂⟩ := of_flatMap_sizeChar_eq_cons h₁.symm (by decide)
      obtain ⟨s₃, rfl, -⟩ := of_flatMap_sizeChar_eq_cons h₂.symm (by decide)
      rfl
  · rw [h, hbraced]
    rfl

/-- dropping the braces of an exponent 2 and sizing parentheses do not interfere -/
theorem plainSquares_flatMap_sizeChar (s : Latex) :
    plainSquares (s.flatMap sizeChar) = (plainSquares s).flatMap sizeChar := by
  induction s with
  | nil => rfl
  | cons c s ih =>
    have hcons : plainSquares (c :: s) = push c (plainSquares s) := rfl
    rw [List.flatMap_cons, plainSquares_append, ih, foldr_push_plainSquares, hcons]
    by_cases hc : c = '^'
    · subst hc
      exact push_flatMap_sizeChar _
    · rw [foldr_push_of_not_mem (caret_not_mem_sizeChar hc)]
      rcases push_cases c (plainSquares s) with h | ⟨rfl, -⟩
      · rw [h, List.flatMap_cons]
      · exact absurd rfl hc

theorem Alike.sized (h : Alike s t) (hs : Unsized s) (ht : Unsized t) : Alike (sized s) (sized t) := by
  rw [sized_of_unsized hs, sized_of_unsized ht, Alike, squash_flatMap_sizeChar, squash_flatMap_sizeChar,
    plainSquares_flatMap_sizeChar, plainSquares_flatMap_sizeChar, h]

end Untypeset.Latex
