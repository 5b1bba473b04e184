import Mathlib.Data.List.Basic
import Untypeset.Latex.Cleanup
import Untypeset.Proofs.Text.Squash

/-!
What clean-up takes away. A plain space is blank as a non-breaking one is, so making spaces plain neither moves the end of a
source nor touches its periods, and the two passes commute (`dropPeriod_plainSpaces`). A period is dropped exactly where it ends a
sentence (`EndsSentence`): the source then loses this one period and the blanks around it, and nothing at all otherwise
(`cleaned_drops_one_period`).
-/

namespace Untypeset.Latex

open Untypeset.Text

variable {s before : Latex}

/-! ## Sentences -/

/-- apart from blanks behind it, the source ends in a period, and no other period stands directly before -/
def EndsSentence (s : Latex) : Prop :=
  ∃ before, trimEnd s = before ++ ['.'] ∧ before.getLast? ≠ some '.'

theorem endsSentence_iff (h : trimEnd s = before ++ ['.']) : EndsSentence s ↔ before.getLast? ≠ some '.' := by
  constructor
  · rintro ⟨other, hother, hlast⟩
    rw [h] at hother
    rwa [List.append_cancel_right hother]
  · exact fun hlast => ⟨before, h, hlast⟩

/-- the period that ends a sentence goes, with the blanks around it -/
theorem dropPeriod_of_endsSentence (h : trimEnd s = before ++ ['.']) (hlast : before.getLast? ≠ some '.') :
    dropPeriod s = trimEnd before := by
  have hreverse : (trimEnd s).reverse = '.' :: before.reverse := by
    rw [h, List.reverse_concat]
  unfold dropPeriod
  rw [hreverse]
  split
  · rename_i rest hrest
    rw [List.getLast?_eq_head?_reverse, (List.cons.inj hrest).2] at hlast
    exact absurd rfl hlast
  · rename_i rest _ hrest
    rw [← (List.cons.inj hrest).2, List.reverse_reverse]
  · rename_i _ hnone
    exact absurd rfl (hnone _)

/-- any other source stays as it is, with the blanks at its end -/
theorem dropPeriod_of_not_endsSentence (h : ¬ EndsSentence s) : dropPeriod s = s := by
  unfold dropPeriod
  split
  · rfl
  · rename_i rest hnone hreverse
    exfalso
    refine h ⟨rest.reverse, ?_, ?_⟩
    · rw [← List.reverse_reverse (trimEnd s), hreverse, List.reverse_cons]
    · rw [List.getLast?_reverse]
      cases rest with
      | nil => exact nofun
      | cons c rest =>
        intro hc
        rw [List.head?_cons, Option.some.injEq] at hc
        exact hnone rest (by rw [hc])
  · rfl

/-- what is dropped: nothing, or one period that ends a sentence -/
theorem squash_dropPeriod (s : Latex) :
    (¬ EndsSentence s ∧ dropPeriod s = s) ∨ (EndsSentence s ∧ squash s = squash (dropPeriod s) ++ ['.']) := by
  by_cases h : EndsSentence s
  · obtain ⟨before, hend, hlast⟩ := h
    refine .inr ⟨⟨before, hend, hlast⟩, ?_⟩
    rw [dropPeriod_of_endsSentence hend hlast, squash_trimEnd, ← squash_trimEnd s, hend, squash_append]
    rfl
  · exact .inl ⟨h, dropPeriod_of_not_endsSentence h⟩

/-! ## Plain spaces -/

/-- the plain form of a character -/
def plainChar (c : Char) : Char :=
  if c = nonBreakingSpace then ' ' else c

theorem plainSpaces_eq (s : Latex) : plainSpaces s = s.map plainChar := rfl

theorem isBlank_plainChar (c : Char) : isBlank (plainChar c) = isBlank c := by
  unfold plainChar
  split
  · rename_i h
    rw [h]
    rfl
  · rfl

theorem plainChar_eq_period_iff {c : Char} : plainChar c = '.' ↔ c = '.' := by
  unfold plainChar
  split
  · rename_i h
    rw [h]
    decide
  · rfl

theorem trimEnd_plainSpaces (s : Latex) : trimEnd (plainSpaces s) = plainSpaces (trimEnd s) := by
  rw [plainSpaces_eq, plainSpaces_eq]
  induction s with
  | nil => rfl
  | cons c s ih =>
    rw [List.map_cons, trimEnd_cons, trimEnd_cons, ih, isBlank_plainChar]
    simp only [List.map_eq_nil_iff]
    split <;> rfl

/-- apart from blanks, plain spaces change nothing -/
theorem squash_plainSpaces (s : Latex) : squash (plainSpaces s) = squash s := by
  induction s with
  | nil => rfl
  | cons c s ih =>
    rw [plainSpaces_eq, List.map_cons, squash_cons, isBlank_plainChar, ← plainSpaces_eq, ih, squash_cons]
    split
    · rfl
    · rename_i hsolid
      have hc : c ≠ nonBreakingSpace := by
        rintro rfl
        exact hsolid rfl
      rw [plainChar, if_neg hc]

theorem getLast?_plainSpaces_eq_period_iff : (plainSpaces s).getLast? = some '.' ↔ s.getLast? = some '.' := by
  rw [plainSpaces_eq, List.getLast?_map]
  cases s.getLast? with
  | none => simp
  | some c => simp [plainChar_eq_period_iff]

theorem plainSpaces_concat_period (s : Latex) : plainSpaces (s ++ ['.']) = plainSpaces s ++ ['.'] := by
  rw [plainSpaces_eq, plainSpaces_eq, List.map_append]
  rfl

theorem endsSentence_plainSpaces : EndsSentence (plainSpaces s) ↔ EndsSentence s := by
  constructor
  · rintro ⟨plain, hend, hlast⟩
    rw [trimEnd_plainSpaces, plainSpaces_eq] at hend
    obtain ⟨before, period, htrim, hbefore, hperiod⟩ := List.map_eq_append_iff.1 hend
    obtain ⟨c, hc, hplain⟩ := List.map_eq_singleton_iff.1 hperiod
    rw [hc, plainChar_eq_period_iff.1 hplain] at htrim
    refine ⟨before, htrim, fun hbefore' => hlast ?_⟩
    rw [← hbefore]
    exact getLast?_plainSpaces_eq_period_iff.2 hbefore'
  · rintro ⟨before, hend, hlast⟩
    refine ⟨plainSpaces before, ?_, fun hbefore => hlast (getLast?_plainSpaces_eq_period_iff.1 hbefore)⟩
    rw [trimEnd_plainSpaces, hend, plainSpaces_concat_period]

/-- **the two passes commute** -/
theorem dropPeriod_plainSpaces (s : Latex) : dropPeriod (plainSpaces s) = plainSpaces (dropPeriod s) := by
  by_cases h : EndsSentence s
  · obtain ⟨before, hend, hlast⟩ := h
    have hplain : trimEnd (plainSpaces s) = plainSpaces before ++ ['.'] := by
      rw [trimEnd_plainSpaces, hend, plainSpaces_concat_period]
    rw [dropPeriod_of_endsSentence hend hlast,
      dropPeriod_of_endsSentence hplain fun hbefore => hlast (getLast?_plainSpaces_eq_period_iff.1 hbefore),
      trimEnd_plainSpaces]
  · rw [dropPeriod_of_not_endsSentence h, dropPeriod_of_not_endsSentence (fun hplain => h (endsSentence_plainSpaces.1 hplain))]

/-! ## Clean-up -/

/-- what a sentence loses, as the end of the source -/
theorem exists_dropped (h : EndsSentence s) : ∃ blanks behind, s = dropPeriod s ++ (blanks ++ '.' :: behind) ∧
    allBlank blanks = true ∧ allBlank behind = true := by
  obtain ⟨before, hend, hlast⟩ := h
  obtain ⟨behind, hbehind, hblank⟩ := exists_eq_trimEnd_append s
  obtain ⟨blanks, hblanks, hblank'⟩ := exists_eq_trimEnd_append before
  refine ⟨blanks, behind, ?_, List.all_eq_true.2 (squash_eq_nil_iff.1 hblank'), List.all_eq_true.2 (squash_eq_nil_iff.1 hblank)⟩
  calc s = trimEnd s ++ behind := hbehind
    _ = before ++ '.' :: behind := by rw [hend, List.append_assoc, List.singleton_append]
    _ = trimEnd before ++ blanks ++ '.' :: behind := by rw [← hblanks]
    _ = dropPeriod s ++ (blanks ++ '.' :: behind) := by rw [dropPeriod_of_endsSentence hend hlast, List.append_assoc]

/-- **clean-up removes one final period at most**: the two passes may come in either order; and with the spaces made plain or not, as
is switched on, clean-up cuts off an end that is empty or holds one period and otherwise blanks, that is not empty exactly if
periods are to be dropped and the source ends a sentence, and behind which no blank is left -/
theorem cleaned_drops_one_period (spaces period : Bool) (s : Latex) :
    plainSpaces (dropPeriod s) = dropPeriod (plainSpaces s) ∧
      ∃ dropped, (if spaces then plainSpaces s else s) = cleaned spaces period s ++ dropped ∧
        (dropped = [] ∨ ∃ blanks behind, dropped = blanks ++ '.' :: behind ∧ allBlank blanks = true ∧ allBlank behind = true) ∧
        (dropped ≠ [] ↔ period = true ∧ EndsSentence s) ∧
        (dropped ≠ [] → trimEnd (cleaned spaces period s) = cleaned spaces period s) := by
  refine ⟨(dropPeriod_plainSpaces s).symm, ?_⟩
  have hspaced : EndsSentence (if spaces then plainSpaces s else s) ↔ EndsSentence s := by
    split
    · exact endsSentence_plainSpaces
    · exact Iff.rfl
  unfold cleaned
  dsimp only
  generalize (if spaces then plainSpaces s else s) = spaced at hspaced ⊢
  by_cases hdrops : period = true ∧ EndsSentence s
  · obtain ⟨hperiod, hends⟩ := hdrops
    obtain ⟨blanks, behind, hdropped, hblanks, hbehind⟩ := exists_dropped (hspaced.2 hends)
    rw [if_pos hperiod]
    refine ⟨blanks ++ '.' :: behind, hdropped, .inr ⟨blanks, behind, rfl, hblanks, hbehind⟩, ?_, fun _ => ?_⟩
    · simp [hperiod, hends]
    · obtain ⟨before, hend, hlast⟩ := hspaced.2 hends
      rw [dropPeriod_of_endsSentence hend hlast, trimEnd_trimEnd]
  · have hkept : (if period then dropPeriod spaced else spaced) = spaced := by
      split
      · rename_i hperiod
        exact dropPeriod_of_not_endsSentence fun hends => hdrops ⟨hperiod, hspaced.1 hends⟩
      · rfl
    refine ⟨[], by rw [hkept, List.append_nil], .inl rfl, ?_, fun hne => absurd rfl hne⟩
    exact iff_of_false (fun hne => hne rfl) hdrops

end Untypeset.Latex
