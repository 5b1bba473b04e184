import Untypeset.Proofs.Latex.ControlWords

/-!
Sized delimiters of a source: an opening character directly behind `\left`, a closing one directly behind `\right`. Sizing
makes every round parenthesis such a delimiter (`delimiters_sized`), whatever stood before it.
-/

namespace Untypeset.Latex

open Untypeset.Text

/-- the sized delimiters of a source that stands after the characters `before`, nearest first: an opening parenthesis for
each `opening` directly behind `\left`, a closing one for each `closing` directly behind `\right` -/
def delimitersAfter (opening closing : Char) (before : Latex) : Latex → List Char
  | [] => []
  | c :: s =>
    (if c = opening ∧ follows before leftWord = true then ['(']
      else if c = closing ∧ follows before rightWord = true then [')'] else []) ++
      delimitersAfter opening closing (c :: before) s

/-- the sized delimiters of a source, in order -/
def delimiters (opening closing : Char) (s : Latex) : List Char :=
  delimitersAfter opening closing [] s

/-- a round parenthesis -/
def isParen (c : Char) : Bool :=
  c = '(' || c = ')'

/-- the round parentheses of a source, in order -/
def parens (s : Latex) : List Char :=
  s.filter isParen

variable {a b s : Latex}

/-! ## Round parentheses -/

theorem eq_of_isParen {c : Char} (h : isParen c = true) : c = '(' ∨ c = ')' := by
  simpa [isParen] using h

@[simp] theorem parens_append (a b : Latex) : parens (a ++ b) = parens a ++ parens b :=
  List.filter_append ..

theorem parens_eq_nil_iff : parens s = [] ↔ ∀ c ∈ s, isParen c = false := by
  simp [parens, List.filter_eq_nil_iff]

theorem parens_squash (s : Latex) : parens (squash s) = parens s := by
  rw [parens, parens, squash, List.filter_filter]
  apply List.filter_congr
  intro c _
  by_cases hc : isParen c = true
  · rcases eq_of_isParen hc with rfl | rfl <;> rfl
  · simp [hc]

@[simp] theorem parens_trim (s : Latex) : parens (trim s) = parens s := by
  rw [← parens_squash, squash_trim, parens_squash]

@[simp] theorem parens_trimEnd (s : Latex) : parens (trimEnd s) = parens s := by
  rw [← parens_squash, squash_trimEnd, parens_squash]

theorem parens_braced {control : String} (h : parens control.toList = []) (s : Latex) :
    parens (braced control s) = parens s := by
  have hclosing : parens ['\x7d'] = [] := rfl
  rw [braced, parens_append, parens_append, h, List.nil_append, hclosing, List.append_nil]
  rfl

theorem parens_parenthesized (s : Latex) : parens (parenthesized s) = '(' :: parens s ++ [')'] := by
  rw [parenthesized, parens_append]
  rfl

/-! ## What a place can see of the source before it -/

/-- the characters before a place, nearest first, back to the last parenthesis: a control word that sizes the next one
lies within them -/
def reach (before : Latex) : Latex :=
  before.takeWhile fun c => !isParen c

theorem isPrefixOf_takeWhile {p : Char → Bool} {w : Latex} (hw : w.all p = true) (before : Latex) :
    w.isPrefixOf (before.takeWhile p) = w.isPrefixOf before := by
  induction w generalizing before with
  | nil => rfl
  | cons c w ih =>
    rw [List.all_cons, Bool.and_eq_true] at hw
    cases before with
    | nil => rfl
    | cons d before =>
      by_cases hd : p d = true
      · rw [List.takeWhile_cons_of_pos hd, List.isPrefixOf, List.isPrefixOf, ih hw.2]
      · have hne : (c == d) = false := by
          rw [beq_eq_false_iff_ne]
          rintro rfl
          exact hd hw.1
        have hstop : (c :: w).isPrefixOf (d :: before) = false := by rw [List.isPrefixOf, hne, Bool.false_and]
        rw [List.takeWhile_cons_of_neg hd, hstop]
        rfl

/-- before a place, only the characters that a word consists of matter -/
theorem follows_takeWhile {p : Char → Bool} {word : Latex} (hword : word.all p = true) (before : Latex) :
    follows (before.takeWhile p) word = follows before word := by
  apply isPrefixOf_takeWhile
  rw [List.all_eq_true] at hword ⊢
  intro c hc
  exact hword c (List.mem_reverse.1 hc)

theorem follows_reach {word : Latex} (hword : word.all (fun c => !isParen c) = true) (before : Latex) :
    follows (reach before) word = follows before word :=
  follows_takeWhile hword before

theorem follows_congr {before other word : Latex} (hword : word.all (fun c => !isParen c) = true)
    (h : reach before = reach other) : follows before word = follows other word := by
  rw [← follows_reach hword, h, follows_reach hword]

theorem reach_cons {before other : Latex} (c : Char) (h : reach before = reach other) :
    reach (c :: before) = reach (c :: other) := by
  unfold reach at *
  rw [List.takeWhile_cons, List.takeWhile_cons, h]

theorem reach_leftWord : leftWord.all (fun c => !isParen c) = true := by
  rw [leftWord_eq]
  decide

theorem reach_rightWord : rightWord.all (fun c => !isParen c) = true := by
  rw [rightWord_eq]
  decide

/-! ## Sized parentheses -/

theorem delimitersAfter_sizedAfter {before other : Latex} (h : reach before = reach other) (s : Latex) :
    delimitersAfter '(' ')' other (sizedAfter before s) = parens s := by
  induction s generalizing before other with
  | nil => rfl
  | cons c s ih =>
    have hrest := ih (reach_cons c h)
    have hparens : parens (c :: s) = parens [c] ++ parens s := parens_append [c] s
    rw [sizedAfter, hparens]
    rcases sizedChar_cases before c with ⟨hchar, hopening, hclosing⟩ | ⟨rfl, hchar⟩ | ⟨rfl, hchar⟩
    · -- a parenthesis that is left as it is stood behind its word, and still does
      rw [hchar, List.singleton_append, delimitersAfter, hrest]
      congr 1
      by_cases hc : c = '('
      · rw [if_pos ⟨hc, by rw [← follows_congr reach_leftWord h, hopening hc]⟩, hc]
        rfl
      · by_cases hc' : c = ')'
        · rw [if_neg (by simp [hc]), if_pos ⟨hc', by rw [← follows_congr reach_rightWord h, hclosing hc']⟩, hc']
          rfl
        · simp [hc, hc', parens, isParen]
    · have hreach : reach ('(' :: before) = reach ('(' :: (leftWord.reverse ++ other)) := rfl
      rw [hchar, ← ih hreach, leftWord_eq]
      rfl
    · have hreach : reach (')' :: before) = reach (')' :: (rightWord.reverse ++ other)) := rfl
      rw [hchar, ← ih hreach, rightWord_eq]
      rfl

/-- **sizing makes delimiters of all parentheses** -/
theorem delimiters_sized (s : Latex) : delimiters '(' ')' (sized s) = parens s :=
  delimitersAfter_sizedAfter rfl s

end Untypeset.Latex
