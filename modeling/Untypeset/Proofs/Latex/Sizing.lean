import Mathlib.Data.List.Basic
import Untypeset.Proofs.Latex.Cleanup
import Untypeset.Proofs.Latex.Delimiters

/-!
What the sizing of parentheses comes to. Afterwards every round parenthesis stands directly behind the control word of its
side (`allSized_sized`), and a source is left as it is exactly if that held of it before (`sized_eq_self_iff`), so a second
pass changes nothing. Nothing is lost: with the words before its parentheses taken away again, a source is the same before
and after (`unsized_sized`). Clean-up touches blanks and a period only and leaves sized parentheses sized
(`AllSized.cleaned`).
-/

namespace Untypeset.Latex

open Untypeset.Text

variable {before other s t : Latex}

/-! ## Sources with all parentheses sized -/

/-- every opening parenthesis stands directly behind `\left`, every closing one directly behind `\right` -/
structure AllSized (s : Latex) : Prop where
  opening : ∀ before after, s = before ++ '(' :: after → leftWord <:+ before
  closing : ∀ before after, s = before ++ ')' :: after → rightWord <:+ before

/-- the same of a source that stands after the characters `before`, nearest first -/
def AllSizedAfter (before : Latex) : Latex → Prop
  | [] => True
  | c :: s =>
    (c = '(' → follows before leftWord = true) ∧ (c = ')' → follows before rightWord = true) ∧
      AllSizedAfter (c :: before) s

theorem allSizedAfter_iff : AllSizedAfter before s ↔ ∀ start c rest, s = start ++ c :: rest →
    (c = '(' → follows (start.reverse ++ before) leftWord = true) ∧
      (c = ')' → follows (start.reverse ++ before) rightWord = true) := by
  induction s generalizing before with
  | nil => simp [AllSizedAfter]
  | cons d s ih =>
    rw [AllSizedAfter, ih]
    constructor
    · rintro ⟨hopening, hclosing, hrest⟩ start c rest hsplit
      cases start with
      | nil =>
        obtain ⟨rfl, -⟩ := List.cons.inj hsplit
        exact ⟨hopening, hclosing⟩
      | cons e start =>
        obtain ⟨rfl, hs⟩ := List.cons.inj hsplit
        simpa using hrest start c rest hs
    · intro h
      refine ⟨(h [] d s rfl).1, (h [] d s rfl).2, fun start c rest hs => ?_⟩
      simpa using h (d :: start) c rest (by rw [hs, List.cons_append])

theorem follows_reverse_iff {word : Latex} : follows before.reverse word = true ↔ word <:+ before := by
  rw [follows, List.isPrefixOf_iff_prefix, List.reverse_prefix]

theorem allSized_iff : AllSized s ↔ AllSizedAfter [] s := by
  rw [allSizedAfter_iff]
  constructor
  · intro h start c rest hs
    rw [List.append_nil, follows_reverse_iff, follows_reverse_iff]
    constructor <;> rintro rfl
    · exact h.opening start rest hs
    · exact h.closing start rest hs
  · intro h
    constructor
    · intro start rest hs
      simpa only [List.append_nil, follows_reverse_iff] using (h start _ rest hs).1 rfl
    · intro start rest hs
      simpa only [List.append_nil, follows_reverse_iff] using (h start _ rest hs).2 rfl

/-! ## Sizing is complete -/

theorem allSizedAfter_append {a b : Latex} :
    AllSizedAfter before (a ++ b) ↔ AllSizedAfter before a ∧ AllSizedAfter (a.reverse ++ before) b := by
  induction a generalizing before with
  | nil => simp [AllSizedAfter]
  | cons c a ih =>
    rw [List.cons_append, AllSizedAfter, AllSizedAfter, ih, List.reverse_cons, List.append_assoc, List.singleton_append,
      and_assoc, and_assoc]

theorem allSizedAfter_of_all (h : s.all (fun c => !isParen c) = true) : AllSizedAfter before s := by
  rw [allSizedAfter_iff]
  intro start c rest hsplit
  have hc : isParen c = false := by
    rw [List.all_eq_true] at h
    simpa using h c (by simp [hsplit])
  constructor <;> rintro rfl <;> cases hc

theorem follows_self (before word : Latex) : follows (word.reverse ++ before) word = true := by
  rw [follows, List.isPrefixOf_iff_prefix]
  exact List.prefix_append _ _

/-- a parenthesis with its word is sized -/
theorem allSizedAfter_left (before : Latex) : AllSizedAfter before (leftWord ++ ['(']) := by
  have hclose : '(' ≠ ')' := by decide
  rw [allSizedAfter_append]
  exact ⟨allSizedAfter_of_all reach_leftWord, fun _ => follows_self before leftWord, fun h => absurd h hclose, trivial⟩

theorem allSizedAfter_right (before : Latex) : AllSizedAfter before (rightWord ++ [')']) := by
  have hopen : ')' ≠ '(' := by decide
  rw [allSizedAfter_append]
  exact ⟨allSizedAfter_of_all reach_rightWord, fun h => absurd h hopen, fun _ => follows_self before rightWord, trivial⟩

theorem allSizedAfter_sizedAfter (h : reach before = reach other) (s : Latex) :
    AllSizedAfter other (sizedAfter before s) := by
  induction s generalizing before other with
  | nil => trivial
  | cons c s ih =>
    rw [sizedAfter]
    rcases sizedChar_cases before c with ⟨hchar, hopening, hclosing⟩ | ⟨rfl, hchar⟩ | ⟨rfl, hchar⟩
    · rw [follows_congr reach_leftWord h] at hopening
      rw [follows_congr reach_rightWord h] at hclosing
      rw [hchar]
      exact ⟨hopening, hclosing, ih (reach_cons c h)⟩
    · rw [hchar, allSizedAfter_append]
      exact ⟨allSizedAfter_left other, ih rfl⟩
    · rw [hchar, allSizedAfter_append]
      exact ⟨allSizedAfter_right other, ih rfl⟩

/-- **afterwards all parentheses are sized** -/
theorem allSized_sized (s : Latex) : AllSized (sized s) :=
  allSized_iff.2 (allSizedAfter_sizedAfter rfl s)

theorem sizedAfter_eq_self (h : AllSizedAfter before s) : sizedAfter before s = s := by
  induction s generalizing before with
  | nil => rfl
  | cons c s ih =>
    obtain ⟨hopening, hclosing, hrest⟩ := h
    have hchar : sizedChar before c = [c] := by
      unfold sizedChar
      rw [if_neg (by rintro ⟨hc, hbare⟩; rw [hopening hc] at hbare; cases hbare),
        if_neg (by rintro ⟨hc, hbare⟩; rw [hclosing hc] at hbare; cases hbare)]
    rw [sizedAfter, hchar, ih hrest, List.singleton_append]

/-- **only what is sized already is left as it is** -/
theorem sized_eq_self_iff : sized s = s ↔ AllSized s := by
  constructor
  · intro h
    rw [← h]
    exact allSized_sized s
  · intro h
    exact sizedAfter_eq_self (allSized_iff.1 h)

/-! ## Sizing loses nothing -/

/-- the source with the words of some rules replaced, from left to right and by the first rule that applies; `skip` counts
the characters in front that belong to a word that has been replaced already -/
def replacedFrom (rules : List (Latex × Latex)) : Nat → Latex → Latex
  | _, [] => []
  | skip + 1, _ :: s => replacedFrom rules skip s
  | 0, c :: s =>
    match rules.find? fun rule => rule.1.isPrefixOf (c :: s) with
    | some (word, new) => new ++ replacedFrom rules (word.length - 1) s
    | none => c :: replacedFrom rules 0 s

/-- a sized parenthesis of each side, and the bare one -/
def unsizing : List (Latex × Latex) :=
  [(leftWord ++ ['('], ['(']), (rightWord ++ [')'], [')'])]

/-- the source with bare parentheses for its sized ones -/
def unsized (s : Latex) : Latex :=
  replacedFrom unsizing 0 s

theorem replacedFrom_eq_drop (rules : List (Latex × Latex)) (skip : Nat) (s : Latex) :
    replacedFrom rules skip s = replacedFrom rules 0 (s.drop skip) := by
  induction skip generalizing s with
  | zero => rfl
  | succ skip ih =>
    cases s with
    | nil => rfl
    | cons c s => rw [replacedFrom, ih, List.drop_succ_cons]

theorem unsized_left (s : Latex) : unsized (leftWord ++ '(' :: s) = '(' :: unsized s := by
  rw [leftWord_eq]
  exact congrArg _ (replacedFrom_eq_drop _ _ _)

theorem unsized_right (s : Latex) : unsized (rightWord ++ ')' :: s) = ')' :: unsized s := by
  rw [rightWord_eq]
  exact congrArg _ (replacedFrom_eq_drop _ _ _)

/-- a character that no sized parenthesis starts with stays -/
theorem unsized_cons {c : Char} (h : ∀ rule ∈ unsizing, ¬ rule.1 <+: c :: s) : unsized (c :: s) = c :: unsized s := by
  have hnone : (unsizing.find? fun rule => rule.1.isPrefixOf (c :: s)) = none := by
    rw [List.find?_eq_none]
    intro rule hrule
    rw [List.isPrefixOf_iff_prefix]
    exact h rule hrule
  rw [unsized, replacedFrom, hnone]
  rfl

theorem sizedAfter_append (before a b : Latex) :
    sizedAfter before (a ++ b) = sizedAfter before a ++ sizedAfter (a.reverse ++ before) b := by
  induction a generalizing before with
  | nil => rfl
  | cons c a ih =>
    rw [List.cons_append, sizedAfter, ih, sizedAfter, List.append_assoc, List.reverse_cons, List.append_assoc,
      List.singleton_append]

/-- a parenthesis behind its word stays as it is, and so does the word -/
theorem sizedAfter_word {word : Latex} {paren : Char} (h : AllSizedAfter before (word ++ [paren])) (s : Latex) :
    sizedAfter before (word ++ paren :: s) = word ++ paren :: sizedAfter (paren :: (word.reverse ++ before)) s := by
  have hsplit : word ++ paren :: s = (word ++ [paren]) ++ s := by simp
  rw [hsplit, sizedAfter_append, sizedAfter_eq_self h, List.reverse_concat, List.append_assoc]
  rfl

/-- what is put before a parenthesis starts with a backslash, so any other word stood there before -/
theorem prefix_of_prefix_sizedAfter {word : Latex} (hword : '\\' ∉ word) (h : word <+: sizedAfter before s) :
    word <+: s := by
  induction word generalizing before s with
  | nil => exact List.nil_prefix
  | cons d word ih =>
    rw [List.mem_cons, not_or] at hword
    cases s with
    | nil => exact h
    | cons c s =>
      rw [sizedAfter] at h
      rcases sizedChar_cases before c with ⟨hchar, -⟩ | ⟨-, hchar⟩ | ⟨-, hchar⟩
      · rw [hchar, List.singleton_append, List.cons_prefix_cons] at h
        rw [List.cons_prefix_cons]
        exact ⟨h.1, ih hword.2 h.2⟩
      · rw [hchar, leftWord_eq] at h
        exact absurd (List.cons_prefix_cons.1 h).1.symm hword.1
      · rw [hchar, rightWord_eq] at h
        exact absurd (List.cons_prefix_cons.1 h).1.symm hword.1

theorem unsizing_words : ∀ rule ∈ unsizing, ∃ word, rule.1 = '\\' :: word ∧ '\\' ∉ word := by
  rw [unsizing, leftWord_eq, rightWord_eq]
  intro rule hrule
  rcases List.mem_pair.1 hrule with rfl | rfl
  · exact ⟨_, rfl, by decide⟩
  · exact ⟨_, rfl, by decide⟩

theorem unsized_sizedAfter (before s : Latex) : unsized (sizedAfter before s) = unsized s := by
  cases s with
  | nil => rfl
  | cons c rest =>
    by_cases hword : ∃ rule ∈ unsizing, rule.1 <+: c :: rest
    · -- a parenthesis that is sized already, with its word
      obtain ⟨rule, hrule, s, hs⟩ := hword
      obtain ⟨word, hrule', -⟩ := unsizing_words rule hrule
      have hshorter : s.length < (c :: rest).length := by
        rw [← hs, hrule', List.length_append, List.length_cons]
        omega
      rw [← hs]
      rcases List.mem_pair.1 hrule with rfl | rfl
      · rw [List.append_assoc, List.singleton_append, sizedAfter_word (allSizedAfter_left before), unsized_left,
          unsized_left, unsized_sizedAfter]
      · rw [List.append_assoc, List.singleton_append, sizedAfter_word (allSizedAfter_right before), unsized_right,
          unsized_right, unsized_sizedAfter]
    · have hnone : ∀ rule ∈ unsizing, ¬ rule.1 <+: c :: rest := fun rule hrule h => hword ⟨rule, hrule, h⟩
      rw [sizedAfter, unsized_cons hnone]
      rcases sizedChar_cases before c with ⟨hchar, -⟩ | ⟨rfl, hchar⟩ | ⟨rfl, hchar⟩
      · have hafter : ∀ rule ∈ unsizing, ¬ rule.1 <+: c :: sizedAfter (c :: before) rest := by
          intro rule hrule h
          obtain ⟨word, hrule', hback⟩ := unsizing_words rule hrule
          apply hnone rule hrule
          rw [hrule', List.cons_prefix_cons] at h ⊢
          exact ⟨h.1, prefix_of_prefix_sizedAfter hback h.2⟩
        rw [hchar, List.singleton_append, unsized_cons hafter, unsized_sizedAfter]
      · rw [hchar, List.append_assoc, List.singleton_append, unsized_left, unsized_sizedAfter]
      · rw [hchar, List.append_assoc, List.singleton_append, unsized_right, unsized_sizedAfter]
termination_by s.length
decreasing_by
  · exact hshorter
  · exact hshorter
  · exact Nat.lt_succ_self _
  · exact Nat.lt_succ_self _
  · exact Nat.lt_succ_self _

/-- **nothing is lost**: a source without the words before its parentheses is the same before and after sizing -/
theorem unsized_sized (s : Latex) : unsized (sized s) = unsized s :=
  unsized_sizedAfter [] s

/-! ## Blanks around a sign -/

/-- a character of the control words before parentheses -/
def isSizing (c : Char) : Bool :=
  (leftWord ++ rightWord).contains c

theorem sizedAfter_congr (h : before.takeWhile isSizing = other.takeWhile isSizing) (s : Latex) :
    sizedAfter before s = sizedAfter other s := by
  induction s generalizing before other with
  | nil => rfl
  | cons c s ih =>
    have hfollows {word : Latex} (hword : word.all isSizing = true) : follows before word = follows other word := by
      rw [← follows_takeWhile hword, h, follows_takeWhile hword]
    have hleft : leftWord.all isSizing = true := by
      rw [leftWord_eq]
      decide +kernel
    have hright : rightWord.all isSizing = true := by
      rw [rightWord_eq]
      decide +kernel
    have hnext : (c :: before).takeWhile isSizing = (c :: other).takeWhile isSizing := by
      rw [List.takeWhile_cons, List.takeWhile_cons, h]
    rw [sizedAfter, sizedAfter, sizedChar, sizedChar, hfollows hleft, hfollows hright, ih hnext]

/-- sizing the parentheses keeps the difference to blanks around a sign -/
theorem squash_sized_around {c : Char} (hsizing : isSizing c = false) (hparen : isParen c = false) (a b : Latex) :
    squash (sized (a ++ [' ', c, ' '] ++ b)) = squash (sized (a ++ [c] ++ b)) := by
  have hsized {sign : Latex} (hsign : sign.all (fun d => !isParen d) = true) :
      sized (a ++ sign ++ b) = sizedAfter [] a ++ sign ++ sizedAfter (sign.reverse ++ a.reverse) b := by
    rw [sized, sizedAfter_append, sizedAfter_append, sizedAfter_eq_self (allSizedAfter_of_all hsign), List.reverse_append,
      List.append_nil]
  have hstop : ([' ', c, ' '].reverse ++ a.reverse).takeWhile isSizing = ([c].reverse ++ a.reverse).takeWhile isSizing := by
    rw [List.reverse_singleton, List.singleton_append, List.takeWhile_cons_of_neg (by rw [hsizing]; exact Bool.false_ne_true)]
    rfl
  have hspace : isParen ' ' = false := rfl
  have hblanks : squash [' ', c, ' '] = squash [c] := by
    have hsplit : [c, ' '] = [c] ++ [' '] := rfl
    rw [squash_cons_blank rfl, hsplit, squash_append]
    exact List.append_nil (squash [c])
  rw [hsized (by simp [hparen, hspace]), hsized (by simp [hparen]), sizedAfter_congr hstop, squash_append, squash_append,
    squash_append, squash_append, hblanks]

/-! ## Clean-up -/

theorem AllSized.of_append (h : AllSized (s ++ t)) : AllSized s := by
  constructor
  · rintro start after rfl
    exact h.opening start (after ++ t) (by simp)
  · rintro start after rfl
    exact h.closing start (after ++ t) (by simp)

/-- a parenthesis in a source with plain spaces stood there before, behind the same word -/
theorem word_of_plainSpaces {word : Latex} {paren : Char} {start rest : Latex} (hword : plainSpaces word = word)
    (hparen : paren ≠ ' ') (h : ∀ before after, s = before ++ paren :: after → word <:+ before)
    (hs : plainSpaces s = start ++ paren :: rest) : word <:+ start := by
  obtain ⟨before, tail, rfl, hbefore, htail⟩ := List.map_eq_append_iff.1 hs
  obtain ⟨c, after, rfl, hc, -⟩ := List.map_eq_cons_iff.1 htail
  have hsame : c = paren := by
    split at hc
    · exact absurd hc.symm hparen
    · exact hc
  subst hsame
  rw [← hbefore, ← hword]
  exact (h before after rfl).map _

theorem AllSized.plainSpaces (h : AllSized s) : AllSized (plainSpaces s) where
  opening _ _ := word_of_plainSpaces (by rw [leftWord_eq]; decide) (by decide) h.opening
  closing _ _ := word_of_plainSpaces (by rw [rightWord_eq]; decide) (by decide) h.closing

/-- a final period is dropped together with what is behind it -/
theorem exists_dropPeriod_append (s : Latex) : ∃ dropped, s = dropPeriod s ++ dropped := by
  by_cases h : EndsSentence s
  · obtain ⟨blanks, behind, hdropped, -, -⟩ := exists_dropped h
    exact ⟨blanks ++ '.' :: behind, hdropped⟩
  · exact ⟨[], by rw [dropPeriod_of_not_endsSentence h, List.append_nil]⟩

theorem AllSized.cleaned (h : AllSized s) (spaces period : Bool) : AllSized (cleaned spaces period s) := by
  have hspaced : AllSized (if spaces then Latex.plainSpaces s else s) := by
    split
    · exact h.plainSpaces
    · exact h
  unfold Latex.cleaned
  dsimp only
  split
  · obtain ⟨dropped, hdropped⟩ := exists_dropPeriod_append (if spaces then Latex.plainSpaces s else s)
    rw [hdropped] at hspaced
    exact hspaced.of_append
  · exact hspaced

end Untypeset.Latex
