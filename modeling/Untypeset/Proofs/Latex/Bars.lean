import Untypeset.Proofs.Latex.Delimiters

/-!
Sized bars of a source. A source is paired if it is not open and each of its opening bars has a closing one behind it. Paired
sources stay so when they are put next to each other, between bars or before a delimiter (`Paired.append`, `Paired.between`,
`Paired.close`), and when their parentheses are sized (`bars_sized`).
-/

namespace Untypeset.Latex

open Untypeset.Text

variable {a b s : Latex}

/-! ## Sized bars -/

/-- the sized bars of a source, an opening parenthesis for each opening one and a closing one for each closing one -/
def bars (s : Latex) : List Char :=
  delimiters '|' '|' s

theorem barsAfter_sizedAfter {before other : Latex} (h : reach before = reach other) (s : Latex) :
    delimitersAfter '|' '|' other (sizedAfter before s) = delimitersAfter '|' '|' before s := by
  induction s generalizing before other with
  | nil => rfl
  | cons c s ih =>
    rw [sizedAfter, delimitersAfter, follows_congr reach_leftWord h, follows_congr reach_rightWord h]
    rcases sizedChar_cases before c with ⟨hchar, -⟩ | ⟨rfl, hchar⟩ | ⟨rfl, hchar⟩
    · rw [hchar, List.singleton_append, delimitersAfter, ih (reach_cons c h)]
    · have hreach : reach ('(' :: before) = reach ('(' :: (leftWord.reverse ++ other)) := rfl
      rw [hchar, ← ih hreach, leftWord_eq]
      rfl
    · have hreach : reach (')' :: before) = reach (')' :: (rightWord.reverse ++ other)) := rfl
      rw [hchar, ← ih hreach, rightWord_eq]
      rfl

/-- sizing the parentheses of a source leaves its bars alone -/
theorem bars_sized (s : Latex) : bars (sized s) = bars s :=
  barsAfter_sizedAfter rfl s

/-- behind a source that is not open, a control word is complete or not there at all -/
theorem follows_append {before letters : Latex} (ha : isOpen a = false) (hletters : letters.all isAsciiLetter = true) :
    follows (before ++ a.reverse) ('\\' :: letters) = follows before ('\\' :: letters) := by
  rw [Bool.eq_iff_iff, follows, follows, List.isPrefixOf_iff_prefix, List.isPrefixOf_iff_prefix]
  refine ⟨fun h => ?_, fun h => h.trans (List.prefix_append _ _)⟩
  rcases List.prefix_or_prefix_of_prefix h (List.prefix_append before a.reverse) with hword | ⟨rest, hrest⟩
  · exact hword
  · -- the rest of the word would stand at the end of `a`
    rw [← hrest, List.prefix_append_right_inj, ← List.reverse_suffix, List.reverse_reverse] at h
    have hsplit : rest.reverse ++ before.reverse = '\\' :: letters := by
      rw [← List.reverse_append, hrest, List.reverse_reverse]
    cases hreverse : rest.reverse with
    | nil =>
      rw [List.reverse_eq_nil_iff.1 hreverse, List.append_nil] at hrest
      exact ⟨[], by rw [List.append_nil, hrest]⟩
    | cons c some =>
      rw [hreverse, List.cons_append, List.cons.injEq] at hsplit
      rw [hreverse, hsplit.1] at h
      obtain ⟨start, hstart⟩ := h
      have hsome : some.all isAsciiLetter = true := by
        rw [← hsplit.2, List.all_append, Bool.and_eq_true] at hletters
        exact hletters.1
      rw [← hstart, isOpen_append, isOpen, hsome] at ha
      cases ha

theorem delimitersAfter_of_closed (opening closing : Char) (ha : isOpen a = false) (before s : Latex) :
    delimitersAfter opening closing (before ++ a.reverse) s = delimitersAfter opening closing before s := by
  induction s generalizing before with
  | nil => rfl
  | cons c s ih =>
    have hleft : follows (before ++ a.reverse) leftWord = follows before leftWord := by
      rw [leftWord_eq]
      exact follows_append ha (by decide)
    have hright : follows (before ++ a.reverse) rightWord = follows before rightWord := by
      rw [rightWord_eq]
      exact follows_append ha (by decide)
    rw [delimitersAfter, delimitersAfter, hleft, hright, ← ih (c :: before), List.cons_append]

theorem delimitersAfter_append (opening closing : Char) (before a b : Latex) :
    delimitersAfter opening closing before (a ++ b) =
      delimitersAfter opening closing before a ++ delimitersAfter opening closing (a.reverse ++ before) b := by
  induction a generalizing before with
  | nil => rfl
  | cons c a ih =>
    rw [List.cons_append, delimitersAfter, delimitersAfter, ih, List.append_assoc, List.reverse_cons, List.append_assoc]
    rfl

theorem delimitersAfter_of_not_mem {opening closing : Char} (before : Latex) (hopening : opening ∉ s)
    (hclosing : closing ∉ s) : delimitersAfter opening closing before s = [] := by
  induction s generalizing before with
  | nil => rfl
  | cons c s ih =>
    rw [List.mem_cons, not_or] at hopening hclosing
    rw [delimitersAfter, if_neg fun h => hopening.1 h.1.symm, if_neg fun h => hclosing.1 h.1.symm,
      ih _ hopening.2 hclosing.2, List.append_nil]

theorem bars_append (ha : isOpen a = false) (b : Latex) : bars (a ++ b) = bars a ++ bars b := by
  have h := delimitersAfter_of_closed '|' '|' ha [] b
  rw [List.nil_append] at h
  rw [bars, delimiters, delimitersAfter_append, List.append_nil, h]
  rfl

/-- the bars at the start of a source come first -/
theorem prefix_bars (h : a <+: s) : bars a <+: bars s := by
  obtain ⟨rest, rfl⟩ := h
  rw [bars, bars, delimiters, delimiters, delimitersAfter_append]
  exact List.prefix_append _ _

/-- what is put behind a source and holds no bar leaves its bars alone -/
theorem bars_append_plain (a : Latex) (hb : '|' ∉ b) : bars (a ++ b) = bars a := by
  rw [bars, delimiters, delimitersAfter_append, delimitersAfter_of_not_mem _ hb hb, List.append_nil]
  rfl

theorem bars_trimEnd (s : Latex) : bars (trimEnd s) = bars s := by
  obtain ⟨tail, hs, htail⟩ := exists_eq_trimEnd_append s
  calc bars (trimEnd s)
      = bars (trimEnd s ++ tail) := (bars_append_plain _ (not_mem_of_squash (by decide) htail)).symm
    _ = bars s := by rw [← hs]

theorem bars_trimStart (s : Latex) : bars (trimStart s) = bars s := by
  obtain ⟨head, hs, hhead⟩ := exists_eq_append_trimStart s
  have hplain : '|' ∉ head := not_mem_of_squash (by decide) hhead
  have hnone : bars head = [] := delimitersAfter_of_not_mem [] hplain hplain
  calc bars (trimStart s)
      = bars head ++ bars (trimStart s) := by rw [hnone, List.nil_append]
    _ = bars (head ++ trimStart s) := (bars_append (isOpen_of_plain (not_mem_of_squash (by decide) hhead)) _).symm
    _ = bars s := by rw [← hs]

/-! ### What stands before a sized bar -/

/-- a delimiter has the control word of its side directly before it -/
theorem exists_of_delimitersAfter {opening closing : Char} {before : Latex}
    (h : delimitersAfter opening closing before s ≠ []) :
    ∃ start c rest, s = start ++ c :: rest ∧ (c = opening ∨ c = closing) ∧
      (follows (start.reverse ++ before) leftWord = true ∨ follows (start.reverse ++ before) rightWord = true) := by
  induction s generalizing before with
  | nil => exact absurd rfl h
  | cons c s ih =>
    rw [delimitersAfter] at h
    split at h
    · rename_i hopening
      exact ⟨[], c, s, rfl, .inl hopening.1, .inl hopening.2⟩
    · split at h
      · rename_i hclosing
        exact ⟨[], c, s, rfl, .inr hclosing.1, .inr hclosing.2⟩
      · obtain ⟨start, d, rest, rfl, hd, hfollows⟩ := ih h
        refine ⟨c :: start, d, rest, rfl, hd, ?_⟩
        rw [List.reverse_cons, List.append_assoc]
        exact hfollows

/-- without the control words of sized delimiters, no bar is sized -/
theorem bars_of_words (h : ∀ w ∈ controlWords s, w ≠ leftWord ∧ w ≠ rightWord) : bars s = [] := by
  by_contra hne
  obtain ⟨start, c, rest, rfl, hc, hfollows⟩ := exists_of_delimitersAfter hne
  have hhead : ∀ d ∈ (c :: rest).head?, isAsciiLetter d = false := by
    rintro d ⟨⟩
    rcases hc with rfl | rfl <;> rfl
  have hword : ∀ {word letters : Latex}, word = '\\' :: letters → letters ≠ [] → letters.all isAsciiLetter = true →
      follows (start.reverse ++ []) word = true → word ∈ controlWords (start ++ c :: rest) := by
    intro word letters hspelled hletters hall hword
    rw [follows, List.append_nil, List.isPrefixOf_iff_prefix, List.reverse_prefix] at hword
    obtain ⟨before, rfl⟩ := hword
    exact mem_controlWords_iff.2 ⟨before, letters, c :: rest, by rw [hspelled], hletters, hall, hhead, hspelled⟩
  rcases hfollows with hleft | hright
  · exact (h leftWord (hword leftWord_eq (by decide) (by decide) hleft)).1 rfl
  · exact (h rightWord (hword rightWord_eq (by decide) (by decide) hright)).2 rfl

/-! ## Paired sources -/

/-- a source whose sized bars come in pairs and which is not open -/
structure Paired (s : Latex) : Prop where
  closed : isOpen s = false
  balanced : Balanced '(' ')' (bars s)

instance (s : Latex) : Decidable (Paired s) :=
  decidable_of_iff (isOpen s = false ∧ Balanced '(' ')' (bars s)) ⟨fun h => ⟨h.1, h.2⟩, fun h => ⟨h.closed, h.balanced⟩⟩

theorem Paired.append (ha : Paired a) (hb : Paired b) : Paired (a ++ b) where
  closed := by rw [isOpen_append, ha.closed, hb.closed, Bool.false_and, Bool.or_false]
  balanced := by
    rw [bars_append ha.closed]
    exact ha.balanced.append hb.balanced

/-- trimming may open a source, and the delimiter that is put behind it closes it again -/
theorem Paired.close (h : Paired s) {c : Char} (hletter : isAsciiLetter c = false) (hback : c ≠ '\\') (hbar : c ≠ '|') :
    Paired (trimEnd s ++ [c]) where
  closed := by
    have hsingle : isOpen [c] = false := isOpen_of_plain (by simpa using Ne.symm hback)
    rw [isOpen_append, hsingle, List.all_cons, hletter, Bool.false_and, Bool.and_false, Bool.or_false]
  balanced := by
    rw [bars_append_plain _ (by simpa using Ne.symm hbar), bars_trimEnd]
    exact h.balanced

theorem Paired.trimStart (h : Paired s) : Paired (trimStart s) where
  closed := by rw [isOpen_trimStart, h.closed]
  balanced := by
    rw [bars_trimStart]
    exact h.balanced

/-! ### Sized bars between sources -/

theorem isOpen_leftBar : isOpen "\\left|".toList = false := by decide

theorem isOpen_rightBar : isOpen "\\right|".toList = false := by decide

theorem bars_leftBar : bars "\\left|".toList = ['('] := by decide

theorem bars_rightBar : bars "\\right|".toList = [')'] := by decide

/-- a pair of bars around a paired source is one more pair -/
theorem Paired.between (h : Paired s) : Paired ("\\left|".toList ++ s ++ "\\right|".toList) := by
  have hinside : isOpen ("\\left|".toList ++ s) = false := by
    rw [isOpen_append, isOpen_leftBar, h.closed, Bool.false_and, Bool.or_false]
  constructor
  · rw [isOpen_append, hinside, isOpen_rightBar, Bool.false_and, Bool.or_false]
  · rw [bars_append hinside, bars_append isOpen_leftBar, bars_leftBar, bars_rightBar]
    exact h.balanced.wrap (by decide)

/-- a single bar between paired sources is half a pair -/
theorem Paired.not_lone (ha : Paired a) (hb : Paired b) (opens : Bool) :
    ¬ Paired (a ++ ((if opens then "\\left|".toList else "\\right|".toList) ++ b)) := by
  intro h
  have hleft := ha.balanced.count_eq (by decide)
  have hright := hb.balanced.count_eq (by decide)
  have hwhole := h.balanced.count_eq (by decide)
  rw [bars_append ha.closed] at hwhole
  cases opens with
  | true =>
    rw [if_pos rfl, bars_append isOpen_leftBar, bars_leftBar] at hwhole
    simp at hwhole
    omega
  | false =>
    rw [if_neg (by decide), bars_append isOpen_rightBar, bars_rightBar] at hwhole
    simp at hwhole
    omega

/-- a sealed source without sized delimiters is paired -/
theorem Sealed.paired (h : Sealed (fun w => w ≠ leftWord ∧ w ≠ rightWord) s) : Paired s where
  closed := h.closed
  balanced := by
    rw [bars_of_words h.words]
    exact .nil

end Untypeset.Latex
