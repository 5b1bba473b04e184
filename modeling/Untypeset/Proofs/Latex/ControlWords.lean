import Mathlib.Data.List.TakeWhile
import Untypeset.Proofs.Latex.Braces
import Untypeset.Proofs.Text.Ascii

/-!
The control words of a source: each backslash together with all the letters behind it. A letter put behind a source that ends
in a control word would join the word, and such a source is open. Sources can be put next to each other, trimmed between
delimiters and sized without a control word being joined to what follows, if each of them is sealed: guarded, not open, and
without unwanted control words.

Results:
- `mem_controlWords_iff`: what a control word is;
- `Sealed.append`, `Worded.close`, `Sealed.separated`: no word is joined to what follows;
- `controlWords_sized`: sizing brings in no control word but those of parentheses.
-/

namespace Untypeset.Latex

open Untypeset.Text

/-- the control words of a source in order: each backslash with the letters behind it, where there are any -/
def controlWords : Latex → List Latex
  | [] => []
  | c :: s =>
    (if c = '\\' ∧ s.takeWhile isAsciiLetter ≠ [] then ['\\' :: s.takeWhile isAsciiLetter] else []) ++ controlWords s

/-- whether a letter behind the source would be read as part of a control word -/
def isOpen : Latex → Bool
  | [] => false
  | c :: s => (c = '\\' && s.all isAsciiLetter) || isOpen s

variable {a b s w : Latex}

/-! ## Control words -/

theorem controlWords_cons_of_ne {c : Char} (h : c ≠ '\\') (s : Latex) : controlWords (c :: s) = controlWords s := by
  simp [controlWords, h]

theorem controlWords_of_plain (h : '\\' ∉ s) : controlWords s = [] := by
  induction s with
  | nil => rfl
  | cons c s ih =>
    rw [List.mem_cons, not_or] at h
    rw [controlWords_cons_of_ne (Ne.symm h.1), ih h.2]

theorem controlWords_cons_backslash {letters rest : Latex} (hletters : letters ≠ [])
    (hall : letters.all isAsciiLetter = true) (hrest : ∀ c ∈ rest.head?, isAsciiLetter c = false) :
    controlWords ('\\' :: letters ++ rest) = ('\\' :: letters) :: controlWords rest := by
  have hskip : ∀ letters : Latex, letters.all isAsciiLetter = true →
      controlWords (letters ++ rest) = controlWords rest := by
    intro letters h
    induction letters with
    | nil => rfl
    | cons c letters ih =>
      rw [List.all_cons, Bool.and_eq_true] at h
      have hc : c ≠ '\\' := by
        rintro rfl
        exact absurd h.1 (by decide)
      rw [List.cons_append, controlWords_cons_of_ne hc, ih h.2]
  have htake : (letters ++ rest).takeWhile isAsciiLetter = letters := by
    rw [List.takeWhile_append_of_pos (List.all_eq_true.1 hall)]
    cases rest with
    | nil => simp
    | cons c rest => simp [hrest c rfl]
  rw [List.cons_append, controlWords, htake, if_pos ⟨rfl, hletters⟩, hskip letters hall, List.singleton_append]

/-- a control word is a maximal run of a backslash and one or more letters -/
theorem mem_controlWords_iff : w ∈ controlWords s ↔ ∃ before letters after, s = before ++ '\\' :: letters ++ after ∧
    letters ≠ [] ∧ letters.all isAsciiLetter = true ∧ (∀ c ∈ after.head?, isAsciiLetter c = false) ∧
    w = '\\' :: letters := by
  constructor
  · intro h
    induction s with
    | nil => cases h
    | cons c s ih =>
      rw [controlWords, List.mem_append] at h
      rcases h with h | h
      · split at h
        · rename_i hc
          refine ⟨[], s.takeWhile isAsciiLetter, s.dropWhile isAsciiLetter, ?_, hc.2, List.all_takeWhile, ?_,
            List.mem_singleton.1 h⟩
          · rw [List.nil_append, List.cons_append, List.takeWhile_append_dropWhile, hc.1]
          · intro d hd
            have := List.head?_dropWhile_not isAsciiLetter s
            rw [Option.mem_def.1 hd] at this
            simpa using this
        · cases h
      · obtain ⟨before, letters, after, rfl, hrest⟩ := ih h
        exact ⟨c :: before, letters, after, rfl, hrest⟩
  · rintro ⟨before, letters, after, rfl, hletters, hall, hafter, rfl⟩
    induction before with
    | nil =>
      rw [List.nil_append, controlWords_cons_backslash hletters hall hafter]
      exact List.mem_cons_self
    | cons c before ih =>
      rw [List.cons_append, List.cons_append, controlWords]
      exact List.mem_append_right _ ih

/-! ## Open sources -/

theorem isOpen_append (a b : Latex) : isOpen (a ++ b) = (isOpen b || (isOpen a && b.all isAsciiLetter)) := by
  induction a with
  | nil => simp [isOpen]
  | cons c a ih =>
    rw [List.cons_append, isOpen, isOpen, ih, List.all_append]
    cases decide (c = '\\') <;> cases isOpen b <;> cases a.all isAsciiLetter <;> cases b.all isAsciiLetter <;> simp

theorem isOpen_of_plain (h : '\\' ∉ s) : isOpen s = false := by
  induction s with
  | nil => rfl
  | cons c s ih =>
    rw [List.mem_cons, not_or] at h
    simp [isOpen, Ne.symm h.1, ih h.2]

/-- an open source ends in a backslash and letters -/
theorem exists_of_isOpen (h : isOpen s = true) :
    ∃ before letters, s = before ++ '\\' :: letters ∧ letters.all isAsciiLetter = true := by
  induction s with
  | nil => cases h
  | cons c s ih =>
    rw [isOpen, Bool.or_eq_true, Bool.and_eq_true, decide_eq_true_eq] at h
    rcases h with ⟨rfl, hall⟩ | h
    · exact ⟨[], s, rfl, hall⟩
    · obtain ⟨before, letters, rfl, hall⟩ := ih h
      exact ⟨c :: before, letters, rfl, hall⟩

theorem isOpen_of_letters {before letters : Latex} (hall : letters.all isAsciiLetter = true) :
    isOpen (before ++ '\\' :: letters) = true := by
  simp [isOpen_append, isOpen, hall]

/-- to end in a control word is to end in a backslash and letters, at least one of them -/
theorem endsInControlWord_iff : endsInControlWord s = true ↔
    ∃ before letters, s = before ++ '\\' :: letters ∧ letters ≠ [] ∧ letters.all isAsciiLetter = true := by
  have hback : isAsciiLetter '\\' = false := rfl
  constructor
  · intro h
    have hsplit := List.takeWhile_append_dropWhile (p := isAsciiLetter) (l := s.reverse)
    have hall : (s.reverse.takeWhile isAsciiLetter).all isAsciiLetter = true := List.all_takeWhile
    unfold endsInControlWord at h
    split at h
    · cases h
    · rename_i c letters htake
      obtain ⟨before, hdrop⟩ := List.head?_eq_some_iff.1 (beq_iff_eq.1 h)
      refine ⟨before.reverse, (c :: letters).reverse, ?_, by simp, by rw [List.all_reverse, ← htake, hall]⟩
      rw [htake, hdrop] at hsplit
      rw [← List.reverse_reverse s, ← hsplit]
      simp
  · rintro ⟨before, letters, rfl, hne, hall⟩
    have hreverse : letters.reverse.all isAsciiLetter = true := by simpa using hall
    have htake : (before ++ '\\' :: letters).reverse.takeWhile isAsciiLetter = letters.reverse := by
      simp only [List.reverse_append, List.reverse_cons, List.append_assoc]
      rw [List.takeWhile_append_of_pos (List.all_eq_true.1 hreverse)]
      simp [hback]
    have hdrop : (before ++ '\\' :: letters).reverse.dropWhile isAsciiLetter = '\\' :: before.reverse := by
      simp only [List.reverse_append, List.reverse_cons, List.append_assoc]
      rw [List.dropWhile_append_of_pos (List.all_eq_true.1 hreverse)]
      simp [hback]
    rw [endsInControlWord, htake, hdrop]
    cases hrev : letters.reverse with
    | nil => exact absurd (List.reverse_eq_nil_iff.1 hrev) hne
    | cons c rest => rfl

/-- an open source ends in a control word or in a bare backslash -/
theorem isOpen_iff : isOpen s = true ↔ endsInControlWord s = true ∨ s.getLast? = some '\\' := by
  rw [endsInControlWord_iff, List.getLast?_eq_some_iff]
  constructor
  · intro h
    obtain ⟨before, letters, hs, hall⟩ := exists_of_isOpen h
    by_cases hne : letters = []
    · exact .inr ⟨before, by rw [hs, hne]⟩
    · exact .inl ⟨before, letters, hs, hne, hall⟩
  · rintro (⟨before, letters, rfl, -, hall⟩ | ⟨before, rfl⟩)
    · exact isOpen_of_letters hall
    · exact isOpen_of_letters rfl

/-- a guarded source that is open ends in a control word -/
theorem endsInControlWord_of_isOpen (hguarded : guarded s = true) (h : isOpen s = true) :
    endsInControlWord s = true := by
  refine (isOpen_iff.1 h).resolve_right fun hlast => ?_
  obtain ⟨before, rfl⟩ := List.getLast?_eq_some_iff.1 hlast
  exact absurd (guarded_of_append hguarded) (by decide)

/-! ## Sources next to each other -/

/-- no control word is joined to what follows, unless it is open and what follows starts with a letter -/
theorem controlWords_append (h : isOpen a = false ∨ ∀ c ∈ b.head?, isAsciiLetter c = false) :
    controlWords (a ++ b) = controlWords a ++ controlWords b := by
  induction a with
  | nil => rfl
  | cons c a ih =>
    have hrest : isOpen a = false ∨ ∀ c ∈ b.head?, isAsciiLetter c = false := by
      apply h.imp_left
      intro hopen
      rw [isOpen, Bool.or_eq_false_iff] at hopen
      exact hopen.2
    have htake : c = '\\' → (a ++ b).takeWhile isAsciiLetter = a.takeWhile isAsciiLetter := by
      rintro rfl
      rw [List.takeWhile_append]
      split
      · rename_i hlength
        have hall : a.all isAsciiLetter = true := by
          rw [List.all_eq_true]
          exact List.takeWhile_eq_self_iff.1 ((List.takeWhile_prefix _).eq_of_length hlength)
        have hhead : ∀ c ∈ b.head?, isAsciiLetter c = false := by
          refine h.resolve_left ?_
          simp [isOpen, hall]
        have hnone : b.takeWhile isAsciiLetter = [] := by
          cases b with
          | nil => rfl
          | cons d b => simp [hhead d rfl]
        rw [hnone, List.append_nil, List.takeWhile_eq_self_iff.2 (List.all_eq_true.1 hall)]
      · rfl
    rw [List.cons_append, controlWords, controlWords, ih hrest, List.append_assoc]
    by_cases hc : c = '\\'
    · rw [htake hc]
    · simp [hc]

theorem controlWords_of_blank (h : squash s = []) : controlWords s = [] :=
  controlWords_of_plain (not_mem_of_squash (by decide) h)

theorem controlWords_trimEnd (s : Latex) : controlWords (trimEnd s) = controlWords s := by
  obtain ⟨tail, hs, htail⟩ := exists_eq_trimEnd_append s
  have hhead : ∀ c ∈ tail.head?, isAsciiLetter c = false := by
    intro c hc
    exact not_letter_of_blank (squash_eq_nil_iff.1 htail c (List.mem_of_head? hc))
  calc controlWords (trimEnd s)
      = controlWords (trimEnd s) ++ controlWords tail := by rw [controlWords_of_blank htail, List.append_nil]
    _ = controlWords (trimEnd s ++ tail) := (controlWords_append (.inr hhead)).symm
    _ = controlWords s := by rw [← hs]

theorem controlWords_trimStart (s : Latex) : controlWords (trimStart s) = controlWords s := by
  obtain ⟨head, hs, hhead⟩ := exists_eq_append_trimStart s
  have hopen : isOpen head = false := isOpen_of_plain (not_mem_of_squash (by decide) hhead)
  calc controlWords (trimStart s)
      = controlWords head ++ controlWords (trimStart s) := by rw [controlWords_of_blank hhead, List.nil_append]
    _ = controlWords (head ++ trimStart s) := (controlWords_append (.inl hopen)).symm
    _ = controlWords s := by rw [← hs]

theorem isOpen_trimStart (s : Latex) : isOpen (trimStart s) = isOpen s := by
  obtain ⟨head, hs, hhead⟩ := exists_eq_append_trimStart s
  have hopen : isOpen head = false := isOpen_of_plain (not_mem_of_squash (by decide) hhead)
  calc isOpen (trimStart s)
      = isOpen (head ++ trimStart s) := by rw [isOpen_append, hopen, Bool.false_and, Bool.or_false]
    _ = isOpen s := by rw [← hs]

/-! ## Sealed sources -/

/-- a guarded source with control words of one sort only -/
structure Worded (W : Latex → Prop) (s : Latex) : Prop where
  guarded : guarded s = true
  words : ∀ w ∈ controlWords s, W w

/-- such a source to which nothing that follows can be joined -/
structure Sealed (W : Latex → Prop) (s : Latex) : Prop extends Worded W s where
  closed : isOpen s = false

instance (W : Latex → Prop) [DecidablePred W] (s : Latex) : Decidable (Sealed W s) :=
  decidable_of_iff (guarded s = true ∧ (∀ w ∈ controlWords s, W w) ∧ isOpen s = false)
    ⟨fun h => ⟨⟨h.1, h.2.1⟩, h.2.2⟩, fun h => ⟨h.guarded, h.words, h.closed⟩⟩

variable {W : Latex → Prop}

theorem Worded.trimEnd (h : Worded W s) : Worded W (trimEnd s) where
  guarded := guarded_trimEnd h.guarded
  words := by
    rw [controlWords_trimEnd]
    exact h.words

theorem Sealed.trimStart (h : Sealed W s) : Sealed W (trimStart s) where
  guarded := guarded_trimStart h.guarded
  words := by
    rw [controlWords_trimStart]
    exact h.words
  closed := by rw [isOpen_trimStart, h.closed]

/-- without backslashes there is nothing to join -/
theorem Sealed.of_plain (h : '\\' ∉ s) : Sealed W s where
  guarded := by
    induction s with
    | nil => rfl
    | cons c s ih =>
      rw [List.mem_cons, not_or] at h
      exact guarded_cons.2 ⟨fun hc => absurd hc.symm h.1, ih h.2⟩
  words := by
    rw [controlWords_of_plain h]
    exact fun w hw => absurd hw List.not_mem_nil
  closed := isOpen_of_plain h

theorem Sealed.append (ha : Sealed W a) (hb : Sealed W b) : Sealed W (a ++ b) where
  guarded := guarded_append ha.guarded hb.guarded
  words := by
    rw [controlWords_append (.inl ha.closed)]
    exact List.forall_mem_append.2 ⟨ha.words, hb.words⟩
  closed := by rw [isOpen_append, ha.closed, hb.closed, Bool.false_and, Bool.or_false]

/-- a delimiter seals what stands before it -/
theorem Worded.close (ha : Worded W a) {c : Char} (hc : isAsciiLetter c = false) (hb : Sealed W (c :: s)) :
    Sealed W (a ++ c :: s) where
  guarded := guarded_append ha.guarded hb.guarded
  words := by
    have hhead : ∀ d ∈ (c :: s).head?, isAsciiLetter d = false := by
      rintro d ⟨⟩
      exact hc
    rw [controlWords_append (.inr hhead)]
    exact List.forall_mem_append.2 ⟨ha.words, hb.words⟩
  closed := by rw [isOpen_append, hb.closed, List.all_cons, hc, Bool.false_and, Bool.and_false, Bool.or_false]

/-- a token that another one follows is sealed by the space behind its control word -/
theorem Sealed.separated (h : Worded W s) : Sealed W (separated s) := by
  have hbare : Worded W (trimEnd s) := h.trimEnd
  unfold Latex.separated
  dsimp only
  split
  · exact hbare.close (by decide) (.of_plain (by decide))
  · rename_i hend
    refine ⟨hbare, ?_⟩
    cases hopen : isOpen (trimEnd s) with
    | false => rfl
    | true => exact absurd (endsInControlWord_of_isOpen hbare.guarded hopen) hend

/-! ## Sized parentheses -/

theorem takeWhile_sizedAfter (before s : Latex) :
    (sizedAfter before s).takeWhile isAsciiLetter = s.takeWhile isAsciiLetter := by
  induction s generalizing before with
  | nil => rfl
  | cons c s ih =>
    rw [sizedAfter]
    rcases sizedChar_cases before c with ⟨h, -⟩ | ⟨rfl, h⟩ | ⟨rfl, h⟩
    · rw [h, List.singleton_append, List.takeWhile_cons, List.takeWhile_cons, ih]
    · rw [h, leftWord_eq]
      rfl
    · rw [h, rightWord_eq]
      rfl

theorem controlWords_sizedAfter (before s : Latex) :
    ∀ w ∈ controlWords (sizedAfter before s), w ∈ controlWords s ∨ w = leftWord ∨ w = rightWord := by
  induction s generalizing before with
  | nil => exact fun w hw => absurd hw List.not_mem_nil
  | cons c s ih =>
    intro w hw
    have hrest := ih (c :: before) w
    rw [sizedAfter] at hw
    rcases sizedChar_cases before c with ⟨h, -⟩ | ⟨rfl, h⟩ | ⟨rfl, h⟩
    · rw [h, List.singleton_append, controlWords, takeWhile_sizedAfter, List.mem_append] at hw
      rw [controlWords, List.mem_append]
      rcases hw with hw | hw
      · exact .inl (.inl hw)
      · exact (hrest hw).imp_left .inr
    · rw [controlWords_cons_of_ne (by decide)]
      have hleft : controlWords ('\\' :: ['l', 'e', 'f', 't'] ++ '(' :: sizedAfter ('(' :: before) s) =
          leftWord :: controlWords (sizedAfter ('(' :: before) s) := by
        rw [controlWords_cons_backslash (by decide) (by decide) (by simp [isAsciiLetter]),
          controlWords_cons_of_ne (by decide), leftWord_eq]
      rw [h, List.append_assoc, leftWord_eq, List.singleton_append, hleft, List.mem_cons] at hw
      rcases hw with hw | hw
      · exact .inr (.inl hw)
      · exact hrest hw
    · rw [controlWords_cons_of_ne (by decide)]
      have hright : controlWords ('\\' :: ['r', 'i', 'g', 'h', 't'] ++ ')' :: sizedAfter (')' :: before) s) =
          rightWord :: controlWords (sizedAfter (')' :: before) s) := by
        rw [controlWords_cons_backslash (by decide) (by decide) (by simp [isAsciiLetter]),
          controlWords_cons_of_ne (by decide), rightWord_eq]
      rw [h, List.append_assoc, rightWord_eq, List.singleton_append, hright, List.mem_cons] at hw
      rcases hw with hw | hw
      · exact .inr (.inr hw)
      · exact hrest hw

/-- sizing the parentheses of a source brings in no control words but those before parentheses -/
theorem controlWords_sized (s : Latex) :
    ∀ w ∈ controlWords (sized s), w ∈ controlWords s ∨ w = leftWord ∨ w = rightWord :=
  controlWords_sizedAfter [] s

end Untypeset.Latex
