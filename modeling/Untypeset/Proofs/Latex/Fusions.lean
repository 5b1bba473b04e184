import Untypeset.Proofs.Latex.ControlWords
import Untypeset.Proofs.Latex.Joined

/-!
Control words of joined tokens. A backslash that a token ends in, but for its padding, and a letter that the next token starts
with are fused into a control word that neither of them holds; tokens between them that are empty or blank do not part them.
Nothing else happens to control words when tokens are joined.

Results:
- `controlWords_separated_append`: what one token put before a source adds to its control words;
- `sublist_controlWords_joinGlyphs`: no control word is lost, whatever the tokens;
- `length_controlWords_joinGlyphs`: one is made up for each fusion;
- `controlWords_joinGlyphs_iff`: the control words are those of the tokens, in order, exactly if there is no fusion;
- `joined_tokens_apart`: the joined tokens but for blanks, their control words, and the last token as it was.
-/

namespace Untypeset.Latex

open Untypeset.Text

/-- whether the source starts with a letter -/
def startsWithLetter (s : Latex) : Bool :=
  s.head?.any isAsciiLetter

/-- whether the first of the tokens that is not blank starts with a letter -/
def letterAhead : List Latex → Bool
  | [] => false
  | token :: rest => if squash token = [] then letterAhead rest else startsWithLetter token

/-- the token ends in a backslash, but for its padding -/
def EndsInBackslash (token : Latex) : Prop :=
  (trimEnd token).getLast? = some '\\'

instance (token : Latex) : Decidable (EndsInBackslash token) :=
  inferInstanceAs (Decidable ((trimEnd token).getLast? = some '\\'))

/-- the control word made up where a token is put before a source: a backslash at its end with the letters behind it -/
def fusedWord (token s : Latex) : List Latex :=
  if EndsInBackslash token ∧ startsWithLetter s = true then ['\\' :: s.takeWhile isAsciiLetter] else []

/-- the number of backslashes at the end of a token that meet a letter of a later token -/
def fusions : List Latex → Nat
  | [] => 0
  | token :: rest => (if EndsInBackslash token ∧ letterAhead rest = true then 1 else 0) + fusions rest

variable {s token last : Latex} {tokens : List Latex}

/-! ## Tokens before a source -/

theorem controlWords_append_cons {c : Char} (hc : isAsciiLetter c = false) (a b : Latex) :
    controlWords (a ++ c :: b) = controlWords a ++ controlWords (c :: b) := by
  have hhead : ∀ d ∈ (c :: b).head?, isAsciiLetter d = false := by
    rintro d ⟨⟩
    exact hc
  exact controlWords_append (.inr hhead)

theorem startsWithLetter_iff : startsWithLetter s = true ↔ s.takeWhile isAsciiLetter ≠ [] := by
  cases s with
  | nil => simp [startsWithLetter]
  | cons c s => by_cases hc : isAsciiLetter c <;> simp [startsWithLetter, hc]

theorem endsInControlWord_of_endsInBackslash (h : EndsInBackslash token) : endsInControlWord (trimEnd token) = false := by
  rw [← Bool.not_eq_true, endsInControlWord_iff]
  rintro ⟨before, letters, hbare, hne, hall⟩
  have hlast : letters.getLast? = some '\\' := by
    rw [EndsInBackslash, hbare, List.getLast?_append, List.getLast?_cons] at h
    obtain ⟨c, hc⟩ := Option.ne_none_iff_exists'.1 (mt List.getLast?_eq_none_iff.1 hne)
    simpa [hc] using h
  have hletter := List.all_eq_true.1 hall _ (List.mem_of_getLast? hlast)
  exact absurd hletter (by decide)

/-- a token that another one follows is open only by a backslash at its end -/
theorem isOpen_separated_iff : isOpen (separated token) = true ↔ EndsInBackslash token := by
  unfold separated
  dsimp only
  split
  · rename_i hword
    have hspace : isAsciiLetter ' ' = false := rfl
    refine iff_of_false (by simp [isOpen_append, isOpen, hspace]) fun hback => ?_
    rw [endsInControlWord_of_endsInBackslash hback] at hword
    cases hword
  · rename_i hword
    rw [isOpen_iff, or_iff_right hword, EndsInBackslash]

theorem controlWords_separated (token : Latex) : controlWords (separated token) = controlWords token := by
  unfold separated
  dsimp only
  split
  · rw [controlWords_append_cons rfl, controlWords_trimEnd]
    exact List.append_nil _
  · exact controlWords_trimEnd token

/-- **a token put before a source adds its own control words, and one for a fusion** -/
theorem controlWords_separated_append (token s : Latex) :
    controlWords (separated token ++ s) = controlWords token ++ (fusedWord token s ++ controlWords s) := by
  by_cases hback : EndsInBackslash token
  · -- the backslash goes with what follows
    obtain ⟨before, hbare⟩ := List.getLast?_eq_some_iff.1 hback
    have hseparated : separated token = before ++ ['\\'] := by
      rw [separated, endsInControlWord_of_endsInBackslash hback, hbare]
      rfl
    have hfused : controlWords ('\\' :: s) = fusedWord token s ++ controlWords s := by
      simp [controlWords, fusedWord, hback, startsWithLetter_iff]
    have htoken : controlWords token = controlWords before := by
      rw [← controlWords_trimEnd, hbare, controlWords_append_cons rfl]
      exact List.append_nil _
    rw [hseparated, List.append_assoc, List.singleton_append, controlWords_append_cons rfl, hfused, htoken]
  · have hclosed : isOpen (separated token) = false := by
      rw [← Bool.not_eq_true, isOpen_separated_iff]
      exact hback
    rw [controlWords_append (.inl hclosed), controlWords_separated, fusedWord, if_neg fun h => hback h.1, List.nil_append]

/-! ## Joined tokens -/

theorem startsWithLetter_of_blank (h : squash s = []) : startsWithLetter s = false := by
  cases s with
  | nil => rfl
  | cons c s => exact not_letter_of_blank (squash_eq_nil_iff.1 h c List.mem_cons_self)

theorem startsWithLetter_separated_append (h : squash token ≠ []) (s : Latex) :
    startsWithLetter (separated token ++ s) = startsWithLetter token := by
  have hbare : trimEnd token ≠ [] := mt trimEnd_eq_nil_iff.1 h
  obtain ⟨c, bare, hc⟩ := List.exists_cons_of_ne_nil hbare
  obtain ⟨tail, htoken, -⟩ := exists_eq_trimEnd_append token
  have hhead : (separated token ++ s).head? = some c := by
    unfold separated
    dsimp only
    split <;> simp [hc]
  rw [startsWithLetter, startsWithLetter, hhead, htoken, hc]
  rfl

/-- the tokens that are blank do not keep a letter away -/
theorem startsWithLetter_joinGlyphs (tokens : List Latex) : startsWithLetter (joinGlyphs tokens) = letterAhead tokens := by
  fun_induction joinGlyphs tokens with
  | case1 => rfl
  | case2 last =>
    by_cases hlast : squash last = []
    · rw [letterAhead, if_pos hlast, letterAhead, startsWithLetter_of_blank hlast]
    · rw [letterAhead, if_neg hlast]
  | case3 token next rest ih =>
    by_cases htoken : squash token = []
    · have hnil : separated token = [] := by
        rw [separated, trimEnd_eq_nil_iff.2 htoken]
        rfl
      rw [letterAhead, if_pos htoken, hnil, List.nil_append, ih]
    · rw [letterAhead, if_neg htoken, startsWithLetter_separated_append htoken]

/-- joining loses no control word -/
theorem sublist_controlWords_joinGlyphs (tokens : List Latex) :
    (tokens.flatMap controlWords).Sublist (controlWords (joinGlyphs tokens)) := by
  fun_induction joinGlyphs tokens with
  | case1 => exact List.Sublist.refl _
  | case2 last => rw [List.flatMap_singleton]
  | case3 token next rest ih =>
    rw [controlWords_separated_append, List.flatMap_cons]
    exact (List.Sublist.refl _).append (ih.trans (List.sublist_append_right _ _))

/-- joining makes up one control word for each fusion -/
theorem length_controlWords_joinGlyphs (tokens : List Latex) :
    (controlWords (joinGlyphs tokens)).length = (tokens.flatMap controlWords).length + fusions tokens := by
  fun_induction joinGlyphs tokens with
  | case1 => rfl
  | case2 last => simp [fusions, letterAhead]
  | case3 token next rest ih =>
    have hfused : (fusedWord token (joinGlyphs (next :: rest))).length =
        if EndsInBackslash token ∧ letterAhead (next :: rest) = true then 1 else 0 := by
      rw [fusedWord, startsWithLetter_joinGlyphs]
      split <;> rfl
    rw [controlWords_separated_append, List.flatMap_cons, fusions]
    simp only [List.length_append, hfused, ih]
    omega

/-- **the control words stay what they are exactly if there is no fusion** -/
theorem controlWords_joinGlyphs_iff :
    controlWords (joinGlyphs tokens) = tokens.flatMap controlWords ↔ fusions tokens = 0 := by
  have hlength := length_controlWords_joinGlyphs tokens
  constructor
  · intro h
    rw [h] at hlength
    omega
  · intro h
    rw [h, Nat.add_zero] at hlength
    exact ((sublist_controlWords_joinGlyphs tokens).eq_of_length hlength.symm).symm

/-- the backslash of the first token meets the letter of the last one, as the tokens between them leave no trace -/
example : controlWords (joinGlyphs [['\\', ' '], [], [' '], ['a']]) = [['\\', 'a']] := by decide

theorem fusions_eq_zero (h : ∀ token ∈ tokens, ¬ EndsInBackslash token) : fusions tokens = 0 := by
  induction tokens with
  | nil => rfl
  | cons token rest ih =>
    have htoken := h token List.mem_cons_self
    rw [fusions, if_neg fun hfused => htoken hfused.1, ih fun t ht => h t (List.mem_cons_of_mem token ht)]

/-- the last token keeps its padding -/
theorem suffix_joinGlyphs (h : last ∈ tokens.getLast?) : last <:+ joinGlyphs tokens := by
  fun_induction joinGlyphs tokens with
  | case1 => cases h
  | case2 token =>
    cases h
    exact List.suffix_rfl
  | case3 token next rest ih =>
    rw [List.getLast?_cons_cons] at h
    exact (ih h).trans (List.suffix_append _ _)

/-- **joining keeps every token apart and loses nothing**: without blanks the tokens are joined as they stand; the control
words are those of the tokens, in order, if no token ends in a backslash; and the last token is left as it was -/
theorem joined_tokens_apart (tokens : List Latex) :
    squash (joinGlyphs tokens) = tokens.flatMap squash ∧
      ((∀ token ∈ tokens, ¬ EndsInBackslash token) →
        controlWords (joinGlyphs tokens) = tokens.flatMap controlWords) ∧
      ∀ last ∈ tokens.getLast?, last <:+ joinGlyphs tokens := by
  refine ⟨squash_joinGlyphs tokens, ?_, ?_⟩
  · intro hends
    exact controlWords_joinGlyphs_iff.2 (fusions_eq_zero hends)
  · intro last hlast
    exact suffix_joinGlyphs hlast

/-- an alpha without padding, two tokens that are empty or blank, and two letters, the last of them padded -/
def unpaddedAlpha : List Latex :=
  [['\\', 'a', 'l', 'p', 'h', 'a'], [], ['\t'], ['x'], ['y', ' ']]

theorem joined_tokens_apart_of_unpadded :
    (∀ token ∈ unpaddedAlpha, ¬ EndsInBackslash token) ∧
      controlWords (joinGlyphs unpaddedAlpha) = [['\\', 'a', 'l', 'p', 'h', 'a']] ∧
      squash (joinGlyphs unpaddedAlpha) = ['\\', 'a', 'l', 'p', 'h', 'a', 'x', 'y'] ∧
      ['y', ' '] <:+ joinGlyphs unpaddedAlpha := by
  have hends : ∀ token ∈ unpaddedAlpha, ¬ EndsInBackslash token := by decide
  obtain ⟨hsquash, hwords, hlast⟩ := joined_tokens_apart unpaddedAlpha
  exact ⟨hends, hwords hends, hsquash, hlast _ rfl⟩

end Untypeset.Latex
