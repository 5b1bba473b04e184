import Untypeset.Latex.Basic

/-!
Sizing of round parentheses. A parenthesis is sized if the control word of its side stands directly before it; `sized`
puts that word before every bare one and leaves all else as it is.
-/

namespace Untypeset.Latex

/-- the control word before a sized opening parenthesis -/
def leftWord : Latex := "\\left".toList

/-- the control word before a sized closing parenthesis -/
def rightWord : Latex := "\\right".toList

/-- whether the characters before a place, nearest first, end in a word -/
def follows (before word : Latex) : Bool :=
  word.reverse.isPrefixOf before

/-- what a character becomes after the characters `before`, nearest first -/
def sizedChar (before : Latex) (c : Char) : Latex :=
  if c = '(' ∧ follows before leftWord = false then leftWord ++ ['(']
  else if c = ')' ∧ follows before rightWord = false then rightWord ++ [')']
  else [c]

/-- sizes the parentheses of a source that stands after the characters `before`, nearest first -/
def sizedAfter (before : Latex) : Latex → Latex
  | [] => []
  | c :: rest => sizedChar before c ++ sizedAfter (c :: before) rest

/-- the source with all its round parentheses sized -/
def sized (s : Latex) : Latex :=
  sizedAfter [] s

theorem leftWord_eq : leftWord = ['\\', 'l', 'e', 'f', 't'] :=
  String.toList_ofList

theorem rightWord_eq : rightWord = ['\\', 'r', 'i', 'g', 'h', 't'] :=
  String.toList_ofList

/-- a parenthesis that stays as it is stands behind the control word of its side already -/
theorem sizedChar_cases (before : Latex) (c : Char) :
    (sizedChar before c = [c] ∧ (c = '(' → follows before leftWord = true) ∧ (c = ')' → follows before rightWord = true)) ∨
      (c = '(' ∧ sizedChar before c = leftWord ++ ['(']) ∨ (c = ')' ∧ sizedChar before c = rightWord ++ [')']) := by
  unfold sizedChar
  split
  · rename_i h
    exact .inr (.inl ⟨h.1, rfl⟩)
  · rename_i hopening
    split
    · rename_i h
      exact .inr (.inr ⟨h.1, rfl⟩)
    · rename_i hclosing
      refine .inl ⟨rfl, fun hc => ?_, fun hc => ?_⟩
      · simpa [hc] using hopening
      · simpa [hc] using hclosing

end Untypeset.Latex
