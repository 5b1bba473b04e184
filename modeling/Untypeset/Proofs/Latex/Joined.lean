import Mathlib.Data.List.Basic
import Untypeset.Latex.Basic
import Untypeset.Proofs.Text.Squash

/-!
Tokens put next to each other. Empty tokens leave no trace (`trimEnd_joinGlyphs`), single characters are joined as they
stand, with or without a space behind each (`joinGlyphs_bare`, `joinGlyphs_padded`), and a source that is a single control
word was joined from one token.
-/

namespace Untypeset.Latex

open Untypeset.Text

variable {a b token : Latex} {tokens : List Latex}

/-! ## Trimming a source of two parts -/

theorem trimEnd_append_of_blank (h : trimEnd b = []) : trimEnd (a ++ b) = trimEnd a := by
  induction a with
  | nil => exact h
  | cons c a ih => rw [List.cons_append, trimEnd_cons, trimEnd_cons, ih]

theorem trimEnd_append_of_ne (h : trimEnd b ≠ []) : trimEnd (a ++ b) = a ++ trimEnd b := by
  induction a with
  | nil => rfl
  | cons c a ih => rw [List.cons_append, trimEnd_cons, ih, if_neg (by simp [h]), List.cons_append]

/-- no blanks stand behind a closing parenthesis -/
theorem trimEnd_append_parenthesized (a b : Latex) : trimEnd (a ++ parenthesized b) = a ++ parenthesized b := by
  rw [parenthesized, ← List.append_assoc, trimEnd_append_of_ne (by decide)]
  rfl

theorem trimEnd_append_congr {b' : Latex} (h : trimEnd b = trimEnd b') : trimEnd (a ++ b) = trimEnd (a ++ b') := by
  by_cases hb : trimEnd b = []
  · rw [trimEnd_append_of_blank hb, trimEnd_append_of_blank (h ▸ hb)]
  · rw [trimEnd_append_of_ne hb, trimEnd_append_of_ne (h ▸ hb), h]

theorem trimEnd_separated (token : Latex) : trimEnd (separated token) = trimEnd token := by
  unfold separated
  dsimp only
  split
  · rw [trimEnd_append_of_blank rfl, trimEnd_trimEnd]
  · exact trimEnd_trimEnd token

/-- a token that does not start with a blank is empty or solid at its start -/
theorem trimEnd_ne_nil (hstart : trimStart token = token) (h : token ≠ []) : trimEnd token ≠ [] := by
  intro hend
  have hsquash : squash token = [] := trimEnd_eq_nil_iff.1 hend
  cases token with
  | nil => exact h rfl
  | cons c s =>
    have hc : isBlank c = true := squash_eq_nil_iff.1 hsquash c List.mem_cons_self
    have hlength := congrArg List.length hstart
    rw [trimStart, List.dropWhile_cons_of_pos hc] at hlength
    have := (List.dropWhile_sublist isBlank (l := s)).length_le
    rw [List.length_cons] at hlength
    omega

/-! ## Empty tokens -/

/-- **empty tokens leave no trace** -/
theorem trimEnd_joinGlyphs (tokens : List Latex) :
    trimEnd (joinGlyphs tokens) = trimEnd (joinGlyphs (tokens.filter (· ≠ []))) := by
  induction tokens with
  | nil => rfl
  | cons token rest ih =>
    by_cases hrest : rest = []
    · subst hrest
      by_cases htoken : token = [] <;> simp [htoken]
    · rw [joinGlyphs_cons hrest]
      by_cases htoken : token = []
      · rw [htoken, List.filter_cons_of_neg (by simp), ← ih]
        rfl
      · rw [List.filter_cons_of_pos (by simpa using htoken)]
        by_cases hloud : rest.filter (· ≠ []) = []
        · rw [hloud] at ih ⊢
          rw [trimEnd_append_of_blank ih, joinGlyphs_singleton, trimEnd_separated]
        · rw [joinGlyphs_cons hloud]
          exact trimEnd_append_congr ih

theorem trimStart_separated (hstart : trimStart token = token) (h : token ≠ []) (s : Latex) :
    trimStart (separated token ++ s) = separated token ++ s := by
  have hend := trimEnd_ne_nil hstart h
  obtain ⟨c, rest, hc⟩ := List.exists_cons_of_ne_nil hend
  have hsolid : isBlank c = false := by
    obtain ⟨tail, htail, -⟩ := exists_eq_trimEnd_append token
    rw [hc] at htail
    rw [htail, List.cons_append, trimStart] at hstart
    by_contra hblank
    rw [List.dropWhile_cons_of_pos (by simpa using hblank)] at hstart
    have hlength := congrArg List.length hstart
    have := (List.dropWhile_sublist isBlank (l := rest ++ tail)).length_le
    rw [List.length_cons] at hlength
    omega
  have hseparated : ∃ more, separated token = c :: more := by
    unfold separated
    dsimp only
    rw [hc]
    split <;> exact ⟨_, rfl⟩
  obtain ⟨more, hmore⟩ := hseparated
  rw [hmore, List.cons_append, trimStart, List.dropWhile_cons_of_neg (by simp [hsolid])]

/-- nothing blank comes first if no token starts with a blank -/
theorem trimStart_joinGlyphs (h : ∀ token ∈ tokens, trimStart token = token) :
    trimStart (joinGlyphs tokens) = joinGlyphs tokens := by
  induction tokens with
  | nil => rfl
  | cons token rest ih =>
    have hrest' := ih fun t ht => h t (List.mem_cons_of_mem token ht)
    by_cases hrest : rest = []
    · subst hrest
      exact h token List.mem_cons_self
    · rw [joinGlyphs_cons hrest]
      by_cases htoken : token = []
      · rw [htoken]
        exact hrest'
      · exact trimStart_separated (h token List.mem_cons_self) htoken _

theorem mem_joinGlyphs {c : Char} (h : c ∈ joinGlyphs tokens) : c = ' ' ∨ ∃ token ∈ tokens, c ∈ token := by
  induction tokens with
  | nil => cases h
  | cons token rest ih =>
    by_cases hrest : rest = []
    · subst hrest
      exact .inr ⟨token, List.mem_cons_self, h⟩
    · rw [joinGlyphs_cons hrest] at h
      rcases List.mem_append.1 h with h | h
      · have hbare : c ∈ trimEnd token ∨ c = ' ' := by
          unfold separated at h
          dsimp only at h
          split at h
          · simpa using h
          · exact .inl h
        rcases hbare with hbare | hbare
        · exact .inr ⟨token, List.mem_cons_self, mem_trimEnd hbare⟩
        · exact .inl hbare
      · rcases ih h with h | ⟨t, ht, hc⟩
        · exact .inl h
        · exact .inr ⟨t, List.mem_cons_of_mem token ht, hc⟩

theorem squash_separated (token : Latex) : squash (separated token) = squash token := by
  unfold separated
  dsimp only
  split
  · rw [squash_append, squash_trimEnd, squash_cons_blank (by decide), squash_nil, List.append_nil]
  · exact squash_trimEnd token

/-- but for blanks, tokens are joined as they stand -/
theorem squash_joinGlyphs (tokens : List Latex) : squash (joinGlyphs tokens) = tokens.flatMap squash := by
  induction tokens with
  | nil => rfl
  | cons token rest ih =>
    by_cases hrest : rest = []
    · subst hrest
      simp
    · rw [joinGlyphs_cons hrest, squash_append, squash_separated, ih, List.flatMap_cons]

/-! ## Single characters -/

theorem endsInControlWord_singleton (c : Char) : endsInControlWord [c] = false := by
  by_cases h : isAsciiLetter c <;> simp [endsInControlWord, h]

theorem separated_of_trimEnd {c : Char} (h : trimEnd token = [c]) : separated token = [c] := by
  rw [separated, h, endsInControlWord_singleton]
  rfl

/-- solid characters are joined as they stand -/
theorem joinGlyphs_bare {cs : List Char} (h : Solid cs) : joinGlyphs (cs.map fun c => [c]) = cs := by
  induction cs with
  | nil => rfl
  | cons c rest ih =>
    have hrest : Solid rest := by
      intro d hd
      exact h d (List.mem_cons_of_mem c hd)
    have hc : isBlank c = false := h c List.mem_cons_self
    rw [List.map_cons]
    by_cases hnil : rest = []
    · subst hnil
      rfl
    · rw [joinGlyphs_cons (by simpa using hnil), ih hrest, separated_of_trimEnd (trimEnd_of_solid (by simpa [Solid] using hc))]
      rfl

/-- solid characters with a space behind each are joined to themselves, and the last space stays -/
theorem joinGlyphs_padded {cs : List Char} (h : Solid cs) (hne : cs ≠ []) :
    joinGlyphs (cs.map fun c => [c, ' ']) = cs ++ [' '] := by
  induction cs with
  | nil => exact absurd rfl hne
  | cons c rest ih =>
    have hrest : Solid rest := by
      intro d hd
      exact h d (List.mem_cons_of_mem c hd)
    have hc : isBlank c = false := h c List.mem_cons_self
    have hend : trimEnd [c, ' '] = [c] := by
      rw [trimEnd_cons, if_neg (by simp [hc])]
      rfl
    rw [List.map_cons]
    by_cases hnil : rest = []
    · subst hnil
      rfl
    · rw [joinGlyphs_cons (by simpa using hnil), ih hrest hnil, separated_of_trimEnd hend]
      rfl

end Untypeset.Latex
