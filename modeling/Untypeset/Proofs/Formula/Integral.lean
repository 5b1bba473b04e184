import Untypeset.Proofs.Latex.Joined
import Untypeset.Proofs.Symbol.Tokens

/-!
The test for an integral sign. Glyphs are joined to the control word of the sign exactly if the only one of them that leaves
a trace is the sign itself (`trim_joinGlyphs_eq_integral`): the start of the control word that another token might supply is
kept apart from what follows by the space behind a control word.
-/

namespace Untypeset

open Untypeset.Latex Untypeset.Symbol Untypeset.Text

variable {token : Char → Latex} {cs : List Char}

/-- the characters that leave a trace -/
def loud (token : Char → Latex) (cs : List Char) : List Char :=
  cs.filter fun c => token c ≠ []

theorem filter_tokens (token : Char → Latex) (cs : List Char) :
    (cs.map token).filter (· ≠ []) = (loud token cs).map token := by
  rw [List.filter_map]
  rfl

/-- no two tokens together make the control word of the integral sign -/
theorem separated_append_ne {t s : Latex} (ht : trimEnd t ≠ []) (hs : s ≠ []) (hback : trimEnd t ≠ ['\\']) :
    separated t ++ s ≠ integralWord := by
  intro h
  unfold separated at h
  dsimp only at h
  by_cases hword : endsInControlWord (trimEnd t) = true
  · rw [if_pos hword, List.append_assoc] at h
    have hspace : ' ' ∈ integralWord := by
      rw [← h]
      simp
    exact absurd hspace (by decide)
  · rw [if_neg hword] at h
    -- the bare token would be a proper start of the control word
    have hlength := congrArg List.length h
    have htake : trimEnd t = integralWord.take (trimEnd t).length := by rw [← h, List.take_left]
    rw [List.length_append] at hlength
    have ht' := List.length_pos_iff.2 ht
    have hs' := List.length_pos_iff.2 hs
    have hfour : integralWord.length = 4 := rfl
    have hthree : (trimEnd t).length = 1 ∨ (trimEnd t).length = 2 ∨ (trimEnd t).length = 3 := by omega
    rcases hthree with hlen | hlen | hlen <;> rw [hlen] at htake
    · exact hback htake
    · rw [htake] at hword
      exact hword (by decide)
    · rw [htake] at hword
      exact hword (by decide)

theorem trimEnd_token_ne_nil {c : Char} (h : Settled c (token c)) (hc : token c ≠ []) : trimEnd (token c) ≠ [] :=
  trimEnd_ne_nil h.start hc

theorem trimEnd_joinGlyphs_ne_nil {c : Char} {rest : List Char} (h : ∀ d ∈ c :: rest, Settled d (token d))
    (hloud : ∀ d ∈ c :: rest, token d ≠ []) : trimEnd (joinGlyphs ((c :: rest).map token)) ≠ [] := by
  have hhead := trimEnd_token_ne_nil (h c List.mem_cons_self) (hloud c List.mem_cons_self)
  rw [List.map_cons]
  by_cases hrest : rest.map token = []
  · rw [hrest]
    exact hhead
  · rw [joinGlyphs_cons hrest]
    intro hempty
    rw [trimEnd_eq_nil_iff, squash_append, List.append_eq_nil_iff] at hempty
    rw [← trimEnd_separated] at hhead
    exact hhead (trimEnd_eq_nil_iff.2 hempty.1)

/-- **only an integral sign reads as one** -/
theorem trim_joinGlyphs_eq_integral (h : ∀ c ∈ cs, Settled c (token c)) (hback : ∀ c ∈ cs, trimEnd (token c) ≠ ['\\']) :
    trim (joinGlyphs (cs.map token)) = integralWord ↔ loud token cs = ['∫'] := by
  have hstart : trimStart (joinGlyphs (cs.map token)) = joinGlyphs (cs.map token) :=
    trimStart_joinGlyphs fun t ht => by
      obtain ⟨c, hc, rfl⟩ := List.mem_map.1 ht
      exact (h c hc).start
  have hsettled : ∀ c ∈ loud token cs, Settled c (token c) := by
    intro c hc
    exact h c (List.mem_filter.1 hc).1
  have hback' : ∀ c ∈ loud token cs, trimEnd (token c) ≠ ['\\'] := by
    intro c hc
    exact hback c (List.mem_filter.1 hc).1
  have hne : ∀ c ∈ loud token cs, token c ≠ [] := by
    intro c hc
    simpa using (List.mem_filter.1 hc).2
  rw [trim, hstart, trimEnd_joinGlyphs, filter_tokens]
  revert hsettled hback' hne
  generalize loud token cs = shown
  intro hsettled hback' hne
  rcases shown with _ | ⟨c, _ | ⟨d, rest⟩⟩
  · simp [trimEnd_nil, integralWord]
  · simpa using (hsettled c List.mem_cons_self).word
  · have hrest := trimEnd_joinGlyphs_ne_nil (fun x hx => hsettled x (List.mem_cons_of_mem c hx))
      fun x hx => hne x (List.mem_cons_of_mem c hx)
    have hc := trimEnd_token_ne_nil (hsettled c List.mem_cons_self) (hne c List.mem_cons_self)
    rw [List.map_cons, joinGlyphs_cons (by simp), trimEnd_append_of_ne hrest]
    refine iff_of_false ?_ (by simp)
    exact separated_append_ne hc hrest (hback' c List.mem_cons_self)

theorem sign_not_mem_joinGlyphs (h : ∀ c ∈ cs, Settled c (token c)) : '∫' ∉ joinGlyphs (cs.map token) := by
  intro hmem
  rcases mem_joinGlyphs hmem with hspace | ⟨t, ht, hsign⟩
  · exact absurd hspace (by decide)
  · obtain ⟨c, hc, rfl⟩ := List.mem_map.1 ht
    exact (h c hc).sign hsign

/-- no function macro reads as an integral sign -/
theorem trim_functionMacro_ne {name : Latex} (h : SymbolTable.default.isFunction name = true) :
    trim (functionMacro name) ≠ integralWord ∧ trim (functionMacro name) ≠ ['∫'] := by
  have all : ∀ f ∈ spelledFunctions.1, trim ('\\' :: f ++ [' ']) ≠ integralWord ∧ trim ('\\' :: f ++ [' ']) ≠ ['∫'] := by
    decide
  exact all _ (mem_of_isFunction h)

/-- content reads as an integral sign exactly if it did before a function was looked for in it -/
theorem trim_functionOr_eq_iff {s word : Latex} (hword : word = integralWord ∨ word = ['∫']) :
    trim (SymbolTable.default.functionOr s) = word ↔ trim s = word := by
  unfold SymbolTable.functionOr
  split
  · rename_i hfun
    have hname : functionMacro s = functionMacro (trim s) := by rw [functionMacro, functionMacro, trim_trim]
    have hne := trim_functionMacro_ne hfun
    have hwords : SymbolTable.default.isFunction integralWord = false ∧ SymbolTable.default.isFunction ['∫'] = false := by
      rw [isFunction_default, isFunction_default]
      decide
    rw [hname]
    refine iff_of_false ?_ ?_
    · rcases hword with rfl | rfl
      · exact hne.1
      · exact hne.2
    · rintro rfl
      rcases hword with h | h
      · rw [h, hwords.1] at hfun
        cases hfun
      · rw [h, hwords.2] at hfun
        cases hfun
  · rfl

end Untypeset
