import Untypeset.Latex.Paren
import Untypeset.Proofs.Text.Nesting
import Untypeset.Proofs.Text.Squash

/-!
Loose braces of a source: those that no backslash stands directly before. They delimit groups, and a source is tidy if they
are balanced and each of its backslashes has something solid behind it. The second half is what makes the first survive:
sources can be put next to each other and trimmed without a brace changing sides, from loose to escaped or back.
-/

namespace Untypeset.Latex

open Untypeset.Text

/-- an opening or a closing brace -/
def isBrace (c : Char) : Bool :=
  c = '\x7b' || c = '\x7d'

/-- the loose braces of a source, where `escaped` says whether a backslash stands directly before it -/
def bracesAfter (escaped : Bool) : Latex → Latex
  | [] => []
  | c :: s => (if isBrace c && !escaped then [c] else []) ++ bracesAfter (c = '\\') s

/-- the braces that no backslash stands directly before, in order -/
def looseBraces (s : Latex) : Latex :=
  bracesAfter false s

/-- whether every backslash has a solid character directly behind it -/
def guarded : Latex → Bool
  | [] => true
  | c :: s => (c ≠ '\\' || s.head?.any fun d => !isBlank d) && guarded s

/-- balanced braces, and no backslash that could escape what comes next -/
structure Tidy (s : Latex) : Prop where
  guarded : guarded s = true
  balanced : Balanced '\x7b' '\x7d' (looseBraces s)

instance (s : Latex) : Decidable (Tidy s) :=
  decidable_of_iff (guarded s = true ∧ Balanced '\x7b' '\x7d' (looseBraces s))
    ⟨fun h => ⟨h.1, h.2⟩, fun h => ⟨h.guarded, h.balanced⟩⟩

variable {a b s : Latex}

/-! ## Guarded backslashes -/

theorem guarded_cons {c : Char} :
    guarded (c :: s) = true ↔ (c = '\\' → s.head?.any (fun d => !isBlank d) = true) ∧ guarded s = true := by
  by_cases hc : c = '\\' <;> simp [guarded, hc]

theorem guarded_append (ha : guarded a = true) (hb : guarded b = true) : guarded (a ++ b) = true := by
  induction a with
  | nil => exact hb
  | cons c a ih =>
    obtain ⟨hc, ha⟩ := guarded_cons.1 ha
    refine guarded_cons.2 ⟨fun hback => ?_, ih ha⟩
    cases a with
    | nil => exact absurd (hc hback) (by simp)
    | cons d a => exact hc hback

theorem guarded_of_append (h : guarded (a ++ b) = true) : guarded b = true := by
  induction a with
  | nil => exact h
  | cons c a ih => exact ih (guarded_cons.1 h).2

theorem guarded_trimStart (h : guarded s = true) : guarded (trimStart s) = true := by
  rw [← List.takeWhile_append_dropWhile (p := isBlank) (l := s)] at h
  exact guarded_of_append h

theorem head?_trimEnd_of_solid {c : Char} (hc : isBlank c = false) (h : s.head? = some c) :
    (trimEnd s).head? = some c := by
  cases s with
  | nil => cases h
  | cons d s =>
    cases h
    rw [trimEnd_cons, if_neg (by simp [hc])]
    rfl

theorem guarded_trimEnd (h : guarded s = true) : guarded (trimEnd s) = true := by
  induction s with
  | nil => rfl
  | cons c s ih =>
    obtain ⟨hc, hs⟩ := guarded_cons.1 h
    rw [trimEnd_cons]
    split
    · rfl
    · refine guarded_cons.2 ⟨fun hback => ?_, ih hs⟩
      obtain ⟨d, hd, hsolid⟩ := (Option.any_eq_true _ _).1 (hc hback)
      rw [head?_trimEnd_of_solid (by simpa using hsolid) hd]
      exact hsolid

/-! ## Loose braces -/

theorem isBrace_of_blank {c : Char} (h : isBlank c = true) : isBrace c = false := by
  rw [isBrace, Bool.or_eq_false_iff, decide_eq_false_iff_not, decide_eq_false_iff_not]
  constructor
  · rintro rfl
    cases h
  · rintro rfl
    cases h

/-- behind a guarded source nothing is escaped -/
theorem bracesAfter_append {escaped : Bool} (ha : guarded a = true) (hne : a ≠ []) :
    bracesAfter escaped (a ++ b) = bracesAfter escaped a ++ looseBraces b := by
  induction a generalizing escaped with
  | nil => exact absurd rfl hne
  | cons c a ih =>
    obtain ⟨hc, ha⟩ := guarded_cons.1 ha
    rw [List.cons_append, bracesAfter, bracesAfter, List.append_assoc]
    congr 1
    by_cases ha' : a = []
    · subst ha'
      have hback : c ≠ '\\' := by
        intro hback
        exact absurd (hc hback) (by simp)
      simp [hback, bracesAfter, looseBraces]
    · exact ih ha ha'

theorem looseBraces_append (ha : guarded a = true) : looseBraces (a ++ b) = looseBraces a ++ looseBraces b := by
  by_cases hne : a = []
  · subst hne
    rfl
  · exact bracesAfter_append ha hne

theorem bracesAfter_cons_blank {c : Char} (h : isBlank c = true) (escaped : Bool) :
    bracesAfter escaped (c :: s) = looseBraces s := by
  have hback : c ≠ '\\' := by
    rintro rfl
    cases h
  simp [bracesAfter, isBrace_of_blank h, hback, looseBraces]

theorem looseBraces_trimStart (s : Latex) : looseBraces (trimStart s) = looseBraces s := by
  induction s with
  | nil => rfl
  | cons c s ih =>
    by_cases hc : isBlank c = true
    · rw [looseBraces, looseBraces, bracesAfter_cons_blank hc, ← ih]
      simp [trimStart, hc, looseBraces]
    · simp [trimStart, hc]

theorem bracesAfter_trimEnd (escaped : Bool) (s : Latex) : bracesAfter escaped (trimEnd s) = bracesAfter escaped s := by
  induction s generalizing escaped with
  | nil => rfl
  | cons c s ih =>
    rw [trimEnd_cons]
    split
    · rename_i h
      rw [bracesAfter_cons_blank h.2, looseBraces, ← ih, h.1]
      rfl
    · rw [bracesAfter, bracesAfter, ih]

theorem looseBraces_trimEnd (s : Latex) : looseBraces (trimEnd s) = looseBraces s :=
  bracesAfter_trimEnd false s

/-! ## Tidy sources -/

theorem Tidy.append (ha : Tidy a) (hb : Tidy b) : Tidy (a ++ b) where
  guarded := guarded_append ha.guarded hb.guarded
  balanced := by
    rw [looseBraces_append ha.guarded]
    exact ha.balanced.append hb.balanced

theorem Tidy.group (h : Tidy s) : Tidy ('\x7b' :: s ++ ['\x7d']) := by
  have hguarded : Latex.guarded ('\x7b' :: s) = true := guarded_cons.2 ⟨fun hc => absurd hc (by decide), h.guarded⟩
  have hopening : looseBraces ('\x7b' :: s) = '\x7b' :: looseBraces s := rfl
  refine ⟨guarded_append hguarded (by decide), ?_⟩
  rw [looseBraces_append hguarded, hopening]
  exact h.balanced.wrap (by decide)

theorem Tidy.trimEnd (h : Tidy s) : Tidy (trimEnd s) where
  guarded := guarded_trimEnd h.guarded
  balanced := by
    rw [looseBraces_trimEnd]
    exact h.balanced

theorem Tidy.trim (h : Tidy s) : Tidy (trim s) := by
  refine Tidy.trimEnd ⟨guarded_trimStart h.guarded, ?_⟩
  rw [looseBraces_trimStart]
  exact h.balanced

/-- without backslashes and braces there is nothing to balance -/
theorem Tidy.of_plain (h : ∀ c ∈ s, c ≠ '\\' ∧ isBrace c = false) : Tidy s := by
  induction s with
  | nil => exact ⟨rfl, rfl⟩
  | cons c s ih =>
    obtain ⟨hback, hbrace⟩ := h c List.mem_cons_self
    have hs : Tidy s := ih fun d hd => h d (List.mem_cons_of_mem c hd)
    refine ⟨guarded_cons.2 ⟨fun hc => absurd hc hback, hs.guarded⟩, ?_⟩
    have hskip : looseBraces (c :: s) = looseBraces s := by simp [looseBraces, bracesAfter, hbrace, hback]
    rw [hskip]
    exact hs.balanced

/-! ## Sized parentheses -/

theorem bracesAfter_sizedAfter (escaped : Bool) (before s : Latex) :
    bracesAfter escaped (sizedAfter before s) = bracesAfter escaped s := by
  induction s generalizing escaped before with
  | nil => rfl
  | cons c s ih =>
    -- the words put before parentheses hold no brace, and the parenthesis stands behind them as it did before
    rw [sizedAfter]
    rcases sizedChar_cases before c with ⟨h, -⟩ | ⟨rfl, h⟩ | ⟨rfl, h⟩
    · rw [h, List.singleton_append, bracesAfter, bracesAfter, ih]
    · simp [h, leftWord_eq, bracesAfter, isBrace, ih]
    · simp [h, rightWord_eq, bracesAfter, isBrace, ih]

/-- sizing the parentheses of a source leaves its groups alone -/
theorem looseBraces_sized (s : Latex) : looseBraces (sized s) = looseBraces s :=
  bracesAfter_sizedAfter false [] s

end Untypeset.Latex
