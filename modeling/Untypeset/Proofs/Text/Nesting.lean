/-!
Nesting of an opening and a closing character. `nesting` counts what is open while a text is read and breaks off where
something is closed that is not open; a text is balanced if it never breaks off and leaves nothing open. A text refines
another if it can be read wherever the other can, to the same effect (`Refines`); this is what can be said of slices of a
balanced text, which need not be balanced themselves.
-/

namespace Untypeset.Text

/-- how many are open behind a text if `depth` are open before it; none if more are closed than are open -/
def nesting (opening closing : Char) : Nat → List Char → Option Nat
  | depth, [] => some depth
  | depth, c :: s =>
    if c = opening then nesting opening closing (depth + 1) s
    else if c = closing then
      match depth with
      | 0 => none
      | depth + 1 => nesting opening closing depth s
    else nesting opening closing depth s

/-- every closing character closes an opening one before it, and every opening one is closed -/
def Balanced (opening closing : Char) (s : List Char) : Prop :=
  nesting opening closing 0 s = some 0

instance (opening closing : Char) (s : List Char) : Decidable (Balanced opening closing s) :=
  inferInstanceAs (Decidable (_ = _))

variable {opening closing : Char} {a b s : List Char}

theorem nesting_append (depth : Nat) (a b : List Char) :
    nesting opening closing depth (a ++ b) = (nesting opening closing depth a).bind fun d => nesting opening closing d b := by
  induction a generalizing depth with
  | nil => rfl
  | cons c a ih =>
    simp only [List.cons_append, nesting]
    split
    · exact ih _
    · split
      · cases depth with
        | zero => rfl
        | succ depth => exact ih _
      · exact ih _

/-- what is open around a text stays open behind it -/
theorem nesting_add {depth left : Nat} (around : Nat) (h : nesting opening closing depth s = some left) :
    nesting opening closing (depth + around) s = some (left + around) := by
  induction s generalizing depth with
  | nil =>
    cases h
    rfl
  | cons c s ih =>
    simp only [nesting] at h ⊢
    split at h
    · rename_i hc
      rw [if_pos hc, show depth + around + 1 = depth + 1 + around by omega]
      exact ih h
    · rename_i hopening
      rw [if_neg hopening]
      split at h
      · rename_i hc
        rw [if_pos hc]
        cases depth with
        | zero => cases h
        | succ depth =>
          rw [show depth + 1 + around = depth + around + 1 by omega]
          exact ih h
      · rename_i hc
        rw [if_neg hc]
        exact ih h

theorem Balanced.nil : Balanced opening closing [] := rfl

theorem Balanced.append (ha : Balanced opening closing a) (hb : Balanced opening closing b) :
    Balanced opening closing (a ++ b) := by
  rw [Balanced, nesting_append, ha]
  exact hb

theorem Balanced.wrap (h : Balanced opening closing s) (hne : closing ≠ opening) :
    Balanced opening closing (opening :: s ++ [closing]) := by
  have hinside : nesting opening closing 1 s = some 1 := by simpa using nesting_add 1 h
  rw [Balanced, List.cons_append, nesting, if_pos rfl, nesting_append, hinside]
  simp [nesting, hne]

/-! ## Counts -/

/-- what is opened and not closed is left open -/
theorem count_of_nesting {depth left : Nat} (hne : closing ≠ opening) (h : nesting opening closing depth s = some left) :
    depth + s.count opening = left + s.count closing := by
  induction s generalizing depth with
  | nil =>
    cases h
    rfl
  | cons c s ih =>
    simp only [nesting] at h
    split at h
    · rename_i hc
      have hrest := ih h
      rw [hc, List.count_cons_self, List.count_cons_of_ne hne.symm]
      omega
    · rename_i hopening
      split at h
      · rename_i hc
        cases depth with
        | zero => cases h
        | succ depth =>
          have hrest := ih h
          rw [hc, List.count_cons_self, List.count_cons_of_ne hne]
          omega
      · rename_i hclosing
        rw [List.count_cons_of_ne hopening, List.count_cons_of_ne hclosing]
        exact ih h

theorem Balanced.count_eq (hne : closing ≠ opening) (h : Balanced opening closing s) :
    s.count opening = s.count closing := by
  simpa using count_of_nesting hne h

/-- at no place of a balanced text, more have been closed than opened -/
theorem Balanced.count_le_of_prefix (hne : closing ≠ opening) (h : Balanced opening closing s) (ha : a <+: s) :
    a.count closing ≤ a.count opening := by
  obtain ⟨rest, rfl⟩ := ha
  rw [Balanced, nesting_append] at h
  obtain ⟨left, hleft, -⟩ := Option.bind_eq_some_iff.1 h
  have hcount := count_of_nesting hne hleft
  omega

/-! ## Refinement -/

/-- wherever `a` can be read, `b` can, and leaves as much open -/
def Refines (opening closing : Char) (a b : List Char) : Prop :=
  ∀ depth left, nesting opening closing depth a = some left → nesting opening closing depth b = some left

theorem Refines.refl (a : List Char) : Refines opening closing a a :=
  fun _ _ h => h

theorem Refines.append {a' b' : List Char} (ha : Refines opening closing a a') (hb : Refines opening closing b b') :
    Refines opening closing (a ++ b) (a' ++ b') := by
  intro depth left h
  rw [nesting_append] at h ⊢
  obtain ⟨between, hfirst, hsecond⟩ := Option.bind_eq_some_iff.1 h
  rw [ha depth between hfirst]
  exact hb between left hsecond

theorem Refines.flatMap {α : Type} {list : List α} {f g : α → List Char}
    (h : ∀ x ∈ list, Refines opening closing (f x) (g x)) :
    Refines opening closing (list.flatMap f) (list.flatMap g) := by
  induction list with
  | nil => exact .refl []
  | cons x rest ih =>
    rw [List.flatMap_cons, List.flatMap_cons]
    exact (h x List.mem_cons_self).append (ih fun y hy => h y (List.mem_cons_of_mem x hy))

/-- a pair around a text changes nothing for what is around it, whether or not the text is balanced -/
theorem Refines.wrap (h : Refines opening closing a b) (hne : closing ≠ opening) :
    Refines opening closing a (opening :: b ++ [closing]) := by
  intro depth left hread
  have hinside : nesting opening closing (depth + 1) b = some (left + 1) := nesting_add 1 (h depth left hread)
  have hopening : nesting opening closing depth (opening :: (b ++ [closing])) =
      nesting opening closing (depth + 1) (b ++ [closing]) := by simp [nesting]
  rw [List.cons_append, hopening, nesting_append, hinside]
  simp [nesting, hne]

theorem Balanced.of_refines (h : Refines opening closing a b) (ha : Balanced opening closing a) :
    Balanced opening closing b :=
  h 0 0 ha

/-- what is balanced can be read anywhere -/
theorem Balanced.refines (h : Balanced opening closing s) : Refines opening closing [] s := by
  rintro depth _ ⟨⟩
  simpa using nesting_add depth h

/-- and leaves open what was open before it -/
theorem Balanced.refined (h : Balanced opening closing s) : Refines opening closing s [] := by
  intro depth left hread
  have hdepth := nesting_add depth h
  rw [Nat.zero_add, hread] at hdepth
  rw [nesting, Option.some.inj hdepth]

/-- without the pair around it, a single character is to the same effect -/
theorem Refines.unwrap_singleton (hne : closing ≠ opening) (c : Char) :
    Refines opening closing (opening :: [c] ++ [closing]) [c] := by
  intro depth left hread
  by_cases hopening : c = opening
  · simpa [nesting, hopening, hne] using hread
  · by_cases hclosing : c = closing
    · cases depth with
      | zero => simp [nesting, hclosing, hne] at hread
      | succ depth => simpa [nesting, hclosing, hne] using hread
    · simpa [nesting, hopening, hclosing, hne] using hread

end Untypeset.Text
