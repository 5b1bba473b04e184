import Mathlib.Data.Bool.AllAny
import Untypeset.Text.Blank

/-!
Texts without their blanks. `squash` deletes every blank of a text, and trimming is invisible to it (`squash_trim`). What a
trimmed text is can be read off the squashed one where that holds at most one character (`trim_eq_nil_iff`,
`trim_eq_singleton_iff`), and a text without blanks is its own trimming (`trim_of_solid`).
-/

namespace Untypeset.Text

/-- the text without any blanks -/
def squash (s : List Char) : List Char :=
  s.filter fun c => !isBlank c

/-- a text that holds no blank -/
def Solid (s : List Char) : Prop :=
  ∀ c ∈ s, isBlank c = false

instance (s : List Char) : Decidable (Solid s) :=
  decidable_of_iff (s.all fun c => isBlank c = false) List.all_iff_forall_prop

@[simp] theorem squash_nil : squash [] = [] := rfl

@[simp] theorem squash_append (a b : List Char) : squash (a ++ b) = squash a ++ squash b := by
  simp [squash]

theorem squash_cons (c : Char) (s : List Char) : squash (c :: s) = if isBlank c then squash s else c :: squash s := by
  by_cases h : isBlank c <;> simp [squash, h]

theorem squash_cons_blank {c : Char} (h : isBlank c = true) (s : List Char) : squash (c :: s) = squash s := by
  rw [squash_cons, if_pos h]

theorem squash_cons_solid {c : Char} (h : isBlank c = false) (s : List Char) : squash (c :: s) = c :: squash s := by
  simp [squash_cons, h]

theorem squash_of_solid {s : List Char} (h : Solid s) : squash s = s := by
  rw [squash, List.filter_eq_self]
  intro c hc
  simp [h c hc]

theorem squash_eq_nil_iff {s : List Char} : squash s = [] ↔ ∀ c ∈ s, isBlank c = true := by
  simp [squash]

theorem not_mem_of_squash {c : Char} {s : List Char} (hc : isBlank c = false) (h : squash s = []) : c ∉ s := by
  intro hmem
  rw [squash_eq_nil_iff.1 h c hmem] at hc
  cases hc

theorem count_squash {c : Char} (hc : isBlank c = false) (s : List Char) : (squash s).count c = s.count c := by
  rw [squash, List.count_filter (by rw [hc]; rfl)]

/-! ## Trimming -/

theorem trimEnd_cons (c : Char) (s : List Char) :
    trimEnd (c :: s) = if trimEnd s = [] ∧ isBlank c = true then [] else c :: trimEnd s := by
  rw [trimEnd, trimEnd, dropEndWhile]
  split
  · rename_i h
    by_cases hc : isBlank c <;> simp [h, hc]
  · rename_i kept d rest h
    simp [h]

theorem squash_trimEnd (s : List Char) : squash (trimEnd s) = squash s := by
  induction s with
  | nil => rfl
  | cons c s ih =>
    rw [trimEnd_cons]
    split
    · rename_i h
      rw [squash_cons_blank h.2, ← ih, h.1]
    · rw [squash_cons, squash_cons, ih]

theorem squash_trimStart (s : List Char) : squash (trimStart s) = squash s := by
  induction s with
  | nil => rfl
  | cons c s ih =>
    by_cases h : isBlank c
    · rw [squash_cons_blank h, ← ih]
      simp [trimStart, h]
    · simp [trimStart, h]

@[simp] theorem squash_trim (s : List Char) : squash (trim s) = squash s := by
  rw [trim, squash_trimEnd, squash_trimStart]

theorem trimEnd_eq_nil_iff {s : List Char} : trimEnd s = [] ↔ squash s = [] := by
  induction s with
  | nil => simp [trimEnd_nil]
  | cons c s ih =>
    rw [trimEnd_cons, squash_cons]
    by_cases hc : isBlank c <;> simp [hc, ih]

theorem trim_eq_nil_iff {s : List Char} : trim s = [] ↔ squash s = [] := by
  rw [trim, trimEnd_eq_nil_iff, squash_trimStart]

theorem trim_cons_blank {c : Char} (h : isBlank c = true) (s : List Char) : trim (c :: s) = trim s := by
  simp [trim, trimStart, h]

theorem trim_cons_solid {c : Char} (h : isBlank c = false) (s : List Char) : trim (c :: s) = c :: trimEnd s := by
  rw [trim, trimStart, List.dropWhile_cons_of_neg (by simp [h]), trimEnd_cons, if_neg (by simp [h])]

theorem trimEnd_trimEnd (s : List Char) : trimEnd (trimEnd s) = trimEnd s := by
  induction s with
  | nil => rfl
  | cons c s ih =>
    rw [trimEnd_cons]
    split
    · rfl
    · rename_i h
      rw [trimEnd_cons, ih, if_neg h]

theorem trim_trim (s : List Char) : trim (trim s) = trim s := by
  induction s with
  | nil => rfl
  | cons c s ih =>
    by_cases hc : isBlank c = true
    · rw [trim_cons_blank hc, ih]
    · simp only [Bool.not_eq_true] at hc
      rw [trim_cons_solid hc, trim_cons_solid hc, trimEnd_trimEnd]

theorem trim_eq_singleton_iff {s : List Char} {c : Char} : trim s = [c] ↔ squash s = [c] := by
  induction s with
  | nil => simp [trim, trimStart, trimEnd_nil]
  | cons d s ih =>
    by_cases hd : isBlank d
    · rw [trim_cons_blank hd, squash_cons_blank hd, ih]
    · simp only [Bool.not_eq_true] at hd
      rw [trim_cons_solid hd, squash_cons_solid hd, List.cons.injEq, List.cons.injEq, trimEnd_eq_nil_iff]

theorem trimEnd_of_solid {s : List Char} (h : Solid s) : trimEnd s = s := by
  induction s with
  | nil => rfl
  | cons c s ih =>
    rw [trimEnd_cons, if_neg (by simp [h c List.mem_cons_self]), ih fun d hd => h d (List.mem_cons_of_mem c hd)]

theorem trim_of_solid {s : List Char} (h : Solid s) : trim s = s := by
  cases s with
  | nil => rfl
  | cons c s =>
    rw [trim_cons_solid (h c List.mem_cons_self), trimEnd_of_solid fun d hd => h d (List.mem_cons_of_mem c hd)]

/-- what `trimEnd` drops is blank -/
theorem exists_eq_trimEnd_append (s : List Char) : ∃ tail, s = trimEnd s ++ tail ∧ squash tail = [] := by
  obtain ⟨tail, htail⟩ := trimEnd_prefix s
  refine ⟨tail, htail.symm, ?_⟩
  have h : squash (trimEnd s) ++ squash tail = squash (trimEnd s) := by
    rw [← squash_append, htail, squash_trimEnd]
  exact List.append_right_eq_self.1 h

/-- what `trimStart` drops is blank -/
theorem exists_eq_append_trimStart (s : List Char) : ∃ head, s = head ++ trimStart s ∧ squash head = [] := by
  refine ⟨s.takeWhile isBlank, List.takeWhile_append_dropWhile.symm, ?_⟩
  exact squash_eq_nil_iff.2 fun c hc => List.all_eq_true.1 List.all_takeWhile c hc

/-- what `trim` drops on either side is blank -/
theorem exists_eq_append_trim_append (s : List Char) :
    ∃ head tail, s = head ++ trim s ++ tail ∧ squash head = [] ∧ squash tail = [] := by
  obtain ⟨tail, htail, hblank⟩ := exists_eq_trimEnd_append (trimStart s)
  obtain ⟨head, hhead, hstart⟩ := exists_eq_append_trimStart s
  refine ⟨head, tail, ?_, hstart, hblank⟩
  rw [List.append_assoc, trim, ← htail, ← hhead]

theorem mem_trim {c : Char} {s : List Char} (h : c ∈ trim s) : c ∈ s := by
  obtain ⟨head, tail, hs, -, -⟩ := exists_eq_append_trim_append s
  rw [hs]
  simp [h]

theorem mem_trimEnd {c : Char} {s : List Char} (h : c ∈ trimEnd s) : c ∈ s :=
  ( trimEnd_prefix s).subset h

end Untypeset.Text
