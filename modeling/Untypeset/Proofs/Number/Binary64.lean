import Mathlib.Data.List.Pairwise
import Mathlib.Data.List.Nodup
import Mathlib.Data.Prod.Lex
import Untypeset.Number.Binary64

/-!
The order of double-precision numbers. Apart from the value that is not a number, it is a linear order, that of the rank of a
number among the finite ones and both infinities (`less_iff`), and numbers of one rank are equal (`rank_injective`). So
sorting by a number that is one puts nothing before a smaller one, keeps equal ones in their order, and if there are no equal
ones gives one list for every order of the same elements.
-/

namespace Untypeset.Number.Binary64

variable {a b : Binary64}

theorem less_self (a : Binary64) : a.less a = false := by
  cases a with
  | finite => simp [less]
  | infinity negative => cases negative <;> rfl
  | nan => rfl

theorem less_asymm (h : a.less b = true) : b.less a = false := by
  cases a with
  | finite =>
    cases b with
    | finite =>
      simp only [less, decide_eq_true_eq] at h
      simpa [less] using Int.le_of_lt h
    | infinity negative =>
      cases negative
      · rfl
      · cases h
    | nan => cases h
  | infinity negative =>
    cases b with
    | finite =>
      cases negative
      · cases h
      · rfl
    | infinity other => cases negative <;> cases other <;> first | rfl | cases h
    | nan => cases h
  | nan => cases b <;> cases h

/-- the rank of a number: which side of the finite ones it is on, and where among them; the value that is not a number is ranked
somewhere -/
def rank : Binary64 → Int ×ₗ Int
  | .finite units => toLex (0, units)
  | .infinity true => toLex (-1, 0)
  | .infinity false => toLex (1, 0)
  | .nan => toLex (-1, 0)

theorem less_iff (ha : a ≠ .nan) (hb : b ≠ .nan) : a.less b = true ↔ a.rank < b.rank := by
  rcases a with m | negative | _
  · rcases b with n | negative | _
    · simp [less, rank, Prod.Lex.toLex_lt_toLex]
    · cases negative <;> simp [less, rank, Prod.Lex.toLex_lt_toLex]
    · exact absurd rfl hb
  · rcases b with n | other | _
    · cases negative <;> simp [less, rank, Prod.Lex.toLex_lt_toLex]
    · cases negative <;> cases other <;> simp [less, rank, Prod.Lex.toLex_lt_toLex]
    · exact absurd rfl hb
  · exact absurd rfl ha

theorem rank_injective (ha : a ≠ .nan) (hb : b ≠ .nan) (h : a.rank = b.rank) : a = b := by
  rcases a with m | negative | _
  · rcases b with n | negative | _
    · rw [rank, rank, toLex_inj, Prod.mk.injEq] at h
      rw [h.2]
    · cases negative <;> simp [rank] at h
    · exact absurd rfl hb
  · rcases b with n | other | _
    · cases negative <;> simp [rank] at h
    · cases negative <;> cases other <;> first | rfl | simp [rank] at h
    · exact absurd rfl hb
  · exact absurd rfl ha

/-! ## Sorting -/

variable {α : Type} {f : α → Binary64} {l l' : List α}

/-- sorted by a number, the least one first -/
def sortedBy (f : α → Binary64) (l : List α) : List α :=
  l.mergeSort fun a b => !(f b).less (f a)

theorem sortedBy_perm (f : α → Binary64) (l : List α) : (sortedBy f l).Perm l :=
  List.mergeSort_perm l _

theorem map_sortedBy {β : Type} {g : β → Binary64} {h : α → β} (hgh : ∀ a ∈ l, g (h a) = f a) :
    (sortedBy f l).map h = sortedBy g (l.map h) := by
  refine List.map_mergeSort fun a ha b hb => ?_
  rw [hgh a ha, hgh b hb]

theorem sortedBy_eq_of_forall_mem {g : α → Binary64} (h : ∀ a ∈ l, g a = f a) : sortedBy f l = sortedBy g l := by
  have hsame := map_sortedBy (h := id) h
  rwa [List.map_id, List.map_id] at hsame

/-- where all are numbers, the ranks are what is sorted by -/
theorem sortedBy_eq_mergeSort (h : ∀ a ∈ l, f a ≠ .nan) :
    sortedBy f l = l.mergeSort fun a b => decide ((f a).rank ≤ (f b).rank) := by
  rw [sortedBy, ← List.map_id (l.mergeSort _), List.map_mergeSort (s := fun a b => decide ((f a).rank ≤ (f b).rank)),
    List.map_id]
  intro a ha b hb
  rw [id, id, Bool.eq_iff_iff, Bool.not_eq_true', decide_eq_true_iff, ← not_lt, ← less_iff (h b hb) (h a ha),
    Bool.not_eq_true]

theorem rank_le_trans (a b c : α) (hab : decide ((f a).rank ≤ (f b).rank) = true)
    (hbc : decide ((f b).rank ≤ (f c).rank) = true) : decide ((f a).rank ≤ (f c).rank) = true := by
  rw [decide_eq_true_iff] at hab hbc ⊢
  exact hab.trans hbc

theorem rank_le_total (a b : α) : (decide ((f a).rank ≤ (f b).rank) || decide ((f b).rank ≤ (f a).rank)) = true := by
  rw [Bool.or_eq_true, decide_eq_true_iff, decide_eq_true_iff]
  exact le_total _ _

theorem sortedBy_pairwise_rank (h : ∀ a ∈ l, f a ≠ .nan) : (sortedBy f l).Pairwise fun a b => (f a).rank ≤ (f b).rank := by
  rw [sortedBy_eq_mergeSort h]
  exact (List.pairwise_mergeSort rank_le_trans rank_le_total l).imp of_decide_eq_true

/-- nothing comes before a smaller one -/
theorem sortedBy_pairwise (h : ∀ a ∈ l, f a ≠ .nan) : (sortedBy f l).Pairwise fun a b => (f b).less (f a) = false := by
  refine (sortedBy_pairwise_rank h).imp_of_mem fun {a b} ha hb hle => ?_
  rw [← Bool.not_eq_true, less_iff (h b ((sortedBy_perm f l).mem_iff.1 hb)) (h a ((sortedBy_perm f l).mem_iff.1 ha)), not_lt]
  exact hle

/-- equal ones keep their order -/
theorem filter_sortedBy (h : ∀ a ∈ l, f a ≠ .nan) (x : Binary64) :
    (sortedBy f l).filter (fun a => f a = x) = l.filter fun a => f a = x := by
  have hequal : (l.filter fun a => f a = x).Pairwise fun a b => decide ((f a).rank ≤ (f b).rank) = true := by
    refine List.pairwise_of_forall_mem_list fun a ha b hb => ?_
    rw [decide_eq_true_iff, of_decide_eq_true (List.mem_filter.1 ha).2, of_decide_eq_true (List.mem_filter.1 hb).2]
  have hsublist : (l.filter fun a => f a = x).Sublist (sortedBy f l) := by
    rw [sortedBy_eq_mergeSort h]
    exact List.sublist_mergeSort rank_le_trans rank_le_total hequal List.filter_sublist
  have hfiltered := hsublist.filter fun a => f a = x
  rw [List.filter_filter] at hfiltered
  simp only [Bool.and_self] at hfiltered
  exact (hfiltered.eq_of_length ((sortedBy_perm f l).filter _).length_eq.symm).symm

/-- without equal ones there is one order -/
theorem sortedBy_congr (h : ∀ a ∈ l, f a ≠ .nan) (hnodup : (l.map f).Nodup) (hperm : l.Perm l') :
    sortedBy f l = sortedBy f l' := by
  have h' : ∀ a ∈ l', f a ≠ .nan := fun a ha => h a (hperm.mem_iff.2 ha)
  refine List.Perm.eq_of_pairwise ?_ (sortedBy_pairwise_rank h) (sortedBy_pairwise_rank h')
    ((sortedBy_perm f l).trans (hperm.trans (sortedBy_perm f l').symm))
  intro a b ha hb hab hba
  have ha := (sortedBy_perm f l).mem_iff.1 ha
  have hb := hperm.mem_iff.2 ((sortedBy_perm f l').mem_iff.1 hb)
  exact List.inj_on_of_nodup_map hnodup ha hb (rank_injective (h a ha) (h b hb) (le_antisymm hab hba))

theorem nan_less (a : Binary64) : nan.less a = false := by
  cases a <;> rfl

theorem less_nan (a : Binary64) : a.less nan = false := by
  cases a <;> rfl

/-- what is no number hides that the numbers around it are out of order -/
theorem sortedBy_nan {a b : Binary64} (h : b.less a = false) (c : Binary64) : sortedBy id [a, b, nan, c] = [a, b, nan, c] := by
  simp [sortedBy, List.mergeSort, List.MergeSort.Internal.splitInTwo, h, nan_less, less_nan]

end Untypeset.Number.Binary64
