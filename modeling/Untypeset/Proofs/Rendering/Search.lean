import Mathlib.Data.List.Lex
import Mathlib.Logic.Function.Iterate
import Untypeset.Proofs.Rendering.Levels

/-!
The search for a part as a queue. The elements of a place wait in a queue; in each turn the first of them is either the one that
is sought, or its own elements join the end of the queue. At any time the queue holds what is left of one level and, behind
that, the elements below the part of the level that has been looked at (`IsPending`), so a turn never changes what the search
comes to (`IsPending.turn`), and a turn leaves fewer nodes to wait (`weight_turn_lt`). Hence the search ends, and with the
element that lies least deep and, of several, comes first in the document (`shallowest_exact`).
-/

namespace Untypeset.Markup.Located

variable {place below : Located}

/-! ## Document order -/

/-- how many levels one place stands below another -/
def depthBelow (place below : Located) : Nat :=
  below.path.length - place.path.length

/-- the places below one place are listed in the order of their paths, the shorter of two that agree first -/
theorem descendants_lex (place : Located) :
    place.descendants.Pairwise fun a b => List.Lex (· < ·) a.path b.path := by
  rw [descendants_eq, List.pairwise_flatMap]
  constructor
  · intro child hchild
    refine List.pairwise_cons.2 ⟨fun below hbelow => ?_, descendants_lex child⟩
    obtain ⟨i, rest, hpath⟩ := path_of_mem_descendants hbelow
    rw [hpath]
    conv => lhs; rw [← List.append_nil child.path]
    exact List.Lex.append_left _ .nil _
  · refine place.children_pairwise.imp_of_mem ?_
    intro child other hchild hother h x hx y hy
    obtain ⟨i, hi⟩ := path_of_mem_children hchild
    obtain ⟨j, hj⟩ := path_of_mem_children hother
    have hlength : child.path.length = other.path.length := by
      rw [hi, hj, List.length_append, List.length_append]
      rfl
    obtain ⟨u, hu⟩ := prefix_of_mem_subtree hx
    obtain ⟨v, hv⟩ := prefix_of_mem_subtree hy
    rw [← hu, ← hv]
    exact lex_append ((List.shortlex_iff_lex hlength).1 h) hlength u v
termination_by place.node.size
decreasing_by exact children_lt hchild

end Untypeset.Markup.Located

namespace Untypeset.Rendering.Chtml

open Untypeset.Markup

variable {name : String} {place found : Located} {queue level : List Located} {result : Option Located}

/-! ## Turns -/

/-- a search: the elements that wait to be looked at, or how it ended -/
inductive Search where
  | waiting (queue : List Located)
  | ended (result : Option Located)

namespace Search

/-- one turn of the search for an element of a name -/
def turn (name : String) : Search → Search
  | .waiting [] => .ended none
  | .waiting (place :: rest) =>
    if place.node.isNamed name then .ended (some place) else .waiting (rest ++ elementsOf place)
  | .ended result => .ended result

/-- the search comes to this result. While it goes on, what waits is the rest of a level and the elements below what was looked
at in the level -/
inductive IsPending (name : String) (result : Option Located) : Search → Prop
  | waiting (seen rest : List Located) (unnamed : ∀ place ∈ seen, place.node.isNamed name = false)
    (comes : searchLevels? name (seen ++ rest) = result) : IsPending name result (.waiting (rest ++ seen.flatMap elementsOf))
  | ended : IsPending name result (.ended result)

theorem searchLevels?_of_unnamed (h : ∀ place ∈ level, place.node.isNamed name = false) :
    searchLevels? name level = searchLevels? name (level.flatMap elementsOf) := by
  cases level with
  | nil => rfl
  | cons place rest =>
    rw [searchLevels?]
    have hnone : (place :: rest).find? (·.node.isNamed name) = none := by
      rw [List.find?_eq_none]
      intro other hother
      rw [h other hother]
      exact Bool.false_ne_true
    rw [hnone]

/-- a search has only begun with what waits, or has looked at a level in part -/
theorem IsPending.cases_waiting (h : IsPending name result (.waiting queue)) :
    searchLevels? name queue = result ∨ ∃ seen place rest, queue = place :: rest ++ seen.flatMap elementsOf ∧
      (∀ place ∈ seen, place.node.isNamed name = false) ∧ searchLevels? name (seen ++ place :: rest) = result := by
  generalize hs : Search.waiting queue = search at h
  cases h with
  | ended => cases hs
  | waiting seen rest unnamed comes =>
    cases hs
    cases rest with
    | nil =>
      left
      rw [List.append_nil] at comes
      rw [List.nil_append, ← searchLevels?_of_unnamed unnamed, comes]
    | cons place rest => exact .inr ⟨seen, place, rest, rfl, unnamed, comes⟩

/-- the turn of a search that has looked at a level in part -/
theorem IsPending.turn_level (seen rest : List Located) (unnamed : ∀ place ∈ seen, place.node.isNamed name = false)
    (comes : searchLevels? name (seen ++ place :: rest) = result) :
    IsPending name result (Search.turn name (.waiting (place :: rest ++ seen.flatMap elementsOf))) := by
  rw [List.cons_append, Search.turn]
  split
  · rename_i hnamed
    have hfind : (seen ++ place :: rest).find? (·.node.isNamed name) = some place := by
      rw [List.find?_eq_some_iff_append]
      exact ⟨hnamed, seen, rest, rfl, fun other hother => by rw [unnamed other hother]; rfl⟩
    have hsome : searchLevels? name (seen ++ place :: rest) = some place := by
      obtain ⟨first, others, hlevel⟩ := List.exists_cons_of_ne_nil (List.append_ne_nil_of_right_ne_nil seen (List.cons_ne_nil place rest))
      rw [hlevel] at hfind ⊢
      rw [searchLevels?, hfind]
    rw [← comes, hsome]
    exact .ended
  · rename_i hother
    have hqueue : rest ++ seen.flatMap elementsOf ++ elementsOf place = rest ++ (seen ++ [place]).flatMap elementsOf := by
      rw [List.flatMap_append, List.flatMap_singleton, List.append_assoc]
    rw [hqueue]
    refine .waiting _ _ ?_ (by rw [List.append_assoc, List.singleton_append, comes])
    intro other hmem
    rcases List.mem_append.1 hmem with hmem | hmem
    · exact unnamed other hmem
    · rw [List.mem_singleton.1 hmem]
      exact Bool.eq_false_iff.2 hother

/-- **one turn**: the search still comes to the same result -/
theorem IsPending.turn {search : Search} (h : IsPending name result search) : IsPending name result (search.turn name) := by
  cases search with
  | ended =>
    cases h
    exact .ended
  | waiting queue =>
    rcases h.cases_waiting with hbegun | ⟨seen, place, rest, rfl, unnamed, comes⟩
    · cases queue with
      | nil =>
        rw [← hbegun, searchLevels?]
        exact .ended
      | cons place rest =>
        have hturn : IsPending name result (Search.turn name (.waiting (place :: rest ++ [].flatMap elementsOf))) :=
          turn_level [] rest (List.forall_mem_nil _) hbegun
        rwa [List.flatMap_nil, List.append_nil] at hturn
    · exact turn_level seen rest unnamed comes

theorem IsPending.iterate {search : Search} (h : IsPending name result search) (n : Nat) :
    IsPending name result ((Search.turn name)^[n] search) := by
  induction n generalizing search with
  | zero => exact h
  | succ n ih =>
    rw [Function.iterate_succ_apply]
    exact ih h.turn

/-! ## The end of a search -/

/-- where a turn does not end the search, fewer nodes wait than before -/
theorem weight_turn_lt {next : List Located} (h : turn name (.waiting queue) = .waiting next) : weight next < weight queue := by
  cases queue with
  | nil => cases h
  | cons place rest =>
    rw [turn] at h
    split at h
    · cases h
    · cases h
      have := weight_elementsOf_lt place
      rw [weight_append, weight]
      omega

/-- a search takes at most one turn for each node that waits, and one to find that none does -/
theorem exists_ended (name : String) {n : Nat} (h : weight queue < n) :
    ∃ result, (turn name)^[n] (.waiting queue) = .ended result := by
  induction n generalizing queue with
  | zero => cases h
  | succ n ih =>
    rw [Function.iterate_succ_apply]
    cases hturn : turn name (.waiting queue) with
    | ended result => exact ⟨result, Function.iterate_fixed rfl n⟩
    | waiting next => exact ih (by have := weight_turn_lt hturn; omega)

/-- **the queue comes to what the levels come to** -/
theorem iterate_turn (place : Located) (name : String) {n : Nat} (h : place.node.size ≤ n) :
    (turn name)^[n] (.waiting (elementsOf place)) = .ended (shallowest? place name) := by
  have hpending : IsPending name (shallowest? place name) (.waiting (elementsOf place)) := by
    have hstart : IsPending name (shallowest? place name) (.waiting (elementsOf place ++ [].flatMap elementsOf)) :=
      .waiting [] (elementsOf place) (List.forall_mem_nil _) rfl
    rwa [List.flatMap_nil, List.append_nil] at hstart
  obtain ⟨result, hended⟩ := exists_ended name (Nat.lt_of_lt_of_le (weight_elementsOf_lt place) h)
  have hafter := hpending.iterate n
  rw [hended] at hafter ⊢
  cases hafter
  rfl

end Search

/-! ## Depth and document order -/

theorem depthBelow_eq_iff {a b : Located} (ha : a ∈ place.descendants) (hb : b ∈ place.descendants) :
    place.depthBelow a = place.depthBelow b ↔ a.path.length = b.path.length := by
  have hdeep {below : Located} (h : below ∈ place.descendants) : place.path.length < below.path.length := by
    obtain ⟨i, rest, hpath⟩ := Located.path_of_mem_descendants h
    rw [hpath, List.length_append, List.length_cons]
    omega
  have hlta := hdeep ha
  have hltb := hdeep hb
  unfold Located.depthBelow
  omega

/-- to be the first in the order of levels is to lie least deep, and before all others that lie no deeper -/
theorem first_iff (hmem : found ∈ place.descendants) :
    (∀ other ∈ place.descendants, other.node.isNamed name = true → other = found ∨ found.Before other) ↔
      ∃ earlier later, place.descendants = earlier ++ found :: later ∧
        (∀ other ∈ place.descendants, other.node.isNamed name = true → place.depthBelow found ≤ place.depthBelow other) ∧
        ∀ other ∈ earlier, other.node.isNamed name = true → place.depthBelow other ≠ place.depthBelow found := by
  constructor
  · intro hfirst
    obtain ⟨earlier, later, hsplit⟩ := List.append_of_mem hmem
    refine ⟨earlier, later, hsplit, ?_, ?_⟩
    · intro other hother hnamed
      rcases hfirst other hother hnamed with rfl | hbefore
      · exact Nat.le_refl _
      · have hlength : found.path.length ≤ other.path.length := by
          rcases List.shortlex_def.1 hbefore with hlt | ⟨heq, -⟩
          · exact hlt.le
          · exact heq.le
        exact Nat.sub_le_sub_right hlength _
    · intro other hearlier hnamed hdepth
      have hother : other ∈ place.descendants := by
        rw [hsplit]
        exact List.mem_append_left _ hearlier
      have hlex : List.Lex (· < ·) other.path found.path := by
        have hordered := place.descendants_lex
        rw [hsplit] at hordered
        exact (List.pairwise_append.1 hordered).2.2 other hearlier found List.mem_cons_self
      have hlength : other.path.length = found.path.length := (depthBelow_eq_iff hother hmem).1 hdepth
      have hback : other.Before found := .of_lex hlength hlex
      rcases hfirst other hother hnamed with rfl | hbefore
      · exact hback.ne rfl
      · exact hback.asymm hbefore
  · rintro ⟨earlier, later, hsplit, hleast, hearlier⟩ other hother hnamed
    have hle := hleast other hother hnamed
    by_cases hlength : found.path.length < other.path.length
    · exact .inr (Located.before_of_length hlength)
    · have hdepth : place.depthBelow other = place.depthBelow found := by
        unfold Located.depthBelow at hle ⊢
        omega
      have hsame : found.path.length = other.path.length := ((depthBelow_eq_iff hother hmem).1 hdepth).symm
      rw [hsplit] at hother
      rcases List.mem_append.1 hother with hmem' | hmem'
      · exact absurd hdepth (hearlier other hmem' hnamed)
      · rcases List.mem_cons.1 hmem' with rfl | hlater
        · exact .inl rfl
        · have hordered := place.descendants_lex
          rw [hsplit] at hordered
          exact .inr (.of_lex hsame ((List.pairwise_cons.1 (List.pairwise_append.1 hordered).2.1).1 other hlater))

/-- **the search for a part is exact, and it ends**: it finds nothing exactly if no element of the name stands below the place; what
it finds is the element of the name that lies least deep, and among those of its depth the first in the document; and the queue
of elements that wait comes to that after no more turns than the place has nodes -/
theorem shallowest_exact (place : Located) (name : String) :
    (shallowest? place name = none ↔ ∀ other ∈ place.descendants, other.node.isNamed name = false) ∧
      (∀ found, shallowest? place name = some found ↔ found.node.isNamed name = true ∧
        ∃ earlier later, place.descendants = earlier ++ found :: later ∧
          (∀ other ∈ place.descendants, other.node.isNamed name = true → place.depthBelow found ≤ place.depthBelow other) ∧
          ∀ other ∈ earlier, other.node.isNamed name = true → place.depthBelow other ≠ place.depthBelow found) ∧
      ∀ n, place.node.size ≤ n →
        (Search.turn name)^[n] (.waiting (elementsOf place)) = .ended (shallowest? place name) := by
  refine ⟨shallowest?_eq_none_iff, fun found => ?_, fun n => Search.iterate_turn place name⟩
  rw [shallowest?_eq_some_iff]
  constructor
  · rintro ⟨hmem, hnamed, hfirst⟩
    exact ⟨hnamed, (first_iff hmem).1 hfirst⟩
  · rintro ⟨hnamed, earlier, later, hsplit, hrest⟩
    have hmem : found ∈ place.descendants := by
      rw [hsplit]
      exact List.mem_append_right _ List.mem_cons_self
    exact ⟨hmem, hnamed, (first_iff hmem).2 ⟨earlier, later, hsplit, hrest⟩⟩

end Untypeset.Rendering.Chtml
