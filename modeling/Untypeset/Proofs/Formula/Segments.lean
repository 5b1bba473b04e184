import Mathlib.Data.List.TakeWhile
import Untypeset.Formula.Convert

/-!
What a segment of a row can be. A run begins with an identifier, or with identifiers that spell a function name letter by
letter; its mark is an application mark and its prime a prime (`Run.Sound`), and the siblings it takes stand next to each
other in the row (`run_contiguous`). A bar segment is a bar. Everything that is proved about the segments of a row rests on
these facts and not on how the row is cut.
-/

namespace Untypeset

open Untypeset.Rendering Untypeset.Symbol Untypeset.Text

/-! ## Slices of a row -/

theorem Segment.nodes_subset {symbols : SymbolTable} {row : List Formula} {segment : Segment}
    (h : segment ∈ segments symbols row) : segment.nodes ⊆ row := by
  intro f hf
  rw [← nodes_segments symbols row]
  exact List.mem_flatMap.2 ⟨segment, h, hf⟩

/-- the sides of an equality are the parts before and after its equals sign -/
theorem Formula.parts_of_sides {f : Formula} {left right : List Formula} (h : f.sides? = some (left, right)) :
    ∃ equals : Formula, equals.isEquals = true ∧ f.parts = left ++ equals :: right := by
  unfold sides? at h
  split at h
  · rename_i hrole
    split at h
    · cases h
    · rename_i head rest hleft
      cases h
      have hsplit := List.takeWhile_append_dropWhile (p := fun part : Formula => !part.isEquals) (l := f.parts)
      cases hright : f.parts.dropWhile fun part => !part.isEquals with
      | nil =>
        simp only [Bool.and_eq_true, decide_eq_true_eq] at hrole
        have hnone : ∀ part ∈ f.parts, part.isEquals = false := by
          intro part hpart
          simpa using List.dropWhile_eq_nil_iff.1 hright part hpart
        have hzero : f.parts.countP (·.isEquals) = 0 :=
          List.countP_eq_zero.2 fun part hpart => by simp [hnone part hpart]
        rw [hzero] at hrole
        exact absurd hrole.2 (by decide)
      | cons equals right =>
        refine ⟨equals, ?_, ?_⟩
        · have hhead := List.head_dropWhile_not (fun part : Formula => !part.isEquals) (l := f.parts) (by simp [hright])
          simpa [hright] using hhead
        · rw [← hleft, List.tail_cons, ← hright, hsplit]
  · cases h

theorem Formula.sides_subset {f : Formula} {left right : List Formula} (h : f.sides? = some (left, right)) :
    left ⊆ f.parts ∧ right ⊆ f.parts := by
  obtain ⟨equals, -, hparts⟩ := parts_of_sides h
  rw [hparts]
  exact ⟨List.subset_append_left _ _, fun part hpart => by simp [hpart]⟩

theorem Formula.innerParts_subset (f : Formula) : f.innerParts ⊆ f.parts :=
  ((List.dropLast_sublist _).trans (List.tail_sublist _)).subset

theorem Formula.kind_of_isParenthesized {f : Formula} (h : f.isParenthesized = true) :
    f.kind = .row ∨ f.kind = .container := by
  simp only [isParenthesized, Bool.and_eq_true, Bool.or_eq_true, decide_eq_true_eq] at h
  exact h.1

/-- a list between parentheses is the parentheses and what stands between them -/
theorem Formula.parts_of_isParenthesized {f : Formula} (h : f.isParenthesized = true) :
    ∃ opening closing : Formula, opening.isFence '(' = true ∧ closing.isFence ')' = true ∧
      f.parts = opening :: (f.innerParts ++ [closing]) := by
  simp only [isParenthesized, areFenced, Bool.and_eq_true, decide_eq_true_eq] at h
  obtain ⟨-, ⟨hlength, hfirst⟩, hlast⟩ := h
  rw [innerParts]
  cases hp : f.parts with
  | nil =>
    rw [hp] at hlength
    cases hlength
  | cons opening others =>
    rw [hp] at hlength hfirst hlast
    obtain ⟨second, rest, rfl⟩ : ∃ second rest, others = second :: rest := by
      cases others with
      | nil => exact absurd hlength (by simp)
      | cons second rest => exact ⟨second, rest, rfl⟩
    rw [List.getLast?_cons_cons, List.getLast?_eq_some_getLast (List.cons_ne_nil _ _)] at hlast
    refine ⟨opening, (second :: rest).getLast (List.cons_ne_nil _ _), by simpa using hfirst, by simpa using hlast, ?_⟩
    rw [List.tail_cons, List.dropLast_concat_getLast]

/-! ## Heads -/

theorem longestName_isFunction {symbols : SymbolTable} {start : Latex} {count : Nat} {best : Option (Latex × Nat)}
    {row : List Formula} {name : Latex} {n : Nat} (hbest : ∀ b ∈ best, symbols.isFunction b.1 = true)
    (h : longestName symbols start count best row = some (name, n)) : symbols.isFunction name = true := by
  fun_induction longestName symbols start count best row with
  | case1 => exact hbest _ h
  | case2 => exact hbest _ h
  | case3 start count best f rest c _ _ best' ih =>
    refine ih (fun b hb => ?_) h
    simp only [best'] at hb
    split at hb
    · rename_i hfun
      cases hb
      exact hfun
    · exact hbest b hb
  | case4 => exact hbest _ h

/-- the siblings that a name counts are single letters -/
theorem longestName_letters {symbols : SymbolTable} {start : Latex} {count : Nat} {best : Option (Latex × Nat)}
    {row : List Formula} {name : Latex} {n : Nat} (hbest : ∀ b ∈ best, b.2 ≤ count)
    (h : longestName symbols start count best row = some (name, n)) :
    ∀ f ∈ row.take (n - count), f.letter?.isSome = true := by
  fun_induction longestName symbols start count best row with
  | case1 => simp
  | case2 start count best f rest hf =>
    rw [Nat.sub_eq_zero_of_le (hbest _ h)]
    simp
  | case3 start count best f rest c hc _ best' ih =>
    intro g hg
    have hrest := ih (fun b hb => ?_) h
    · by_cases hn : n ≤ count
      · rw [Nat.sub_eq_zero_of_le hn] at hg
        cases hg
      · rw [show n - count = (n - (count + 1)) + 1 by omega, List.take_succ_cons] at hg
        rcases List.mem_cons.1 hg with rfl | hg
        · simp [hc]
        · exact hrest g hg
    · simp only [best'] at hb
      split at hb
      · cases hb
        exact Nat.le_refl _
      · exact Nat.le_succ_of_le (hbest b hb)
  | case4 start count best f rest c _ _ =>
    rw [Nat.sub_eq_zero_of_le (hbest _ h)]
    simp

/-- what a run may begin with -/
def Head.Sound (symbols : SymbolTable) : Head → Prop
  | .spelled name first letters =>
    symbols.isFunction name = true ∧ first.kind = .identifier ∧
      (∃ c, first.key = [c] ∧ symbols.startsFunction [c] = true) ∧ ∀ f ∈ letters, f.letter?.isSome = true
  | .single f => f.kind = .identifier

theorem Formula.kind_of_letter? {f : Formula} (h : f.letter?.isSome = true) : f.kind = .identifier := by
  by_contra hk
  rw [letter?, if_neg hk] at h
  cases h

/-- a head consists of identifiers -/
theorem Formula.kind_of_mem_head {symbols : SymbolTable} {head : Head} (hsound : head.Sound symbols) {f : Formula}
    (hf : f ∈ head.nodes) : f.kind = .identifier := by
  cases head with
  | spelled name first letters =>
    obtain ⟨-, hkind, -, hletters⟩ := hsound
    rcases List.mem_cons.1 hf with rfl | hf
    · exact hkind
    · exact kind_of_letter? (hletters f hf)
  | single g =>
    rw [List.mem_singleton.1 hf]
    exact hsound

theorem takeHead_sound {symbols : SymbolTable} {f : Formula} (hf : f.kind = .identifier) (rest : List Formula) :
    (takeHead symbols f rest).1.Sound symbols := by
  unfold takeHead
  split
  · rename_i name count hname
    unfold spelledName? at hname
    split at hname
    · rename_i c hkey
      split at hname
      · rename_i hstart
        exact ⟨longestName_isFunction (by simp) hname, hf, ⟨c, hkey, hstart⟩, longestName_letters (by simp) hname⟩
      · cases hname
    · cases hname
  · exact hf

/-- what a run can hold -/
structure Run.Sound (symbols : SymbolTable) (run : Run) : Prop where
  head : run.head.Sound symbols
  mark : ∀ f ∈ run.mark, f.isApplication = true
  prime : ∀ f ∈ run.prime, f.isPrime = true

theorem takeApplied_mark {f mark : Formula} {row : List Formula} (h : (takeApplied f row).1 = some mark) :
    mark.isApplication = true := by
  cases row with
  | nil => cases h
  | cons next rest =>
    simp only [takeApplied] at h
    split at h
    · rename_i happ
      cases h
      exact happ
    · split at h <;> cases h

theorem takePrime_isPrime {prime : Formula} {row : List Formula} (h : (takePrime row).1 = some prime) :
    prime.isPrime = true := by
  cases row with
  | nil => cases h
  | cons f rest =>
    simp only [takePrime] at h
    split at h
    · rename_i hprime
      cases h
      exact hprime
    · cases h

theorem takeRun_sound {symbols : SymbolTable} {f : Formula} (hf : f.kind = .identifier) (rest : List Formula) :
    (takeRun symbols f rest).1.Sound symbols where
  head := takeHead_sound hf rest
  mark _ h := takeApplied_mark h
  prime _ h := takePrime_isPrime h

/-! ## Segments of a row -/

/-- a segment of a row starts at some sibling: it is the run taken from there on, or the bar or the sibling itself -/
theorem mem_cut {symbols : SymbolTable} {paired : Bool} {row : List Formula} {segment : Segment}
    (h : segment ∈ cut symbols paired row) :
    ∃ f rest, f :: rest <:+ row ∧
      ((f.kind = .identifier ∧ segment = .run (takeRun symbols f rest).1) ∨
        (f.isBar = true ∧ segment = .bar f (rest.any (·.isBar))) ∨ segment = .single f) := by
  fun_induction cut symbols paired row with
  | case1 => cases h
  | case2 f rest hf ih =>
    rcases List.mem_cons.1 h with rfl | h
    · exact ⟨f, rest, List.suffix_refl _, .inl ⟨hf, rfl⟩⟩
    · obtain ⟨g, after, hsuffix, hg⟩ := ih h
      exact ⟨g, after, hsuffix.trans ⟨(takeRun symbols f rest).1.nodes, nodes_takeRun symbols f rest⟩, hg⟩
  | case3 f rest _ hbar ih =>
    rcases List.mem_cons.1 h with rfl | h
    · exact ⟨f, rest, List.suffix_refl _, .inr (.inl ⟨(Bool.and_eq_true_iff.1 hbar).2, rfl⟩)⟩
    · obtain ⟨g, after, hsuffix, hg⟩ := ih h
      exact ⟨g, after, hsuffix.trans (List.suffix_cons f rest), hg⟩
  | case4 f rest _ _ ih =>
    rcases List.mem_cons.1 h with rfl | h
    · exact ⟨f, rest, List.suffix_refl _, .inr (.inr rfl)⟩
    · obtain ⟨g, after, hsuffix, hg⟩ := ih h
      exact ⟨g, after, hsuffix.trans (List.suffix_cons f rest), hg⟩

/-- a run of a row is what is taken from some identifier of the row on -/
theorem mem_segments_run {symbols : SymbolTable} {row : List Formula} {run : Run}
    (h : Segment.run run ∈ segments symbols row) :
    ∃ f rest, f :: rest <:+ row ∧ f.kind = .identifier ∧ run = (takeRun symbols f rest).1 := by
  obtain ⟨f, rest, hsuffix, ⟨hf, hrun⟩ | ⟨-, hrun⟩ | hrun⟩ := mem_cut h
  · exact ⟨f, rest, hsuffix, hf, Segment.run.inj hrun⟩
  · cases hrun
  · cases hrun

theorem run_sound {symbols : SymbolTable} {row : List Formula} {run : Run}
    (h : Segment.run run ∈ segments symbols row) : run.Sound symbols := by
  obtain ⟨f, rest, -, hf, rfl⟩ := mem_segments_run h
  exact takeRun_sound hf rest

/-- the siblings of a run stand next to each other -/
theorem run_contiguous {symbols : SymbolTable} {row : List Formula} {run : Run}
    (h : Segment.run run ∈ segments symbols row) : run.nodes <:+: row := by
  obtain ⟨f, rest, hsuffix, -, rfl⟩ := mem_segments_run h
  have htaken : (takeRun symbols f rest).1.nodes <+: f :: rest := ⟨_, nodes_takeRun symbols f rest⟩
  exact htaken.isInfix.trans hsuffix.isInfix

/-- an argument has fewer nodes than its row, as it leaves out at least the head of its run -/
theorem sizes_argument_lt {symbols : SymbolTable} {row : List Formula} {run : Run}
    (h : Segment.run run ∈ segments symbols row) : Formula.sizes run.argument.nodes < Formula.sizes row := by
  have hsize := size_le_of_mem_segments h
  have hhead := run.head.sizes_nodes_pos
  rw [size_run] at hsize
  omega

theorem bar_isBar {symbols : SymbolTable} {row : List Formula} {f : Formula} {opens : Bool}
    (h : Segment.bar f opens ∈ segments symbols row) : f.isBar = true := by
  obtain ⟨g, rest, -, ⟨-, hbar⟩ | ⟨hg, hbar⟩ | hbar⟩ := mem_cut h
  · cases hbar
  · cases hbar
    exact hg
  · cases hbar

/-- a lone sibling takes nothing along and has no partner -/
theorem segments_singleton (symbols : SymbolTable) (f : Formula) :
    segments symbols [f] = [.run ⟨.single f, none, .absent, none⟩] ∨ segments symbols [f] = [.single f] := by
  have hpaired : hasBarPair [f] = false := by
    rw [hasBarPair, decide_eq_false_iff_not, List.countP_singleton]
    split <;> decide
  have hname : spelledName? symbols f [] = none := by
    unfold spelledName?
    split
    · split <;> rfl
    · rfl
  rw [segments, hpaired, cut]
  split
  · left
    rw [takeRun, takeHead, hname]
    simp only [takeApplied, takePrime]
    rw [cut]
  · right
    rw [if_neg (by simp), cut]

end Untypeset
