import Untypeset.Proofs.Formula.Parens
import Untypeset.Proofs.Formula.Joints

/-!
Sources that end in a closing parenthesis. A prime is set directly behind it, as it is where it stands by itself
(`latex_takePrime`), so it makes no difference whether the prime belongs to what ends there. Rows and nodes that end in a closing
parenthesis come to such sources (`tight_cutLatex`, `tight_of_isParenthesized`), unless the parenthesis is an application mark as
well and what it applies to nothing; and so does an argument, whatever it consists of but for such a node (`tight_of_last`).
-/

namespace Untypeset

open Untypeset.Latex Untypeset.Rendering Untypeset.Symbol Untypeset.Text

variable {symbols : SymbolTable} {f closing : Formula} {row : List Formula} {a b s : Latex}

/-! ## Rows cut piece by piece -/

/-- the LaTeX of a row that is cut as if it had a pair of bars, or none -/
def cutLatex (symbols : SymbolTable) (paired : Bool) (row : List Formula) : Latex :=
  (cut symbols paired row).flatMap (Segment.latex symbols)

theorem rowLatex_eq_cutLatex (row : List Formula) : rowLatex symbols row = cutLatex symbols (hasBarPair row) row :=
  rowLatex_eq symbols row

@[simp] theorem cutLatex_nil (symbols : SymbolTable) (paired : Bool) : cutLatex symbols paired [] = [] := by
  rw [cutLatex, cut]
  rfl

/-- the LaTeX of a run and of the siblings behind it -/
def runLatex (symbols : SymbolTable) (paired : Bool) (start : Run × List Formula) : Latex :=
  (Segment.run start.1).latex symbols ++ cutLatex symbols paired start.2

theorem cutLatex_identifier (h : f.kind = .identifier) (paired : Bool) (rest : List Formula) :
    cutLatex symbols paired (f :: rest) = runLatex symbols paired (takeRun symbols f rest) := by
  rw [cutLatex, cut, if_pos h, List.flatMap_cons]
  rfl

theorem cutLatex_other (h : f.kind ≠ .identifier) (paired : Bool) (rest : List Formula) :
    cutLatex symbols paired (f :: rest) =
      (if paired && f.isBar then Segment.bar f (rest.any (·.isBar)) else Segment.single f).latex symbols ++
        cutLatex symbols paired rest := by
  rw [cutLatex, cut, if_neg h]
  split <;> rfl

/-- a sibling that is no identifier and no bar is written by itself -/
theorem cutLatex_single (h : f.kind ≠ .identifier) (hbar : f.isBar = false) (paired : Bool) (rest : List Formula) :
    cutLatex symbols paired (f :: rest) = f.latex symbols ++ cutLatex symbols paired rest := by
  rw [cutLatex_other h, hbar, Bool.and_false, if_neg Bool.false_ne_true, Segment.latex_single]

/-! ## Primes behind a closing parenthesis -/

/-- a source that ends in a closing parenthesis -/
def Tight (s : Latex) : Prop :=
  ∃ t, s = t ++ [')']

theorem Tight.append (h : Tight b) (a : Latex) : Tight (a ++ b) := by
  obtain ⟨t, rfl⟩ := h
  exact ⟨a ++ t, (List.append_assoc _ _ _).symm⟩

theorem tight_parenthesized (s : Latex) : Tight (parenthesized s) :=
  ⟨'(' :: s, rfl⟩

theorem withPrime?_tight (h : Tight s) (prime : Option Formula) :
    withPrime? prime s = s ++ if prime.isSome then ['\x27'] else [] := by
  obtain ⟨t, rfl⟩ := h
  rw [withPrime?, Layout.primed, trimEnd_append_of_ne (by decide)]
  split
  · rfl
  · rw [List.append_nil]

/-- a prime by itself is written as an apostrophe -/
theorem Formula.Overt.latex_prime (hf : f.Overt) (h : f.isPrime = true) :
    f.kind ≠ .identifier ∧ f.isBar = false ∧ f.latex .default = ['\x27'] := by
  have all : ∀ glyph ∈ primeGlyphs, ∃ c, glyph = [c] ∧ c ≠ '|' ∧ c ∉ invisibleOperators ++ straySigns ∧
      SymbolTable.default.operator? [c] = some ['\x27'] := by
    intro glyph hglyph
    simp only [primeGlyphs, List.mem_cons, List.not_mem_nil, or_false] at hglyph
    rcases hglyph with rfl | rfl
    · exact ⟨'\x27', rfl, by decide, by decide, by rw [operator?_default]; decide⟩
    · exact ⟨'′', rfl, by decide, by decide, by rw [operator?_default]; decide⟩
  rw [Formula.isPrime, Bool.and_eq_true, decide_eq_true_eq, List.contains_iff_mem] at h
  obtain ⟨c, hkey, hbar, hshown, htoken⟩ := all _ h.2
  have hfence : f.isFence c = true := by simp [Formula.isFence, h.1, hkey]
  refine ⟨by rw [h.1]; decide, ?_, hf.latex_eq hfence hshown htoken⟩
  simp [Formula.isBar, Formula.isFence, hkey, hbar]

/-- **a prime behind a closing parenthesis is written the same whether it is taken along or not** -/
theorem latex_takePrime (paired : Bool) (hovert : ∀ f ∈ row, f.Overt) (hs : (takePrime row).1 = none ∨ Tight s) :
    withPrime? (takePrime row).1 s ++ cutLatex .default paired (takePrime row).2 = s ++ cutLatex .default paired row := by
  cases row with
  | nil => rfl
  | cons p rest =>
    rw [takePrime] at hs ⊢
    split
    · rename_i hp
      rw [if_pos hp] at hs
      obtain ⟨hkind, hbar, hlatex⟩ := (hovert p List.mem_cons_self).latex_prime hp
      rw [cutLatex_single hkind hbar, hlatex, withPrime?_tight (hs.resolve_left (Option.some_ne_none p)), List.append_assoc]
      rfl
    · rfl

/-- a prime behind a run is written behind its argument, whether it is taken along or not -/
theorem runLatex_endRun (paired : Bool) {head : Head} {argument : Argument} (mark : Option Formula) (hovert : ∀ f ∈ row, f.Overt)
    (hprime : (takePrime row).1 = none ∨ Tight (argument.latex .default)) :
    runLatex .default paired (endRun head mark (argument, row)) =
      head.latex .default ++ argument.latex .default ++ cutLatex .default paired row := by
  rw [runLatex, Segment.latex_run]
  exact latex_takePrime paired hovert (hprime.imp_right fun h => h.append _)

theorem takePrime_of_not (h : f.isPrime = false) (rest : List Formula) : takePrime (f :: rest) = (none, f :: rest) := by
  rw [takePrime, if_neg (by rw [h]; exact Bool.false_ne_true)]

/-! ## Closing parentheses -/

theorem kind_ne_of_isFence {c : Char} (h : f.isFence c = true) : f.kind ≠ .identifier := by
  rw [(Formula.kind_of_isFence h).1]
  decide

/-- an operator shows one sign only -/
theorem isFence_of_isFence {c d : Char} (h : f.isFence c = true) (hne : d ≠ c) : f.isFence d = false := by
  simp [Formula.isFence, (Formula.kind_of_isFence h).2, hne.symm]

theorem isBar_of_closing (h : closing.isFence ')' = true) : closing.isBar = false :=
  isFence_of_isFence h (by decide)

theorem isPrime_of_isFence {c : Char} (h : f.isFence c = true) (hc : primeGlyphs.contains [c] = false) : f.isPrime = false := by
  rw [Formula.isPrime, (Formula.kind_of_isFence h).2, hc, Bool.and_false]

theorem isParenthesized_of_closing (h : closing.isFence ')' = true) : closing.isParenthesized = false := by
  simp [Formula.isParenthesized, (Formula.kind_of_isFence h).1]

theorem Formula.Overt.latex_closing (hf : closing.Overt) (h : closing.isFence ')' = true) : closing.latex .default = [')'] :=
  hf.latex_eq h (by decide) (by rw [operator?_default]; decide)

theorem eq_of_singleton_eq_concat {α : Type} {x y : α} {list : List α} (h : [x] = list ++ [y]) : list = [] ∧ x = y := by
  cases list with
  | nil => exact ⟨rfl, List.singleton_inj.1 h⟩
  | cons z rest => simp at h

section

variable {head : Head} {mark : Option Formula} {argument : Argument} {x : Formula} {others : List Formula}

/-- the last of the siblings up to an argument, if it is no identifier, belongs to the argument, or it is the mark of none -/
theorem argument_or_mark_of_last (hhead : head.Sound symbols) (hkind : x.kind ≠ .identifier)
    (hnodes : head.nodes ++ mark.toList ++ argument.nodes = others ++ [x]) :
    (∃ before, argument.nodes = before ++ [x] ∧ others = head.nodes ++ mark.toList ++ before) ∨
      argument.nodes = [] ∧ mark = some x ∧ others = head.nodes := by
  rcases List.eq_nil_or_concat argument.nodes with hnone | ⟨before, last, hargument⟩
  · rw [hnone, List.append_nil] at hnodes
    cases mark with
    | none =>
      rw [Option.toList_none, List.append_nil] at hnodes
      have hinside : x ∈ head.nodes := by simp [hnodes]
      exact absurd (Formula.kind_of_mem_head hhead hinside) hkind
    | some m =>
      obtain ⟨hothers, hlast⟩ := List.append_inj' hnodes rfl
      exact .inr ⟨hnone, by rw [List.singleton_inj.1 hlast], hothers.symm⟩
  · rw [List.concat_eq_append] at hargument
    rw [hargument, ← List.append_assoc] at hnodes
    obtain ⟨hothers, hlast⟩ := List.append_inj' hnodes rfl
    exact .inl ⟨before, by rw [hargument, hlast], hothers.symm⟩

/-- the last of the siblings up to an argument belongs to the argument, unless it is an identifier or the mark -/
theorem argument_of_last (hhead : head.Sound symbols) (hmark : ∀ m ∈ mark, m.isApplication = true) (hkind : x.kind ≠ .identifier)
    (happlies : x.isApplication = false) (hnodes : head.nodes ++ mark.toList ++ argument.nodes = others ++ [x]) :
    ∃ before, argument.nodes = before ++ [x] ∧ others = head.nodes ++ mark.toList ++ before := by
  rcases argument_or_mark_of_last hhead hkind hnodes with hlast | ⟨-, hmarked, -⟩
  · exact hlast
  · rw [hmark x hmarked] at happlies
    cases happlies

/-- a run that ends in a sibling other than a prime takes no prime along -/
theorem prime_of_last {run : Run} (hsound : run.Sound symbols) (hx : x.isPrime = false) (hnodes : run.nodes = others ++ [x]) :
    run.prime = none := by
  cases hprime : run.prime with
  | none => rfl
  | some p =>
    rw [Run.nodes, hprime, Option.toList_some] at hnodes
    have hp := hsound.prime p hprime
    rw [List.singleton_inj.1 (List.append_inj' hnodes rfl).2, hx] at hp
    cases hp

/-- the last sibling of a run that ends in a parenthesis belongs to the argument, unless it is the mark -/
theorem argument_of_closing {run : Run} (hsound : run.Sound symbols) (h : closing.isFence ')' = true)
    (happlies : closing.isApplication = false) (hnodes : run.nodes = others ++ [closing]) :
    run.prime = none ∧ ∃ before, run.argument.nodes = before ++ [closing] ∧
      others = run.head.nodes ++ run.mark.toList ++ before := by
  have hprime : run.prime = none := prime_of_last hsound (isPrime_of_isFence h (by decide)) hnodes
  rw [Run.nodes, hprime, Option.toList_none, List.append_nil] at hnodes
  exact ⟨hprime, argument_of_last hsound.head hsound.mark (kind_ne_of_isFence h) happlies hnodes⟩

/-- an argument comes to a source that ends in a closing parenthesis, unless it is a group or a sibling in parentheses of its own
that does not -/
theorem tight_argument (hpresent : argument.nodes ≠ [])
    (group : ∀ group, argument = .group group → Tight (rowLatex .default group))
    (enclosed : ∀ f, argument = .enclosed f → Tight (f.latex .default)) : Tight (argument.latex .default) := by
  cases argument with
  | absent => exact absurd rfl hpresent
  | group inner => exact group inner rfl
  | barred inner => exact tight_parenthesized _
  | plain f => exact tight_parenthesized _
  | enclosed f => exact enclosed f rfl

/-- **a row that ends in a closing parenthesis comes to a source that does** -/
theorem tight_cutLatex (paired : Bool) {row before : List Formula} (h : closing.isFence ')' = true)
    (happlies : closing.isApplication = false) (hovert : closing.Overt) (hrow : row = before ++ [closing]) :
    Tight (cutLatex .default paired row) := by
  induction hn : row.length using Nat.strong_induction_on generalizing paired row before with
  | _ n ih =>
    obtain ⟨f, rest, rfl⟩ : ∃ f rest, row = f :: rest := by
      cases row with
      | nil => simp at hrow
      | cons f rest => exact ⟨f, rest, rfl⟩
    by_cases hkind : f.kind = .identifier
    · have hsound : (takeRun .default f rest).1.Sound .default := takeRun_sound hkind rest
      have hnodes := nodes_takeRun .default f rest
      have hlength := length_takeRun .default f rest
      have hhead := List.length_pos_iff.2 (takeRun .default f rest).1.head.nodes_ne_nil
      rw [cutLatex_identifier hkind, runLatex]
      generalize (takeRun .default f rest).1 = run at hsound hnodes hhead ⊢
      generalize (takeRun .default f rest).2 = after at hnodes hlength ⊢
      have hsuffix : after <:+ before ++ [closing] := ⟨_, hnodes.trans hrow⟩
      rcases List.suffix_concat_iff.1 hsuffix with rfl | ⟨left, rfl, -⟩
      · rw [List.append_nil] at hnodes
        obtain ⟨hprime, others, hargument, -⟩ := argument_of_closing hsound h happlies (hnodes.trans hrow)
        have hpresent : run.argument.nodes ≠ [] := by
          rw [hargument]
          exact List.append_ne_nil_of_right_ne_nil others (List.cons_ne_nil closing [])
        have htight : Tight (run.argument.latex .default) := by
          refine tight_argument hpresent (fun group hgroup => ?_) fun g hg => ?_
          · have hlonger := congrArg List.length hnodes
            rw [Run.nodes, List.length_append, List.length_append, List.length_append, hgroup] at hlonger
            rw [hgroup] at hargument
            rw [rowLatex_eq_cutLatex]
            exact ih group.length (by simp only [Argument.nodes] at hlonger; omega) _ hargument rfl
          · rw [hg] at hargument
            rw [(eq_of_singleton_eq_concat hargument).2, hovert.latex_closing h]
            exact ⟨[], rfl⟩
        rw [cutLatex_nil, List.append_nil, Segment.latex_run, hprime]
        exact htight.append _
      · exact (ih _ (by omega) paired rfl rfl).append _
    · cases before with
      | nil =>
        obtain ⟨rfl, rfl⟩ := List.cons.inj hrow
        rw [cutLatex_single hkind (isBar_of_closing h), hovert.latex_closing h, cutLatex_nil]
        exact ⟨[], rfl⟩
      | cons g before =>
        rw [cutLatex_other hkind]
        exact (ih rest.length (by rw [List.length_cons] at hn; omega) paired (List.cons.inj hrow).2 rfl).append _

/-- an argument that takes the last of some siblings comes to a source that ends in a closing parenthesis, unless that sibling has
parentheses of its own and does not -/
theorem tight_of_last {rest : List Formula} (hkind : f.kind = .identifier)
    (hrun : takeRun .default f rest = endRun head mark (argument, [])) (hx : x ∈ (f :: rest).getLast?)
    (hother : x.kind ≠ .identifier) (happlies : x.isApplication = false) (hovert : x.Overt)
    (htight : x.isParenthesized = true → Tight (x.latex .default)) : Tight (argument.latex .default) := by
  have hsound : (takeRun .default f rest).1.Sound .default := takeRun_sound hkind rest
  have hclosed := takeRun_closed .default f rest
  have hnodes := nodes_takeRun .default f rest
  obtain ⟨others, hrow⟩ := List.getLast?_eq_some_iff.1 hx
  rw [hrun] at hsound hclosed hnodes
  rw [hrow] at hnodes
  simp only [endRun, takePrime, Run.nodes, Option.toList_none, List.append_nil] at hnodes hclosed
  obtain ⟨before, hargument, -⟩ := argument_of_last hsound.head hsound.mark hother happlies hnodes
  have hpresent : argument.nodes ≠ [] := by
    rw [hargument]
    exact List.append_ne_nil_of_right_ne_nil before (List.cons_ne_nil x [])
  refine tight_argument hpresent (fun group hgroup => ?_) fun g hg => ?_
  · rw [hgroup] at hclosed hargument
    obtain ⟨inner, closing, hclosing, hend⟩ := hclosed
    have hlast : closing = x := (List.append_singleton_inj.1 (hend.symm.trans hargument)).2
    rw [rowLatex_eq_cutLatex]
    exact tight_cutLatex _ (hlast ▸ hclosing) happlies hovert hargument
  · rw [hg] at hclosed hargument
    rw [(eq_of_singleton_eq_concat hargument).2] at hclosed ⊢
    exact htight hclosed

/-- a name spelled by letters consists of identifiers -/
theorem kind_of_bare {rest : List Formula} {taken : Argument × List Formula} (hkind : f.kind = .identifier)
    (hnodes : head.nodes = f :: rest) (hrun : takeRun .default f rest = endRun head mark taken) (hx : x ∈ (f :: rest).getLast?) :
    x.kind = .identifier := by
  have hsound : (takeRun .default f rest).1.Sound .default := takeRun_sound hkind rest
  rw [hrun] at hsound
  refine Formula.kind_of_mem_head hsound.head ?_
  dsimp only [endRun]
  rw [hnodes]
  exact List.mem_of_getLast? hx

/-- no name spelled by letters goes on behind what is no identifier -/
theorem severed_of_last {rest : List Formula} (hkind : f.kind = .identifier) (hx : x ∈ (f :: rest).getLast?)
    (hother : x.kind ≠ .identifier) (others : List Formula) : Severed rest others := by
  refine .inl ⟨x, ?_, if_neg hother⟩
  rcases List.mem_cons.1 (List.mem_of_getLast? hx) with rfl | hmem
  · exact absurd hkind hother
  · exact hmem

/-- what a run leaves open is shorter than the row that it starts -/
theorem length_opened_lt {opened rest : List Formula} (hnodes : head.nodes ++ mark.toList ++ opened = f :: rest) :
    opened.length < (f :: rest).length := by
  have hhead := List.length_pos_iff.2 head.nodes_ne_nil
  rw [← hnodes, List.length_append, List.length_append]
  omega

end

/-! ## Nodes with parentheses of their own -/

namespace Formula

/-- an equation between parentheses has one of them on each side -/
theorem sides_of_isParenthesized {opening closing : Formula} {left right : List Formula} (hopening : opening.isFence '(' = true)
    (hclosing : closing.isFence ')' = true) (hparts : f.parts = opening :: (f.innerParts ++ [closing]))
    (hsides : f.sides? = some (left, right)) :
    ∃ equals left' right', equals.isEquals = true ∧ left = opening :: left' ∧ right = right' ++ [closing] ∧
      f.innerParts = left' ++ equals :: right' := by
  obtain ⟨equals, hequals, hsplit⟩ := parts_of_sides hsides
  have hkey := (kind_of_isFence hequals).2
  rw [hparts] at hsplit
  cases left with
  | nil =>
    obtain ⟨rfl, -⟩ := List.cons.inj hsplit
    rw [(kind_of_isFence hopening).2] at hkey
    cases hkey
  | cons first left' =>
    obtain ⟨rfl, hrest⟩ := List.cons.inj hsplit
    have hsplit : f.innerParts ++ [closing] = left' ++ equals :: right := hrest
    rcases List.eq_nil_or_concat right with rfl | ⟨right', last, rfl⟩
    · obtain ⟨-, hlast⟩ := List.append_inj' hsplit rfl
      rw [← List.singleton_inj.1 hlast, (kind_of_isFence hclosing).2] at hkey
      cases hkey
    · rw [List.concat_eq_append, ← List.cons_append, ← List.append_assoc] at hsplit
      obtain ⟨hinner, hlast⟩ := List.append_inj' hsplit rfl
      exact ⟨equals, left', right', hequals, rfl, by rw [List.concat_eq_append, hlast], hinner⟩

/-- a node with parentheses of its own ends in the closing one -/
theorem tight_of_isParenthesized (h : f.isParenthesized = true) (hovert : ∀ part ∈ f.parts, part.Overt)
    (hlast : ∀ part ∈ f.parts.getLast?, part.isApplication = false) : Tight (f.latex .default) := by
  obtain ⟨opening, closing, hopening, hclosing, hparts⟩ := parts_of_isParenthesized h
  have happlies : closing.isApplication = false := by
    refine hlast closing ?_
    rw [hparts, ← List.cons_append, List.getLast?_concat]
    rfl
  have hend : closing.Overt := hovert closing (by simp [hparts])
  have hrow : Tight (rowLatex .default f.parts) := by
    rw [rowLatex_eq_cutLatex]
    rw [← List.cons_append] at hparts
    exact tight_cutLatex _ hclosing happlies hend hparts
  rcases kind_of_isParenthesized h with hk | hk
  · rw [latex_row hk, sidesLatex]
    split
    · rename_i left right hsides
      obtain ⟨equals, left', right', -, -, hright, -⟩ := sides_of_isParenthesized hopening hclosing hparts hsides
      have hside : Tight (rowLatex .default right) := by
        rw [rowLatex_eq_cutLatex]
        exact tight_cutLatex _ hclosing happlies hend hright
      rw [← List.singleton_append, ← List.append_assoc]
      exact hside.append _
    · exact hrow
  · rw [latex_plain (by rw [hk]; rfl)]
    exact hrow

end Formula

end Untypeset
