import Untypeset.Proofs.Formula.Fences

/-!
Rows that differ in a mark of function application between an identifier and an operator. Apart from what the mark makes of the
operator it is invisible: the two rows are cut alike, name by name and argument by argument, up to the mark, and what is cut
off after that differs in the mark again (`Unmarked`). The mark comes to stand in the rest of the row, in a slice that is taken as
an argument, or right behind a head or an argument (`takeHead_unmarked`, `takeApplied_unmarked`).
-/

namespace Untypeset

open Untypeset.Latex Untypeset.Markup Untypeset.Rendering Untypeset.Symbol Untypeset.Text

variable {symbols : SymbolTable}

/-! ## Rows that differ in a mark -/

namespace Formula

/-- an operator that shows nothing and is no parenthesis, no bar and no prime to its neighbours -/
structure IsUnseen (symbols : SymbolTable) (f : Formula) : Prop where
  operator : f.kind = .operator
  silent : f.latex symbols = []
  unfenced : ∀ c ∈ ['(', ')', '|'], f.isFence c = false
  unprimed : f.isPrime = false

/-- an application mark that shows nothing and has no other meaning to its neighbours -/
structure IsMark (symbols : SymbolTable) (mark : Formula) : Prop where
  applies : mark.isApplication = true
  silent : mark.latex symbols = []
  unfenced : ∀ c ∈ ['(', ')', '|'], mark.isFence c = false
  unprimed : mark.isPrime = false

/-- an operator that is shown and begins no argument: it is no opening parenthesis, no bar and no mark -/
structure IsOrdinary (op : Formula) : Prop where
  operator : op.kind = .operator
  shown : (invisibleOperators.any fun c => op.facts.raw = [c]) = false
  unopening : op.isFence '(' = false
  unbarred : op.isBar = false
  unapplied : op.isApplication = false

end Formula

/-- **an invisible operator shows nothing and means nothing to its neighbours**, apart from what it may apply, whatever the shape
that it was read from -/
theorem isUnseen_read {shape : Shape} {place : Located} {mark : Char} (hmark : mark ∈ invisibleOperators)
    (hkind : shape.kind place.node = .operator) (hraw : Formula.rawText shape place.node = [mark]) :
    (Formula.read shape .default place).IsUnseen .default := by
  have hoperator : (Formula.read shape .default place).kind = .operator := by rw [Formula.kind_read, hkind]
  have hkey {c : Char} (hc : c ∉ invisibleOperators ++ Formula.straySigns) : (Formula.read shape .default place).key ≠ [c] := by
    intro hkey
    rw [Formula.key, Formula.facts_read] at hkey
    exact Formula.rawText_ne_mark hc hkey mark hmark hraw
  constructor
  · exact hoperator
  · have hshown : (Formula.read shape .default place).facts.raw = [mark] := by
      rw [Formula.facts_read]
      exact hraw
    rw [latex_operator hoperator, Formula.operatorLatex, hshown, if_pos (List.any_eq_true.2 ⟨mark, hmark, by simp⟩)]
  · intro c hc
    have all : ∀ c ∈ ['(', ')', '|'], c ∉ invisibleOperators ++ Formula.straySigns :=
      List.all_iff_forall_prop.1 (by decide)
    simp [Formula.isFence, hkey (all c hc)]
  · have all : ∀ glyph ∈ primeGlyphs, ∃ c, glyph = [c] ∧ c ∉ invisibleOperators ++ Formula.straySigns := by
      intro glyph hglyph
      simp only [primeGlyphs, List.mem_cons, List.not_mem_nil, or_false] at hglyph
      rcases hglyph with rfl | rfl
      · exact ⟨'\x27', rfl, by decide⟩
      · exact ⟨'′', rfl, by decide⟩
    rw [Formula.isPrime, Bool.and_eq_false_iff]
    right
    rw [Bool.eq_false_iff]
    intro hprime
    obtain ⟨c, hglyph, hc⟩ := all _ (List.contains_iff_mem.1 hprime)
    exact hkey hc hglyph

/-- **every mark of function application is one that shows nothing** -/
theorem isMark_read {shape : Shape} {place : Located} (hkind : shape.kind place.node = .operator)
    (hraw : Formula.rawText shape place.node = [applicationMark]) :
    (Formula.read shape .default place).IsMark .default := by
  have hunseen := isUnseen_read (by decide) hkind hraw
  have happlies : (Formula.read shape .default place).isApplication = true := by
    rw [Formula.isApplication, hunseen.operator, Formula.facts_read]
    simp [Formula.factsAt, hraw]
  exact ⟨happlies, hunseen.silent, hunseen.unfenced, hunseen.unprimed⟩

/-- a mark between an identifier and an operator -/
structure MarksOperator (symbols : SymbolTable) (f mark op : Formula) : Prop where
  identifier : f.kind = .identifier
  mark : mark.IsMark symbols
  operator : op.IsOrdinary

variable {f mark op g : Formula} {row other rest : List Formula}

/-- a row in which the mark stands between the identifier and the operator, and the same row without the mark -/
inductive Unmarked (f mark op : Formula) : List Formula → List Formula → Prop
  | here {rest : List Formula} : Unmarked f mark op (f :: mark :: op :: rest) (f :: op :: rest)
  | cons {g : Formula} {row other : List Formula} : Unmarked f mark op row other → Unmarked f mark op (g :: row) (g :: other)

theorem Unmarked.of_append (pre rest : List Formula) :
    Unmarked f mark op (pre ++ f :: mark :: op :: rest) (pre ++ f :: op :: rest) := by
  induction pre with
  | nil => exact .here
  | cons g pre ih => exact .cons ih

namespace MarksOperator

variable (h : MarksOperator symbols f mark op)

include h

theorem isFence_identifier (c : Char) : f.isFence c = false := by
  simp [Formula.isFence, h.identifier]

theorem isPrime_identifier : f.isPrime = false := by
  simp [Formula.isPrime, h.identifier]

theorem isApplication_identifier : f.isApplication = false := by
  simp [Formula.isApplication, h.identifier]

theorem canBeArgument_identifier : f.canBeArgument = true := by
  simp [Formula.canBeArgument, h.identifier]

theorem isParenthesized_identifier : f.isParenthesized = false := by
  simp [Formula.isParenthesized, h.identifier]

theorem kind_mark : mark.kind = .operator := by
  have happlies := h.mark.applies
  rw [Formula.isApplication, Bool.and_eq_true, decide_eq_true_eq] at happlies
  exact happlies.1

theorem letter?_mark : mark.letter? = none := by
  simp [Formula.letter?, h.kind_mark]

theorem letter?_operator : op.letter? = none := by
  simp [Formula.letter?, h.operator.operator]

theorem isBar_mark : mark.isBar = false :=
  h.mark.unfenced '|' (by decide)

theorem canBeArgument_operator : op.canBeArgument = false := by
  simp [Formula.canBeArgument, h.operator.operator, h.operator.unopening]

theorem isParenthesized_operator : op.isParenthesized = false := by
  simp [Formula.isParenthesized, h.operator.operator]

end MarksOperator

/-! ## Heads and arguments -/

/-- whether two rows begin with the operator, the first of them with the mark before it -/
def Passed (mark op : Formula) (row other : List Formula) : Prop :=
  ∃ rest, row = mark :: op :: rest ∧ other = op :: rest

theorem longestName_of_none {x : Formula} (hx : x.letter? = none) (name : Latex) (count : Nat) (best : Option (Latex × Nat))
    (rest : List Formula) : longestName symbols name count best (x :: rest) = best := by
  rw [longestName, hx]

theorem longestName_unmarked (h : MarksOperator symbols f mark op) (hrow : Unmarked f mark op row other) (name : Latex)
    (count : Nat) (best : Option (Latex × Nat)) :
    longestName symbols name count best row = longestName symbols name count best other := by
  induction hrow generalizing name count best with
  | here =>
    rw [longestName, longestName]
    simp only [longestName_of_none h.letter?_mark, longestName_of_none h.letter?_operator]
  | cons _ ih => simp only [longestName, ih]

/-- letters at the start of both rows end before the mark, at the identifier at the latest -/
theorem unmarked_letters (h : MarksOperator symbols f mark op) (hrow : Unmarked f mark op row other) {n : Nat}
    (hletters : ∀ x ∈ row.take n, x.letter?.isSome = true) :
    row.take n = other.take n ∧
      (Unmarked f mark op (row.drop n) (other.drop n) ∨ Passed mark op (row.drop n) (other.drop n)) := by
  induction hrow generalizing n with
  | @here rest =>
    match n with
    | 0 => exact ⟨rfl, .inl .here⟩
    | 1 => exact ⟨rfl, .inr ⟨rest, rfl, rfl⟩⟩
    | n + 2 =>
      have hmark := hletters mark (by simp)
      rw [h.letter?_mark] at hmark
      cases hmark
  | @cons g row other hrow ih =>
    match n with
    | 0 => exact ⟨rfl, .inl (.cons hrow)⟩
    | n + 1 =>
      have hrest := ih (n := n) fun x hx => hletters x (List.mem_cons_of_mem g hx)
      rw [List.take_succ_cons, List.take_succ_cons, hrest.1]
      exact ⟨rfl, hrest.2⟩

theorem takeHead_unmarked (h : MarksOperator symbols f mark op) (hrow : Unmarked f mark op row other) (g : Formula) :
    (takeHead symbols g row).1 = (takeHead symbols g other).1 ∧
      (Unmarked f mark op (takeHead symbols g row).2 (takeHead symbols g other).2 ∨
        Passed mark op (takeHead symbols g row).2 (takeHead symbols g other).2) := by
  have hname : spelledName? symbols g row = spelledName? symbols g other := by
    simp only [spelledName?, longestName_unmarked h hrow]
  unfold takeHead
  rw [← hname]
  split
  · rename_i name count hspelled
    have hletters : ∀ x ∈ row.take (count - 1), x.letter?.isSome = true := by
      unfold spelledName? at hspelled
      split at hspelled
      · split at hspelled
        · exact longestName_letters (by simp) hspelled
        · cases hspelled
      · cases hspelled
    obtain ⟨htake, hdrop⟩ := unmarked_letters h hrow hletters
    exact ⟨by rw [htake], hdrop⟩
  · exact ⟨rfl, .inl hrow⟩

/-- an identifier that no letter follows is a head by itself -/
theorem takeHead_of_none {x : Formula} (hx : x.letter? = none) (g : Formula) (rest : List Formula) :
    takeHead symbols g (x :: rest) = (.single g, x :: rest) := by
  have hname : spelledName? symbols g (x :: rest) = none := by
    unfold spelledName?
    split
    · split
      · exact longestName_of_none hx _ _ _ rest
      · rfl
    · rfl
  rw [takeHead, hname]

/-- what is taken off two rows up to some sibling: nothing, or pieces with the mark in one of them and not in the other -/
inductive Parted (f mark op : Formula) : Option (List Formula × List Formula) → Option (List Formula × List Formula) → Prop
  | none : Parted f mark op none none
  | before {group after after' : List Formula} :
    Unmarked f mark op after after' → Parted f mark op (some (group, after)) (some (group, after'))
  | within {group group' after : List Formula} :
    Unmarked f mark op group group' → Parted f mark op (some (group, after)) (some (group', after))

theorem Parted.cons {taken takenOther : Option (List Formula × List Formula)} (h : Parted f mark op taken takenOther)
    (g : Formula) :
    Parted f mark op (taken.map fun (group, after) => (g :: group, after))
      (takenOther.map fun (group, after) => (g :: group, after)) := by
  cases h with
  | none => exact .none
  | before hafter => exact .before hafter
  | within hgroup => exact .within (.cons hgroup)

/-- what is taken off a row that starts with the operator starts with the operator -/
theorem Parted.here {taken : Option (List Formula × List Formula)}
    (hop : ∀ group after, taken = some (group, after) → ∃ group', group = op :: group') :
    Parted f mark op
      ((taken.map fun (group, after) => (mark :: group, after)).map fun (group, after) => (f :: group, after))
      (taken.map fun (group, after) => (f :: group, after)) := by
  cases taken with
  | none => exact .none
  | some taken =>
    obtain ⟨group', hgroup⟩ := hop taken.1 taken.2 rfl
    simp only [Option.map_some, hgroup]
    exact .within .here

theorem takeGroup?_cons_of_unfenced {x : Formula} (hopening : x.isFence '(' = false) (hclosing : x.isFence ')' = false)
    (depth : Nat) (rest : List Formula) :
    takeGroup? depth (x :: rest) = (takeGroup? depth rest).map fun (group, after) => (x :: group, after) := by
  rw [takeGroup?, if_neg (by rw [hopening]; exact Bool.false_ne_true), if_neg (by rw [hclosing]; exact Bool.false_ne_true)]

theorem takeToBar?_cons_of_unbarred {x : Formula} (hbar : x.isBar = false) (rest : List Formula) :
    takeToBar? (x :: rest) = (takeToBar? rest).map fun (group, after) => (x :: group, after) := by
  rw [takeToBar?, if_neg (by rw [hbar]; exact Bool.false_ne_true)]

theorem head_of_takeGroup? {depth : Nat} {x : Formula} {group after : List Formula}
    (h : takeGroup? depth (x :: rest) = some (group, after)) : ∃ group', group = x :: group' := by
  have happend := takeGroup?_append h
  cases group with
  | nil =>
    rw [takeGroup?] at h
    split at h
    · simp at h
    · split at h
      · split at h
        · cases h
        · simp at h
      · simp at h
  | cons y group' =>
    rw [List.cons_append, List.cons.injEq] at happend
    exact ⟨group', by rw [happend.1]⟩

theorem head_of_takeToBar? {x : Formula} {group after : List Formula} (h : takeToBar? (x :: rest) = some (group, after)) :
    ∃ group', group = x :: group' := by
  have happend := takeToBar?_append h
  cases group with
  | nil =>
    rw [takeToBar?] at h
    split at h
    · cases h
    · simp at h
  | cons y group' =>
    rw [List.cons_append, List.cons.injEq] at happend
    exact ⟨group', by rw [happend.1]⟩

theorem takeGroup?_unmarked (h : MarksOperator symbols f mark op) (hrow : Unmarked f mark op row other) (depth : Nat) :
    Parted f mark op (takeGroup? depth row) (takeGroup? depth other) := by
  induction hrow generalizing depth with
  | here =>
    rw [takeGroup?_cons_of_unfenced (h.isFence_identifier _) (h.isFence_identifier _),
      takeGroup?_cons_of_unfenced (h.isFence_identifier _) (h.isFence_identifier _),
      takeGroup?_cons_of_unfenced (h.mark.unfenced '(' (by decide)) (h.mark.unfenced ')' (by decide))]
    exact .here fun group after htaken => head_of_takeGroup? htaken
  | @cons g row other hrow ih =>
    rw [takeGroup?, takeGroup?]
    split
    · exact (ih _).cons g
    · split
      · split
        · exact .before hrow
        · exact (ih _).cons g
      · exact (ih _).cons g

theorem takeToBar?_unmarked (h : MarksOperator symbols f mark op) (hrow : Unmarked f mark op row other) :
    Parted f mark op (takeToBar? row) (takeToBar? other) := by
  induction hrow with
  | here =>
    rw [takeToBar?_cons_of_unbarred (h.isFence_identifier '|'), takeToBar?_cons_of_unbarred (h.isFence_identifier '|'),
      takeToBar?_cons_of_unbarred h.isBar_mark]
    exact .here fun group after htaken => head_of_takeToBar? htaken
  | @cons g row other hrow ih =>
    rw [takeToBar?, takeToBar?]
    split
    · exact .before hrow
    · exact ih.cons g

/-- an argument and what follows it: the mark comes later, or right behind the argument, or in it -/
inductive TakenUnmarked (f mark op : Formula) : Argument × List Formula → Argument × List Formula → Prop
  | before {argument : Argument} {after after' : List Formula} :
    Unmarked f mark op after after' → TakenUnmarked f mark op (argument, after) (argument, after')
  | passing {rest : List Formula} : TakenUnmarked f mark op (.plain f, mark :: op :: rest) (.plain f, op :: rest)
  | group {group group' after : List Formula} :
    Unmarked f mark op group group' → TakenUnmarked f mark op (.group group, after) (.group group', after)
  | barred {group group' after : List Formula} :
    Unmarked f mark op group group' → TakenUnmarked f mark op (.barred group, after) (.barred group', after)

theorem takeArgument_unmarked (h : MarksOperator symbols f mark op) (hrow : Unmarked f mark op row other) :
    TakenUnmarked f mark op (takeArgument row) (takeArgument other) := by
  cases hrow with
  | here =>
    simp only [takeArgument, h.isFence_identifier, Formula.isBar, h.isParenthesized_identifier, Bool.false_eq_true, if_false]
    exact .passing
  | @cons g row other hrow =>
    simp only [takeArgument]
    split
    · have hgroup := takeGroup?_unmarked h (.cons (g := g) hrow) 0
      generalize takeGroup? 0 (g :: row) = taken at hgroup
      generalize takeGroup? 0 (g :: other) = takenOther at hgroup
      cases hgroup with
      | none => exact .before (.cons hrow)
      | before hafter => exact .before hafter
      | within hgroup => exact .group hgroup
    · split
      · have hgroup := takeToBar?_unmarked h hrow
        generalize takeToBar? row = taken at hgroup
        generalize takeToBar? other = takenOther at hgroup
        cases hgroup with
        | none => exact .before (.cons hrow)
        | before hafter => exact .before hafter
        | within hgroup => exact .barred (.cons hgroup)
      · split
        · exact .before hrow
        · exact .before hrow

theorem takeApplied_unmarked (h : MarksOperator symbols f mark op) (hrow : Unmarked f mark op row other) (g : Formula) :
    (takeApplied g row).1 = (takeApplied g other).1 ∧
      TakenUnmarked f mark op (takeApplied g row).2 (takeApplied g other).2 := by
  cases hrow with
  | @here rest =>
    simp only [takeApplied, h.isApplication_identifier, h.canBeArgument_identifier, Bool.and_true, Bool.false_eq_true, if_false]
    split
    · exact ⟨rfl, takeArgument_unmarked h .here⟩
    · exact ⟨rfl, .before .here⟩
  | @cons x row other hrow =>
    simp only [takeApplied]
    split
    · exact ⟨rfl, takeArgument_unmarked h hrow⟩
    · split
      · exact ⟨rfl, takeArgument_unmarked h (.cons hrow)⟩
      · exact ⟨rfl, .before (.cons hrow)⟩

theorem takePrime_unmarked (h : MarksOperator symbols f mark op) (hrow : Unmarked f mark op row other) :
    (takePrime row).1 = (takePrime other).1 ∧ Unmarked f mark op (takePrime row).2 (takePrime other).2 := by
  cases hrow with
  | here =>
    simp only [takePrime, h.isPrime_identifier, Bool.false_eq_true, if_false]
    exact ⟨trivial, .here⟩
  | @cons x row other hrow =>
    simp only [takePrime]
    split
    · exact ⟨rfl, hrow⟩
    · exact ⟨rfl, .cons hrow⟩

/-! ## Behind a head -/

section

variable (h : MarksOperator symbols f mark op) (paired : Bool) (rest : List Formula)

include h

theorem cut_mark : cut symbols paired (mark :: rest) = .single mark :: cut symbols paired rest := by
  rw [cut, if_neg (by rw [h.kind_mark]; decide), h.isBar_mark, Bool.and_false, if_neg Bool.false_ne_true]

theorem cut_ordinary : cut symbols paired (op :: rest) = .single op :: cut symbols paired rest := by
  rw [cut, if_neg (by rw [h.operator.operator]; decide), h.operator.unbarred, Bool.and_false, if_neg Bool.false_ne_true]

theorem takeArgument_ordinary : takeArgument (op :: rest) = (.plain op, rest) := by
  rw [takeArgument, h.operator.unopening, h.operator.unbarred, h.isParenthesized_operator]
  rfl

theorem takeApplied_marked (g : Formula) : takeApplied g (mark :: op :: rest) = (some mark, .plain op, rest) := by
  rw [takeApplied, if_pos h.mark.applies, takeArgument_ordinary h]

theorem takeApplied_ordinary (g : Formula) : takeApplied g (op :: rest) = (none, .absent, op :: rest) := by
  rw [takeApplied, h.operator.unapplied, h.canBeArgument_operator, Bool.and_false, if_neg Bool.false_ne_true,
    if_neg Bool.false_ne_true]

end

/-! ## Bars and sizes -/

theorem countP_isBar_unmarked (h : MarksOperator symbols f mark op) (hrow : Unmarked f mark op row other) :
    row.countP (·.isBar) = other.countP (·.isBar) := by
  induction hrow with
  | here =>
    have hmark : ¬ mark.isBar = true := by simp [h.isBar_mark]
    rw [List.countP_cons, List.countP_cons_of_neg hmark, ← List.countP_cons]
  | cons _ ih => rw [List.countP_cons, List.countP_cons, ih]

theorem hasBarPair_unmarked (h : MarksOperator symbols f mark op) (hrow : Unmarked f mark op row other) :
    hasBarPair row = hasBarPair other := by
  rw [hasBarPair, hasBarPair, countP_isBar_unmarked h hrow]

theorem any_isBar_unmarked (h : MarksOperator symbols f mark op) (hrow : Unmarked f mark op row other) :
    row.any (·.isBar) = other.any (·.isBar) := by
  induction hrow with
  | here => simp [h.isBar_mark]
  | cons _ ih => rw [List.any_cons, List.any_cons, ih]

/-- an argument and what follows it have fewer nodes than the row, as the head of the run is left out -/
theorem sizes_takeApplied_lt (symbols : SymbolTable) (g : Formula) (row : List Formula) :
    Formula.sizes (takeApplied g (takeHead symbols g row).2).2.1.nodes +
      Formula.sizes (takeApplied g (takeHead symbols g row).2).2.2 < Formula.sizes (g :: row) := by
  have hhead := congrArg Formula.sizes (nodes_takeHead symbols g row)
  have happlied := congrArg Formula.sizes (nodes_takeApplied g (takeHead symbols g row).2)
  have hpos := (takeHead symbols g row).1.sizes_nodes_pos
  simp only [Formula.sizes_append] at hhead happlied
  omega

end Untypeset
