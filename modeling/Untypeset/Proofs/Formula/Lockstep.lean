import Untypeset.Proofs.Formula.Stable
import Untypeset.Proofs.Formula.Twins

/-!
Conversions in lockstep. Two formulas are converted in lockstep if their walks take the same steps, up to the positions of the
nodes they enter: then the results agree, and so do the notes and the counts of nodes and depths. For this the formulas must have
the same shape, leaves must show the same, and the tests that layouts make on whole arguments must come out the same; what else
a structure may show does not matter (`Lockstep.unplaced_latexOf`).
-/

namespace Untypeset

open Untypeset.Markup Untypeset.Rendering Untypeset.Symbol

/-! ## Steps without positions -/

/-- a step without the position of the node it enters -/
def Step.unplaced : Step → Step
  | .enter _ => .enter []
  | step => step

namespace Walk

/-- a walk without the positions of the nodes it enters -/
def unplaced {α : Type} (walk : Walk α) : Walk α :=
  ⟨walk.value, walk.trace.map Step.unplaced⟩

@[simp] theorem value_unplaced {α : Type} (walk : Walk α) : walk.unplaced.value = walk.value := rfl

@[simp] theorem unplaced_pure {α : Type} (a : α) : (pure a : Walk α).unplaced = pure a := rfl

@[simp] theorem unplaced_note (n : Note) : (note n).unplaced = note n := rfl

@[simp] theorem unplaced_bind {α β : Type} (walk : Walk α) (next : α → Walk β) :
    (walk >>= next).unplaced = walk.unplaced >>= fun a => (next a).unplaced :=
  congrArg (Walk.mk _) List.map_append

@[simp] theorem unplaced_inside {α : Type} (position : Path) (walk : Walk α) :
    (inside position walk).unplaced = inside [] walk.unplaced := by
  simp [unplaced, inside, Step.unplaced]

@[simp] theorem unplaced_concat (walks : List (Walk Latex)) : (concat walks).unplaced = concat (walks.map unplaced) := by
  induction walks with
  | nil => rfl
  | cons walk rest ih =>
    rw [List.map_cons, concat, concat, ← ih, unplaced, List.map_append]
    rfl

theorem notes_unplaced {α : Type} (walk : Walk α) : walk.unplaced.notes = walk.notes := by
  rw [notes, notes, unplaced, List.filterMap_map]
  apply List.filterMap_congr
  intro step _
  cases step <;> rfl

end Walk

/-- counts do not depend on positions -/
theorem Tally.follow_unplaced {α : Type} (tally : Tally) (walk : Walk α) : tally.follow walk.unplaced = tally.follow walk := by
  rw [follow, follow, Walk.unplaced, List.foldl_map]
  congr 1
  funext tally step
  cases step <;> rfl

/-! ## Layouts -/

namespace Layout

variable (a b c : Walk Latex) (control : String)

@[simp] theorem unplaced_equality : (equality a b).unplaced = equality a.unplaced b.unplaced := by
  simp [equality]

@[simp] theorem unplaced_squareRoot : (squareRoot a).unplaced = squareRoot a.unplaced := by
  simp [squareRoot]

@[simp] theorem unplaced_root : (root a b).unplaced = root a.unplaced b.unplaced := by
  simp [root]

@[simp] theorem unplaced_fraction : (fraction a b).unplaced = fraction a.unplaced b.unplaced := by
  simp [fraction]

@[simp] theorem unplaced_subscript : (subscript a b).unplaced = subscript a.unplaced b.unplaced := by
  simp [subscript]

@[simp] theorem unplaced_superscript : (superscript a b).unplaced = superscript a.unplaced b.unplaced := by
  simp [superscript, apply_ite Walk.unplaced]

@[simp] theorem unplaced_integral : (integral b c).unplaced = integral b.unplaced c.unplaced := by
  simp [integral]

@[simp] theorem unplaced_limits : (limits a b c).unplaced = limits a.unplaced b.unplaced c.unplaced := by
  simp [limits]

@[simp] theorem unplaced_overMark : (overMark control a).unplaced = overMark control a.unplaced := by
  simp [overMark]

@[simp] theorem unplaced_overscript : (overscript a b).unplaced = overscript a.unplaced b.unplaced := by
  simp [overscript, apply_ite Walk.unplaced]

@[simp] theorem unplaced_beside : (beside a b).unplaced = beside a.unplaced b.unplaced := by
  simp [beside]

@[simp] theorem unplaced_inParens : (inParens a).unplaced = inParens a.unplaced := by
  simp [inParens]

@[simp] theorem unplaced_inTightParens : (inTightParens a).unplaced = inTightParens a.unplaced := by
  simp [inTightParens]

@[simp] theorem unplaced_withPrime : (withPrime a).unplaced = withPrime a.unplaced := by
  simp [withPrime]

end Layout

/-! ## Lockstep -/

/-- a relation between formulas that are converted in lockstep -/
structure Lockstep (A : Formula → Formula → Prop) : Prop where
  kind : ∀ {f g}, A f g → f.kind = g.kind
  role : ∀ {f g}, A f g → f.facts.role = g.facts.role
  type : ∀ {f g}, A f g → f.facts.type = g.facts.type
  variant : ∀ {f g}, A f g → f.facts.variant = g.facts.variant
  content : ∀ {f g}, A f g → f.kind.isLeaf = true → f.facts.content = g.facts.content
  raw : ∀ {f g}, A f g → f.kind.isLeaf = true → f.facts.raw = g.facts.raw
  parts : ∀ {f g}, A f g → f.kind.isLeaf = false → List.Forall₂ A f.parts g.parts
  integral : ∀ {f g}, A f g → f.isIntegral = g.isIntegral
  marks : ∀ {f g}, A f g → ∀ marks ∈ [vectorMarks, overlineMarks], f.showsAny marks = g.showsAny marks

namespace Lockstep

variable {A : Formula → Formula → Prop} {symbols : SymbolTable} {f g : Formula} {row other : List Formula}

theorem indistinct (hA : Lockstep A) : Indistinct A where
  kind := hA.kind
  role := hA.role
  type := hA.type
  key h hk := congrArg Text.trim (hA.content h hk)
  raw := hA.raw
  list h hk := hA.parts h (by
    rcases hk with hk | hk
    · rw [hk]
      rfl
    · cases hkind : Formula.kind _ <;> rw [hkind] at hk <;> first | rfl | cases hk)

/-- two formulas are converted in lockstep -/
def InStep (symbols : SymbolTable) (f g : Formula) : Prop :=
  (latexOf symbols f).unplaced = (latexOf symbols g).unplaced

/-- two rows are converted in lockstep -/
def RowsInStep (symbols : SymbolTable) (row other : List Formula) : Prop :=
  (latexOfRow symbols row).unplaced = (latexOfRow symbols other).unplaced

theorem leafLatex (hA : Lockstep A) (h : A f g) (hk : f.kind.isLeaf = true) :
    f.leafLatex symbols = g.leafLatex symbols := by
  have hkey : f.key = g.key := congrArg Text.trim (hA.content h hk)
  unfold Formula.leafLatex Formula.identifierLatex Formula.operatorLatex Formula.wordsLatex
  rw [hA.kind h, hkey, hA.content h hk, hA.raw h hk, hA.variant h]

/-! ## Segments -/

theorem head {head head' : Head} (h : head.Related A head')
    (formula : ∀ f ∈ head.nodes, ∀ g, A f g → InStep symbols f g) :
    (head.walk symbols).unplaced = (head'.walk symbols).unplaced := by
  cases h with
  | spelled => rfl
  | single h => exact formula _ (List.mem_singleton_self _) _ h

theorem argument {argument argument' : Argument} (h : argument.Related A argument')
    (formula : ∀ f ∈ argument.nodes, ∀ g, A f g → InStep symbols f g)
    (row : ∀ other, List.Forall₂ A argument.nodes other → RowsInStep symbols argument.nodes other) :
    (argument.walk symbols).unplaced = (argument'.walk symbols).unplaced := by
  cases h with
  | absent => rfl
  | group h => exact row _ h
  | barred h =>
    rw [Argument.walk, Argument.walk, Layout.unplaced_inTightParens, Layout.unplaced_inTightParens]
    exact congrArg Layout.inTightParens (row _ h)
  | enclosed h => exact formula _ (List.mem_singleton_self _) _ h
  | plain h =>
    rw [Argument.walk, Argument.walk, Layout.unplaced_inTightParens, Layout.unplaced_inTightParens,
      formula _ (List.mem_singleton_self _) _ h]

theorem segment {s t : Segment} (h : s.Related A t) (formula : ∀ f ∈ s.nodes, ∀ g, A f g → InStep symbols f g)
    (row : ∀ run : Run, s = .run run → ∀ other, List.Forall₂ A run.argument.nodes other →
      RowsInStep symbols run.argument.nodes other) :
    (latexOfSegment symbols s).unplaced = (latexOfSegment symbols t).unplaced := by
  cases h with
  | bar => rw [latexOfSegment_bar, latexOfSegment_bar]
  | single h =>
    rw [latexOfSegment_single, latexOfSegment_single]
    exact formula _ (List.mem_singleton_self _) _ h
  | @run run other h =>
    have hhead : (run.head.walk symbols).unplaced = (other.head.walk symbols).unplaced := by
      apply head h.head
      intro f hf
      exact formula f (by simp [Segment.nodes, Run.nodes, hf])
    have hargument : (run.argument.walk symbols).unplaced = (other.argument.walk symbols).unplaced := by
      refine argument h.argument ?_ (row run rfl)
      intro f hf
      exact formula f (by simp [Segment.nodes, Run.nodes, hf])
    have hunplaced (run : Run) : (run.walk symbols).unplaced =
        if run.prime.isSome then
          Layout.withPrime (Layout.beside (run.head.walk symbols).unplaced (run.argument.walk symbols).unplaced)
        else Layout.beside (run.head.walk symbols).unplaced (run.argument.walk symbols).unplaced := by
      rw [Run.walk]
      split <;> simp
    rw [latexOfSegment_run, latexOfSegment_run, hunplaced, hunplaced, hhead, hargument, h.prime]

/-! ## Structures -/

theorem sides (hA : Lockstep A) (h : A f g) (hk : f.kind = .row)
    (row : ∀ inner other, Formula.sizes inner < f.size → List.Forall₂ A inner other → RowsInStep symbols inner other) :
    (structureOf symbols f).unplaced = (structureOf symbols g).unplaced := by
  have hsides := hA.indistinct.sides? h hk
  rw [structureOf_row hk, structureOf_row ((hA.kind h).symm.trans hk), Formula.sidesWalk, Formula.sidesWalk]
  cases hf : f.sides? <;> cases hg : g.sides? <;> rw [hf, hg] at hsides
  · exact row _ _ (by rw [f.size_eq]; omega) (hA.parts h (by rw [hk]; rfl))
  · exact hsides.elim
  · exact hsides.elim
  · obtain ⟨hleft, hright⟩ := Formula.sizes_sides hf
    dsimp only
    rw [Layout.unplaced_equality, Layout.unplaced_equality, row _ _ hleft hsides.1, row _ _ hright hsides.2]

theorem base (hA : Lockstep A) (h : A f g) (whole : InStep symbols f g)
    (inner : ∀ other, List.Forall₂ A f.innerParts other → RowsInStep symbols f.innerParts other) :
    (f.baseWalk symbols).unplaced = (g.baseWalk symbols).unplaced := by
  unfold Formula.baseWalk
  rw [hA.indistinct.isParenthesized h, hA.indistinct.isCompound h]
  split
  · rename_i hparen
    rw [← hA.indistinct.isParenthesized h] at hparen
    have hparts : List.Forall₂ A f.parts g.parts := by
      apply hA.parts h
      rcases Formula.kind_of_isParenthesized hparen with hk | hk <;> rw [hk] <;> rfl
    rw [Layout.unplaced_inParens, Layout.unplaced_inParens, inner _ (Indistinct.forall₂_innerParts hparts)]
  · split
    · rw [Layout.unplaced_inParens, Layout.unplaced_inParens, whole]
    · exact whole

/-- a structure with the expected number of arguments -/
theorem fitted (hA : Lockstep A) (h : A f g) (hfit : f.kind.arity? = some f.parts.length)
    (part : ∀ p ∈ f.parts, ∀ q, A p q → InStep symbols p q)
    (inner : ∀ p ∈ f.parts, ∀ other, List.Forall₂ A p.innerParts other → RowsInStep symbols p.innerParts other) :
    (structureOf symbols f).unplaced = (structureOf symbols g).unplaced := by
  have hlength {n : Nat} (harity : f.kind.arity? = some n) : f.parts.length = n :=
    (Option.some.inj (harity.symm.trans hfit)).symm
  have hparts : List.Forall₂ A f.parts g.parts := by
    apply hA.parts h
    cases hk : f.kind <;> rw [hk] at hfit <;> first | rfl | cases hfit
  have pair (hn : f.parts.length = 2) : ∃ a b a' b', f.parts = [a, b] ∧ g.parts = [a', b'] ∧ A a a' ∧ A b b' ∧
      InStep symbols a a' ∧ InStep symbols b b' := by
    obtain ⟨a, b, hp⟩ := List.length_eq_two.1 hn
    obtain ⟨a', b', hp', ha, hb⟩ := pair_of_forall₂ (hp ▸ hparts)
    exact ⟨a, b, a', b', hp, hp', ha, hb, part a (by simp [hp]) a' ha, part b (by simp [hp]) b' hb⟩
  have hkind := hA.kind h
  cases hk : f.kind <;> rw [hk] at hfit hlength hkind
  case root =>
    obtain ⟨a, b, a', b', hp, hp', -, -, ha, hb⟩ := pair (hlength rfl)
    rw [structureOf_root hk hp, structureOf_root hkind.symm hp', Layout.unplaced_root, Layout.unplaced_root, ha, hb]
  case fraction =>
    obtain ⟨a, b, a', b', hp, hp', -, -, ha, hb⟩ := pair (hlength rfl)
    rw [structureOf_fraction hk hp, structureOf_fraction hkind.symm hp', Layout.unplaced_fraction, Layout.unplaced_fraction,
      ha, hb]
  case superscript =>
    obtain ⟨a, b, a', b', hp, hp', hbase, -, ha, hb⟩ := pair (hlength rfl)
    rw [structureOf_superscript hk hp, structureOf_superscript hkind.symm hp', Layout.unplaced_superscript,
      Layout.unplaced_superscript, hA.base hbase ha (inner a (by simp [hp])), hb]
  case subscript | under =>
    obtain ⟨a, b, a', b', hp, hp', -, -, ha, hb⟩ := pair (hlength rfl)
    rw [structureOf_script (by simp [hk]) hp, structureOf_script (by simp [← hkind]) hp', Layout.unplaced_subscript,
      Layout.unplaced_subscript, ha, hb]
  case «over» =>
    obtain ⟨a, b, a', b', hp, hp', -, hscript, ha, hb⟩ := pair (hlength rfl)
    rw [structureOf_over hk hp, structureOf_over hkind.symm hp', hA.marks hscript vectorMarks (by simp),
      hA.marks hscript overlineMarks (by simp), hA.type h]
    split
    · rw [Layout.unplaced_overMark, Layout.unplaced_overMark, ha]
    · split
      · rw [Layout.unplaced_overMark, Layout.unplaced_overMark, ha]
      · rw [Layout.unplaced_overscript, Layout.unplaced_overscript, ha, hb]
  case subsup | underover =>
    obtain ⟨a, b, c, hp⟩ := List.length_eq_three.1 (hlength rfl)
    obtain ⟨a', b', c', hp', hbase, hlower, hupper⟩ := triple_of_forall₂ (hp ▸ hparts)
    have ha : InStep symbols a a' := part a (by simp [hp]) a' hbase
    have hb : InStep symbols b b' := part b (by simp [hp]) b' hlower
    have hc : InStep symbols c c' := part c (by simp [hp]) c' hupper
    rw [structureOf_limits (by simp [hk]) hp, structureOf_limits (by simp [← hkind]) hp', hA.integral hbase]
    split
    · rw [Layout.unplaced_integral, Layout.unplaced_integral, hb, hc]
    · rw [Layout.unplaced_limits, Layout.unplaced_limits, ha, hb, hc]
  all_goals cases hfit

theorem whole (hA : Lockstep A) (h : A f g) (hk : f.kind.isLeaf = false) (hi : f.kind ≠ .ignored)
    (formula : ∀ p : Formula, p.size < f.size → ∀ q, A p q → InStep symbols p q)
    (row : ∀ inner other, Formula.sizes inner < f.size → List.Forall₂ A inner other → RowsInStep symbols inner other) :
    (structureOf symbols f).unplaced = (structureOf symbols g).unplaced := by
  have hparts := hA.parts h hk
  have hrows : RowsInStep symbols f.parts g.parts := row _ _ (by rw [f.size_eq]; omega) hparts
  have hkind := hA.kind h
  cases harity : f.kind.arity? with
  | some n =>
    by_cases hn : f.parts.length = n
    · refine hA.fitted h (by rw [harity, hn]) (fun p hp => formula p (Formula.size_lt_of_mem_parts hp)) ?_
      intro p hp other
      exact row _ _ (Nat.lt_trans p.sizes_innerParts_lt (Formula.size_lt_of_mem_parts hp))
    · rw [structureOf_misfit harity hn, structureOf_misfit (by rwa [← hkind]) (by rwa [← hparts.length_eq])]
      exact hrows
  | none =>
    rcases Kind.cases_of_arity_none hk harity with hf | hf | hf | hf
    · exact absurd hf hi
    · rw [structureOf_plain hf, structureOf_plain (by rwa [← hkind])]
      exact hrows
    · exact hA.sides h hf row
    · rw [structureOf_sqrt hf, structureOf_sqrt (hkind.symm.trans hf), Layout.unplaced_squareRoot,
        Layout.unplaced_squareRoot, hrows]

/-! ## Formulas and rows -/

private theorem inStep_node (hA : Lockstep A) {f : Formula}
    (formula : ∀ p : Formula, p.size < f.size → ∀ q, A p q → InStep symbols p q)
    (row : ∀ inner, Formula.sizes inner < f.size → ∀ other, List.Forall₂ A inner other → RowsInStep symbols inner other) :
    ∀ g, A f g → InStep symbols f g := by
  intro g h
  have hkind := hA.kind h
  rw [InStep]
  by_cases hi : f.kind = .ignored
  · rw [latexOf_ignored hi, latexOf_ignored (hkind.symm.trans hi)]
  · rw [latexOf_counted hi, latexOf_counted (by rwa [← hkind]), Walk.unplaced_inside, Walk.unplaced_inside]
    by_cases hk : f.kind.isLeaf = true
    · rw [structureOf_leaf hk, structureOf_leaf (by rwa [← hkind]), hA.leafLatex h hk]
    · simp only [Bool.not_eq_true] at hk
      rw [hA.whole h hk hi formula fun inner other hsize => row inner hsize other]

private theorem inStep_row (hA : Lockstep A) {row : List Formula}
    (formula : ∀ f : Formula, f.size ≤ Formula.sizes row → ∀ g, A f g → InStep symbols f g)
    (inner : ∀ inner, Formula.sizes inner < Formula.sizes row → ∀ other, List.Forall₂ A inner other →
      RowsInStep symbols inner other) :
    ∀ other, List.Forall₂ A row other → RowsInStep symbols row other := by
  intro other h
  rw [RowsInStep, latexOfRow_eq, latexOfRow_eq, Walk.unplaced_concat, Walk.unplaced_concat, List.map_map, List.map_map]
  congr 1
  rw [← List.forall₂_eq_eq_eq, List.forall₂_map_left_iff, List.forall₂_map_right_iff]
  refine ((List.forall₂_and_left _ _).2 ⟨fun s hs => hs, hA.indistinct.segments h⟩).imp ?_
  rintro s t ⟨hs, hst⟩
  refine segment hst ?_ ?_
  · intro f hf
    exact formula f (Formula.size_le_sizes (Segment.nodes_subset hs hf))
  · rintro run rfl
    exact inner run.argument.nodes (sizes_argument_lt hs)

/-- **related formulas are converted in lockstep** -/
theorem unplaced_latexOf (hA : Lockstep A) (h : A f g) :
    (latexOf symbols f).unplaced = (latexOf symbols g).unplaced :=
  (Formula.sizes_induction (fun _ => inStep_node hA) fun _ => inStep_row hA).1 f g h

/-- related rows are converted in lockstep -/
theorem unplaced_latexOfRow (hA : Lockstep A) (h : List.Forall₂ A row other) :
    (latexOfRow symbols row).unplaced = (latexOfRow symbols other).unplaced :=
  (Formula.sizes_induction (fun _ => inStep_node hA) fun _ => inStep_row hA).2 row other h

/-- related formulas have the same LaTeX -/
theorem latex (hA : Lockstep A) (symbols : SymbolTable) (h : A f g) : f.latex symbols = g.latex symbols := by
  have hvalue := congrArg Walk.value (hA.unplaced_latexOf h : (latexOf symbols f).unplaced = _)
  rwa [Walk.value_unplaced, Walk.value_unplaced] at hvalue

/-- related rows have the same LaTeX -/
theorem rows (hA : Lockstep A) (symbols : SymbolTable) (h : List.Forall₂ A row other) :
    rowLatex symbols row = rowLatex symbols other := by
  have hvalue := congrArg Walk.value (hA.unplaced_latexOfRow h : (latexOfRow symbols row).unplaced = _)
  rwa [Walk.value_unplaced, Walk.value_unplaced] at hvalue

end Lockstep

end Untypeset
