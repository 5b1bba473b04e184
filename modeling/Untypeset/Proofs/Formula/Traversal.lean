import Mathlib.Data.List.Flatten
import Mathlib.Data.List.Perm.Subperm
import Untypeset.Proofs.Formula.Stable

/-!
How a conversion moves through a formula. Every layout walks through each of its arguments at most once and moves nowhere else, the
segments of a row share no sibling, and of an argument in parentheses either the whole is walked through or what stands between
them, never both. So whatever relates the moves of walks one after the other to the formulas of both together, and the moves inside
a node to the node, relates the moves of a conversion to its formula (`Traversal.latexOf`).
-/

namespace Untypeset

open Untypeset.Markup Untypeset.Rendering Untypeset.Symbol

/-! ## Moves -/

/-- whether a step enters or leaves a node -/
def Step.isMove : Step → Bool
  | .enter _ | .leave => true
  | .note _ => false

namespace Walk

/-- the nodes that a walk enters and leaves, without the notes that it makes -/
def moves {α : Type} (walk : Walk α) : List Step :=
  walk.trace.filter (·.isMove)

@[simp] theorem moves_pure {α : Type} (a : α) : (pure a : Walk α).moves = [] := rfl

@[simp] theorem moves_note (n : Note) : (note n).moves = [] := rfl

@[simp] theorem moves_bind {α β : Type} (walk : Walk α) (next : α → Walk β) :
    (walk >>= next).moves = walk.moves ++ (next walk.value).moves :=
  List.filter_append ..

@[simp] theorem moves_inside {α : Type} (position : Path) (walk : Walk α) :
    (inside position walk).moves = .enter position :: walk.moves ++ [.leave] := by
  simp [moves, Step.isMove]

@[simp] theorem moves_concat (walks : List (Walk Latex)) : (concat walks).moves = walks.flatMap moves := by
  rw [moves, trace_concat, List.filter_flatten, List.map_map, List.flatMap_def]
  rfl

end Walk

namespace Layout

variable (a b c : Walk Latex) (control : String)

@[simp] theorem moves_equality : (equality a b).moves = a.moves ++ b.moves := by
  simp [equality]

@[simp] theorem moves_squareRoot : (squareRoot a).moves = a.moves := by
  simp [squareRoot]

@[simp] theorem moves_root : (root a b).moves = a.moves ++ b.moves := by
  simp [root]

@[simp] theorem moves_fraction : (fraction a b).moves = a.moves ++ b.moves := by
  simp [fraction]

@[simp] theorem moves_subscript : (subscript a b).moves = a.moves ++ b.moves := by
  simp [subscript]

@[simp] theorem moves_superscript : (superscript a b).moves = a.moves ++ b.moves := by
  simp only [superscript, Walk.moves_bind]
  split
  · simp
  · split <;> simp

@[simp] theorem moves_integral : (integral b c).moves = b.moves ++ c.moves := by
  simp [integral]

/-- the limits are walked through before their base -/
@[simp] theorem moves_limits : (limits a b c).moves = b.moves ++ c.moves ++ a.moves := by
  simp [limits]

@[simp] theorem moves_overMark : (overMark control a).moves = a.moves := by
  simp [overMark]

@[simp] theorem moves_overscript : (overscript a b).moves = a.moves ++ b.moves := by
  simp only [overscript, Walk.moves_bind]
  split <;> simp

@[simp] theorem moves_functionName (name : Latex) : (functionName name).moves = [] := by
  simp [functionName]

@[simp] theorem moves_beside : (beside a b).moves = a.moves ++ b.moves := by
  simp [beside]

@[simp] theorem moves_inParens : (inParens a).moves = a.moves := by
  simp [inParens]

@[simp] theorem moves_inTightParens : (inTightParens a).moves = a.moves := by
  simp [inTightParens]

@[simp] theorem moves_withPrime : (withPrime a).moves = a.moves := by
  simp [withPrime]

end Layout

/-! ## What a conversion passes on -/

/-- a relation between moves and the formulas they are made in, which holds of what is put together if it holds of the pieces -/
structure Traversal (R : List Step → List Formula → Prop) : Prop where
  nil : R [] []
  append : ∀ {moves other row others}, R moves row → R other others → R (moves ++ other) (row ++ others)
  mono : ∀ {moves row others}, R moves row → row.Subperm others → R moves others
  leaf : ∀ {f : Formula}, f.kind.isLeaf = true → R [.enter f.facts.position, .leave] [f]
  inside : ∀ {f : Formula} {moves}, f.kind.isLeaf = false → f.kind ≠ .ignored → R moves f.parts →
    R (.enter f.facts.position :: moves ++ [.leave]) [f]
  inner : ∀ {f : Formula} {moves}, f.isParenthesized = true → R moves f.innerParts → R moves [f]

namespace Traversal

variable {R : List Step → List Formula → Prop} (hR : Traversal R) {symbols : SymbolTable} {row : List Formula} {f : Formula}

include hR

theorem none (row : List Formula) : R [] row :=
  hR.mono hR.nil (List.nil_subperm)

theorem of_sublist {moves : List Step} {others : List Formula} (h : R moves row) (hsub : row.Sublist others) : R moves others :=
  hR.mono h hsub.subperm

/-! ### Segments and rows -/

theorem head {head : Head} (formula : ∀ f ∈ head.nodes, R (latexOf symbols f).moves [f]) :
    R (head.walk symbols).moves head.nodes := by
  cases head with
  | spelled =>
    rw [Head.walk, Layout.moves_functionName]
    exact hR.none _
  | single f => exact formula f (List.mem_singleton_self f)

theorem argument {argument : Argument} (formula : ∀ f ∈ argument.nodes, R (latexOf symbols f).moves [f])
    (row : R (latexOfRow symbols argument.nodes).moves argument.nodes) : R (argument.walk symbols).moves argument.nodes := by
  cases argument with
  | absent => exact hR.nil
  | group => exact row
  | barred =>
    rw [Argument.walk, Layout.moves_inTightParens]
    exact row
  | enclosed f => exact formula f (List.mem_singleton_self f)
  | plain f =>
    rw [Argument.walk, Layout.moves_inTightParens]
    exact formula f (List.mem_singleton_self f)

/-- a run walks through its head and its argument; the mark and the prime are passed over -/
theorem run {run : Run} (formula : ∀ f ∈ run.nodes, R (latexOf symbols f).moves [f])
    (row : R (latexOfRow symbols run.argument.nodes).moves run.argument.nodes) : R (run.walk symbols).moves run.nodes := by
  have hhead : R (run.head.walk symbols).moves run.head.nodes :=
    hR.head fun f hf => formula f (by simp [Run.nodes, hf])
  have hargument : R (run.argument.walk symbols).moves run.argument.nodes :=
    hR.argument (fun f hf => formula f (by simp [Run.nodes, hf])) row
  have hmoves : (run.walk symbols).moves = (run.head.walk symbols).moves ++ (run.argument.walk symbols).moves := by
    rw [Run.walk]
    split <;> simp
  have hmark : (run.head.nodes ++ run.argument.nodes).Sublist (run.head.nodes ++ run.mark.toList ++ run.argument.nodes) :=
    (List.sublist_append_left _ _).append_right _
  rw [hmoves]
  exact hR.of_sublist (hR.append hhead hargument) (hmark.trans (List.sublist_append_left _ _))

theorem segment {segment : Segment} (formula : ∀ f ∈ segment.nodes, R (latexOf symbols f).moves [f])
    (row : ∀ run : Run, segment = .run run → R (latexOfRow symbols run.argument.nodes).moves run.argument.nodes) :
    R (latexOfSegment symbols segment).moves segment.nodes := by
  cases segment with
  | bar f opens =>
    rw [latexOfSegment_bar]
    exact hR.none _
  | single f =>
    rw [latexOfSegment_single]
    exact formula f (List.mem_singleton_self f)
  | run taken =>
    rw [latexOfSegment_run]
    exact hR.run formula (row taken rfl)

/-- segments share no sibling -/
theorem segments {list : List Segment} (h : ∀ segment ∈ list, R (latexOfSegment symbols segment).moves segment.nodes) :
    R (list.flatMap fun segment => (latexOfSegment symbols segment).moves) (list.flatMap Segment.nodes) := by
  induction list with
  | nil => exact hR.nil
  | cons segment rest ih =>
    rw [List.flatMap_cons, List.flatMap_cons]
    exact hR.append (h segment List.mem_cons_self) (ih fun s hs => h s (List.mem_cons_of_mem _ hs))

/-! ### Structures -/

theorem sides (row : ∀ inner, Formula.sizes inner < f.size → R (latexOfRow symbols inner).moves inner) :
    R (f.sidesWalk symbols).moves f.parts := by
  rw [Formula.sidesWalk]
  cases hsides : f.sides? with
  | none => exact row f.parts (by rw [f.size_eq]; omega)
  | some sides =>
    obtain ⟨left, right⟩ := sides
    obtain ⟨hleft, hright⟩ := Formula.sizes_sides hsides
    obtain ⟨equals, -, hparts⟩ := Formula.parts_of_sides hsides
    dsimp only
    rw [hparts, Layout.moves_equality]
    exact hR.of_sublist (hR.append (row left hleft) (row right hright)) ((List.sublist_cons_self equals right).append_left left)

/-- of a base in parentheses, either the whole is walked through or what stands between them -/
theorem base (whole : R (latexOf symbols f).moves [f]) (inner : R (latexOfRow symbols f.innerParts).moves f.innerParts) :
    R (f.baseWalk symbols).moves [f] := by
  unfold Formula.baseWalk
  split
  · rename_i hparen
    rw [Layout.moves_inParens]
    exact hR.inner hparen inner
  · split
    · rw [Layout.moves_inParens]
      exact whole
    · exact whole

/-- a structure with the expected number of arguments walks through each at most once -/
theorem fitted (hfit : f.kind.arity? = some f.parts.length) (part : ∀ p ∈ f.parts, R (latexOf symbols p).moves [p])
    (inner : ∀ p ∈ f.parts, R (latexOfRow symbols p.innerParts).moves p.innerParts) :
    R (structureOf symbols f).moves f.parts := by
  have hlength {n : Nat} (harity : f.kind.arity? = some n) : f.parts.length = n :=
    (Option.some.inj (harity.symm.trans hfit)).symm
  have pair {a b : Formula} (hp : f.parts = [a, b]) : R ((latexOf symbols a).moves ++ (latexOf symbols b).moves) [a, b] :=
    hR.append (part a (by simp [hp])) (part b (by simp [hp]))
  cases hk : f.kind <;> rw [hk] at hfit hlength
  case root =>
    obtain ⟨a, b, hp⟩ := List.length_eq_two.1 (hlength rfl)
    rw [structureOf_root hk hp, hp, Layout.moves_root]
    exact pair hp
  case fraction =>
    obtain ⟨a, b, hp⟩ := List.length_eq_two.1 (hlength rfl)
    rw [structureOf_fraction hk hp, hp, Layout.moves_fraction]
    exact pair hp
  case superscript =>
    obtain ⟨a, b, hp⟩ := List.length_eq_two.1 (hlength rfl)
    rw [structureOf_superscript hk hp, hp, Layout.moves_superscript]
    exact hR.append (hR.base (part a (by simp [hp])) (inner a (by simp [hp]))) (part b (by simp [hp]))
  case subscript | under =>
    obtain ⟨a, b, hp⟩ := List.length_eq_two.1 (hlength rfl)
    rw [structureOf_script (by simp [hk]) hp, hp, Layout.moves_subscript]
    exact pair hp
  case «over» =>
    obtain ⟨a, b, hp⟩ := List.length_eq_two.1 (hlength rfl)
    -- a mark that is drawn over its base is not walked through
    have hbase : R (latexOf symbols a).moves [a, b] := hR.of_sublist (part a (by simp [hp])) (List.sublist_append_left [a] [b])
    rw [structureOf_over hk hp, hp]
    split
    · rw [Layout.moves_overMark]
      exact hbase
    · split
      · rw [Layout.moves_overMark]
        exact hbase
      · rw [Layout.moves_overscript]
        exact pair hp
  case subsup | underover =>
    obtain ⟨a, b, c, hp⟩ := List.length_eq_three.1 (hlength rfl)
    have hscripts : R ((latexOf symbols b).moves ++ (latexOf symbols c).moves) [b, c] :=
      hR.append (part b (by simp [hp])) (part c (by simp [hp]))
    rw [structureOf_limits (by simp [hk]) hp, hp]
    split
    · rw [Layout.moves_integral]
      exact hR.of_sublist hscripts (List.sublist_cons_self a [b, c])
    · -- the base of limits is walked through last
      have hperm : ([b, c] ++ [a]).Perm ([a] ++ [b, c]) := List.perm_append_comm
      rw [Layout.moves_limits]
      exact hR.mono (hR.append hscripts (part a (by simp [hp]))) hperm.subperm
  all_goals cases hfit

theorem ofStructure (hk : f.kind.isLeaf = false) (hi : f.kind ≠ .ignored)
    (formula : ∀ g : Formula, g.size < f.size → R (latexOf symbols g).moves [g])
    (row : ∀ inner, Formula.sizes inner < f.size → R (latexOfRow symbols inner).moves inner) :
    R (structureOf symbols f).moves f.parts := by
  have hparts : R (latexOfRow symbols f.parts).moves f.parts := row f.parts (by rw [f.size_eq]; omega)
  cases harity : f.kind.arity? with
  | some n =>
    by_cases hn : f.parts.length = n
    · refine hR.fitted (by rw [harity, hn]) (fun p hp => formula p (Formula.size_lt_of_mem_parts hp)) fun p hp => ?_
      exact row p.innerParts (Nat.lt_trans p.sizes_innerParts_lt (Formula.size_lt_of_mem_parts hp))
    · rw [structureOf_misfit harity hn]
      exact hparts
  | none =>
    rcases Kind.cases_of_arity_none hk harity with hkind | hkind | hkind | hkind
    · exact absurd hkind hi
    · rw [structureOf_plain hkind]
      exact hparts
    · rw [structureOf_row hkind]
      exact hR.sides row
    · rw [structureOf_sqrt hkind, Layout.moves_squareRoot]
      exact hparts

/-- **the moves of a conversion** -/
theorem latexOf (symbols : SymbolTable) (f : Formula) : R (Untypeset.latexOf symbols f).moves [f] := by
  have hall := Formula.sizes_induction (A := fun f => R (Untypeset.latexOf symbols f).moves [f])
    (B := fun row => R (latexOfRow symbols row).moves row) ?_ ?_
  · exact hall.1 f
  · intro f formula row
    by_cases hi : f.kind = .ignored
    · rw [latexOf_ignored hi]
      exact hR.none _
    · rw [latexOf_counted hi, Walk.moves_inside]
      by_cases hk : f.kind.isLeaf = true
      · rw [structureOf_leaf hk]
        exact hR.leaf hk
      · simp only [Bool.not_eq_true] at hk
        exact hR.inside hk hi (hR.ofStructure hk hi formula row)
  · intro row formula inner
    rw [latexOfRow_eq, Walk.moves_concat, List.flatMap_map]
    conv => rhs; rw [← nodes_segments symbols row]
    apply hR.segments
    intro segment hsegment
    refine hR.segment ?_ ?_
    · intro g hg
      exact formula g (Formula.size_le_sizes (Segment.nodes_subset hsegment hg))
    · rintro run rfl
      exact inner run.argument.nodes (sizes_argument_lt hsegment)

end Traversal

end Untypeset
