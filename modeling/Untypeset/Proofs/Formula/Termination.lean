import Untypeset.Conversion
import Untypeset.Proofs.Formula.Depth
import Untypeset.Proofs.Formula.Segments

/-!
Conversion as calls that end. Formulas, rows, what is left of a row, runs and arguments call one another. A run takes at least
its identifier and no more than there is (`takeRun_within`), and the row of an argument leaves that identifier out, so every
call is lighter than the one it is made by (`Call.respond?_eq`): the nodes still to be converted become fewer, or they stay and
the call comes closer to the single node. Calls nested no deeper than the weight of the first one therefore come to the walk
itself, and never run out (`within_eq`).
-/

namespace Untypeset

open Untypeset.Markup Untypeset.Rendering Untypeset.Symbol Untypeset.Layout

/-! ## What is taken -/

/-- the siblings that an identifier takes, itself included; the prime behind a run is not among them -/
def Run.taken (run : Run) : List Formula :=
  run.head.nodes ++ run.mark.toList ++ run.argument.nodes

/-- the siblings of an argument that are converted as a row of their own -/
def Argument.row? : Argument → Option (List Formula)
  | .group row | .barred row => some row
  | .absent | .enclosed _ | .plain _ => none

theorem Run.nodes_eq_taken (run : Run) : run.nodes = run.taken ++ run.prime.toList := rfl

theorem Run.length_taken_pos (run : Run) : 0 < run.taken.length := by
  have := List.length_pos_iff.2 run.head.nodes_ne_nil
  rw [Run.taken, List.length_append, List.length_append]
  omega

theorem Run.sizes_nodes (run : Run) : Formula.sizes run.nodes = Formula.sizes run.head.nodes + Formula.sizes run.mark.toList +
    Formula.sizes run.argument.nodes + Formula.sizes run.prime.toList :=
  size_run run

theorem Run.sizes_nodes_pos (run : Run) : 0 < Formula.sizes run.nodes := by
  have := run.head.sizes_nodes_pos
  rw [run.sizes_nodes]
  omega

theorem Argument.nodes_of_row? {argument : Argument} {inner : List Formula} (h : argument.row? = some inner) :
    argument.nodes = inner := by
  cases argument <;> cases h <;> rfl

/-- an argument reaches no further than the row -/
theorem takeArgument_within {row : List Formula} {start : Nat} (h : start ≤ row.length) :
    start + (takeArgument (row.drop start)).1.nodes.length ≤ row.length := by
  have hlength := congrArg List.length (nodes_takeArgument (row.drop start))
  rw [List.length_append, List.length_drop] at hlength
  omega

section

variable {symbols : SymbolTable} {row inner : List Formula} {f : Formula} {start : Nat}

theorem prefix_of_takeRun (symbols : SymbolTable) (f : Formula) (rest : List Formula) :
    (takeRun symbols f rest).1.taken <+: f :: rest := by
  rw [← nodes_takeRun symbols f rest, Run.nodes_eq_taken, List.append_assoc]
  exact List.prefix_append ..

/-- a run takes one sibling or more, and no more than there are -/
theorem takeRun_within (symbols : SymbolTable) (hf : row[start]? = some f) :
    1 ≤ (takeRun symbols f (row.drop (start + 1))).1.taken.length ∧
      (takeRun symbols f (row.drop (start + 1))).1.taken.length ≤ row.length - start := by
  obtain ⟨hstart, hget⟩ := List.getElem?_eq_some_iff.1 hf
  have hle := (prefix_of_takeRun symbols f (row.drop (start + 1))).length_le
  refine ⟨Run.length_taken_pos _, ?_⟩
  rw [List.length_cons, List.length_drop] at hle
  omega

/-- the row of an argument is a slice of the siblings, and a shorter one -/
theorem argument_shorter (hf : row[start]? = some f)
    (hinner : (takeRun symbols f (row.drop (start + 1))).1.argument.row? = some inner) :
    inner <:+: row ∧ inner.length < row.length := by
  obtain ⟨hstart, hget⟩ := List.getElem?_eq_some_iff.1 hf
  have htaken := prefix_of_takeRun symbols f (row.drop (start + 1))
  have hhead := List.length_pos_iff.2 (takeRun symbols f (row.drop (start + 1))).1.head.nodes_ne_nil
  have hlength := (takeRun_within symbols hf).2
  rw [Run.taken, Argument.nodes_of_row? hinner] at htaken hlength
  rw [← hget, List.getElem_cons_drop] at htaken
  refine ⟨(List.suffix_append _ inner).isInfix.trans (htaken.isInfix.trans (List.drop_suffix start row).isInfix), ?_⟩
  rw [List.length_append, List.length_append] at hlength
  omega

end

/-! ## Calls -/

/-- what a conversion is called for -/
inductive Call where
  /-- a formula -/
  | formula (f : Formula)
  /-- the siblings of a row -/
  | row (row : List Formula)
  /-- what is left of a row, which has a pair of bars or not -/
  | siblings (paired : Bool) (row : List Formula)
  /-- an identifier and all that it takes along -/
  | run (run : Run)
  /-- the argument of an identifier -/
  | argument (argument : Argument)

namespace Call

/-- the walk that answers a call -/
def answer (symbols : SymbolTable) : Call → Walk Latex
  | .formula f => latexOf symbols f
  | .row parts => latexOfRow symbols parts
  | .siblings paired parts => Walk.concat ((cut symbols paired parts).map (latexOfSegment symbols))
  | .run taken => taken.walk symbols
  | .argument taken => taken.walk symbols

/-- the nodes to be converted and, among calls for the same nodes, how far the call is from the first of them -/
def weight : Call → Nat
  | .formula f => 5 * f.size
  | .run taken => 5 * Formula.sizes taken.nodes + 1
  | .siblings _ parts => 5 * Formula.sizes parts + 2
  | .row parts => 5 * Formula.sizes parts + 3
  | .argument taken => 5 * Formula.sizes taken.nodes + 4

end Call

section

variable (symbols : SymbolTable) (ask : Call → Option (Walk Latex))

/-- the walk through the base of a superscript, by calls -/
def Formula.base? (base : Formula) : Option (Walk Latex) :=
  if base.isParenthesized then (ask (.row base.innerParts)).map inParens
  else if base.isCompound then (ask (.formula base)).map inParens
  else ask (.formula base)

/-- the walk through a formula by its kind, by calls -/
def Formula.structure? (f : Formula) : Option (Walk Latex) :=
  match f.kind, f.parts with
  | .row, parts =>
    match f.sides? with
    | some (left, right) => do return equality (← ask (.row left)) (← ask (.row right))
    | none => ask (.row parts)
  | .sqrt, parts => (ask (.row parts)).map squareRoot
  | .root, [base, index] => do return root (← ask (.formula base)) (← ask (.formula index))
  | .fraction, [numerator, denominator] => do return fraction (← ask (.formula numerator)) (← ask (.formula denominator))
  | .superscript, [base, exponent] => do return superscript (← base.base? ask) (← ask (.formula exponent))
  | .subscript, [base, script] | .under, [base, script] => do
    return subscript (← ask (.formula base)) (← ask (.formula script))
  | .subsup, [base, lower, upper] | .underover, [base, lower, upper] => do
    if base.isIntegral then return integral (← ask (.formula lower)) (← ask (.formula upper))
    else return limits (← ask (.formula base)) (← ask (.formula lower)) (← ask (.formula upper))
  | .over, [base, script] => do
    if script.showsAny vectorMarks then return overMark "\\overrightarrow" (← ask (.formula base))
    else if script.showsAny overlineMarks || f.facts.type = some "overscore" then
      return overMark "\\overline" (← ask (.formula base))
    else return overscript (← ask (.formula base)) (← ask (.formula script))
  | kind, parts => if kind.isLeaf then some (pure (f.leafLatex symbols)) else ask (.row parts)

/-- one call: what it comes to if the calls that it makes are answered by `ask` -/
def Call.respond? : Call → Option (Walk Latex)
  | .formula f => if f.kind = .ignored then some (pure []) else (f.structure? symbols ask).map (Walk.inside f.facts.position)
  | .row parts => ask (.siblings (hasBarPair parts) parts)
  | .siblings _ [] => some (pure [])
  | .siblings paired (f :: rest) =>
    if f.kind = .identifier then do
      return beside (← ask (.run (takeRun symbols f rest).1)) (← ask (.siblings paired (takeRun symbols f rest).2))
    else if paired && f.isBar then
      (ask (.siblings paired rest)).map (beside (latexOfSegment symbols (.bar f (rest.any (·.isBar)))))
    else do
      return beside (← ask (.formula f)) (← ask (.siblings paired rest))
  | .run taken => do
    let head ← match taken.head with
      | .spelled name _ _ => some (functionName name)
      | .single f => ask (.formula f)
    let bare := beside head (← ask (.argument taken.argument))
    return if taken.prime.isSome then withPrime bare else bare
  | .argument .absent => some (pure [])
  | .argument (.group parts) => ask (.row parts)
  | .argument (.barred parts) => (ask (.row parts)).map inTightParens
  | .argument (.enclosed f) => ask (.formula f)
  | .argument (.plain f) => (ask (.formula f)).map inTightParens

/-- conversion by calls that may be nested so many deep; there is no walk if they would have to be nested deeper -/
def within : Nat → Call → Option (Walk Latex)
  | 0, _ => none
  | n + 1, call => call.respond? symbols (within n)

end

/-! ## Every call is lighter than its caller -/

/-- several walks are the first one beside the others -/
theorem Walk.concat_cons (walk : Walk Latex) (rest : List (Walk Latex)) : concat (walk :: rest) = beside walk (concat rest) := by
  have htrace : (beside walk (concat rest)).trace = walk.trace ++ (concat rest).trace := by simp [beside]
  rw [concat, ← htrace]
  rfl

/-- calls lighter than a bound are answered -/
def Answers (symbols : SymbolTable) (ask : Call → Option (Walk Latex)) (bound : Nat) : Prop :=
  ∀ call : Call, call.weight < bound → ask call = some (call.answer symbols)

section

variable {symbols : SymbolTable} {ask : Call → Option (Walk Latex)} {bound : Nat} {f : Formula}

theorem Answers.formula (h : Answers symbols ask bound) (f : Formula) (hf : 5 * f.size < bound) :
    ask (.formula f) = some (latexOf symbols f) :=
  h (.formula f) hf

theorem Answers.row (h : Answers symbols ask bound) (row : List Formula) (hrow : 5 * Formula.sizes row + 3 < bound) :
    ask (.row row) = some (latexOfRow symbols row) :=
  h (.row row) hrow

theorem Answers.siblings (h : Answers symbols ask bound) (paired : Bool) (row : List Formula)
    (hrow : 5 * Formula.sizes row + 2 < bound) :
    ask (.siblings paired row) = some (Walk.concat ((cut symbols paired row).map (latexOfSegment symbols))) :=
  h (.siblings paired row) hrow

/-- the parts of a formula are called for by themselves and as a row -/
theorem Answers.part (h : Answers symbols ask (5 * f.size)) {p : Formula} (hp : p ∈ f.parts) :
    ask (.formula p) = some (latexOf symbols p) :=
  h.formula p (by have := Formula.size_lt_of_mem_parts hp; omega)

theorem Answers.parts (h : Answers symbols ask (5 * f.size)) : ask (.row f.parts) = some (latexOfRow symbols f.parts) :=
  h.row f.parts (by rw [f.size_eq]; omega)

theorem Answers.base (h : Answers symbols ask (5 * f.size)) {base : Formula} (hp : base ∈ f.parts) :
    base.base? ask = some (base.baseWalk symbols) := by
  have hinner : ask (.row base.innerParts) = some (latexOfRow symbols base.innerParts) := by
    have := Formula.size_lt_of_mem_parts hp
    have := base.sizes_innerParts_lt
    exact h.row base.innerParts (by omega)
  rw [Formula.base?, Formula.baseWalk, hinner, h.part hp]
  split
  · rfl
  · split <;> rfl

/-- a structure that is neither a row, nor a square root, nor fitted with its arguments is no more than a list of siblings -/
theorem structureOf_list (hleaf : f.kind.isLeaf = false) (hi : f.kind ≠ .ignored) (hrow : f.kind ≠ .row) (hsqrt : f.kind ≠ .sqrt)
    (hfit : f.kind.arity? ≠ some f.parts.length) : structureOf symbols f = latexOfRow symbols f.parts := by
  cases harity : f.kind.arity? with
  | some n =>
    rw [harity, Ne, Option.some.injEq] at hfit
    exact structureOf_misfit harity (Ne.symm hfit)
  | none =>
    rcases Kind.cases_of_arity_none hleaf harity with hk | hk | hk | hk
    · exact absurd hk hi
    · exact structureOf_plain hk
    · exact absurd hk hrow
    · exact absurd hk hsqrt

/-- the calls for the parts of a formula are lighter than the call for the formula -/
theorem Answers.structure (h : Answers symbols ask (5 * f.size)) (hi : f.kind ≠ .ignored) :
    f.structure? symbols ask = some (structureOf symbols f) := by
  unfold Formula.structure?
  split
  case h_1 hk =>
    rw [structureOf_row hk, Formula.sidesWalk]
    cases hsides : f.sides? with
    | none => exact h.parts
    | some sides =>
      obtain ⟨left, right⟩ := sides
      obtain ⟨hleft, hright⟩ := Formula.sizes_sides hsides
      dsimp only
      rw [h.row left (by omega), h.row right (by omega)]
      rfl
  case h_2 hk =>
    rw [structureOf_sqrt hk, h.parts]
    rfl
  case h_3 hk hp =>
    rw [structureOf_root hk hp, h.part (by simp [hp]), h.part (by simp [hp])]
    rfl
  case h_4 hk hp =>
    rw [structureOf_fraction hk hp, h.part (by simp [hp]), h.part (by simp [hp])]
    rfl
  case h_5 hk hp =>
    rw [structureOf_superscript hk hp, h.base (by simp [hp]), h.part (by simp [hp])]
    rfl
  case h_6 hk hp | h_7 hk hp =>
    rw [structureOf_script (by simp [hk]) hp, h.part (by simp [hp]), h.part (by simp [hp])]
    rfl
  case h_8 hk hp | h_9 hk hp =>
    rw [structureOf_limits (by simp [hk]) hp, h.part (by simp [hp]), h.part (by simp [hp]), h.part (by simp [hp])]
    split <;> rfl
  case h_10 hk hp =>
    rw [structureOf_over hk hp, h.part (by simp [hp]), h.part (by simp [hp])]
    split
    · rfl
    · split <;> rfl
  case h_11 hrow hsqrt hroot hfraction hsuperscript hsubscript hunder hsubsup hunderover hover =>
    by_cases hleaf : f.kind.isLeaf = true
    · rw [if_pos hleaf, structureOf_leaf hleaf]
    · rw [if_neg hleaf, h.parts, structureOf_list (by simpa using hleaf) hi hrow hsqrt]
      intro hfit
      have hlength {n : Nat} (harity : f.kind.arity? = some n) : f.parts.length = n :=
        (Option.some.inj (harity.symm.trans hfit)).symm
      cases hk : f.kind <;> rw [hk] at hfit hlength <;> try cases hfit
      case root | fraction | superscript | subscript | under | «over» =>
        obtain ⟨a, b, hp⟩ := List.length_eq_two.1 (hlength rfl)
        first
          | exact hroot a b hk hp
          | exact hfraction a b hk hp
          | exact hsuperscript a b hk hp
          | exact hsubscript a b hk hp
          | exact hunder a b hk hp
          | exact hover a b hk hp
      case subsup | underover =>
        obtain ⟨a, b, c, hp⟩ := List.length_eq_three.1 (hlength rfl)
        first
          | exact hsubsup a b c hk hp
          | exact hunderover a b c hk hp

theorem Answers.run {run : Run} (h : Answers symbols ask (5 * Formula.sizes run.nodes + 1)) :
    (Call.run run).respond? symbols ask = some (run.walk symbols) := by
  have hsizes := run.sizes_nodes
  have hpos := run.head.sizes_nodes_pos
  have hargument : ask (.argument run.argument) = some (run.argument.walk symbols) :=
    h (.argument run.argument) (by rw [Call.weight]; omega)
  rw [Call.respond?, hargument, Run.walk]
  cases hhead : run.head with
  | spelled name first letters => rfl
  | single f =>
    rw [hhead, Head.nodes, Formula.sizes, Formula.sizes] at hsizes
    dsimp only
    rw [h.formula f (by omega)]
    rfl

theorem Answers.argument {argument : Argument} (h : Answers symbols ask (5 * Formula.sizes argument.nodes + 4)) :
    (Call.argument argument).respond? symbols ask = some (argument.walk symbols) := by
  cases argument with
  | absent => rfl
  | group row => exact h.row row (Nat.lt_succ_self _)
  | barred row =>
    rw [Call.respond?, h.row row (Nat.lt_succ_self _)]
    rfl
  | enclosed f => exact h.formula f (by rw [Argument.nodes, Formula.sizes, Formula.sizes]; omega)
  | plain f =>
    rw [Call.respond?, h.formula f (by rw [Argument.nodes, Formula.sizes, Formula.sizes]; omega)]
    rfl

/-- what is left of a row: the first segment has nodes of its own, so less is left behind it -/
theorem Answers.rest {paired : Bool} {row : List Formula} (h : Answers symbols ask (5 * Formula.sizes row + 2)) :
    (Call.siblings paired row).respond? symbols ask =
      some (Walk.concat ((cut symbols paired row).map (latexOfSegment symbols))) := by
  cases row with
  | nil =>
    rw [cut]
    rfl
  | cons f rest =>
    have hpos := f.size_pos
    rw [Formula.sizes] at h
    have hrest : ask (.siblings paired rest) = some (Walk.concat ((cut symbols paired rest).map (latexOfSegment symbols))) :=
      h.siblings paired rest (by omega)
    have hf : ask (.formula f) = some (latexOf symbols f) := h.formula f (by omega)
    rw [Call.respond?, cut]
    split
    · have hsizes := congrArg Formula.sizes (nodes_takeRun symbols f rest)
      have htaken := (takeRun symbols f rest).1.sizes_nodes_pos
      rw [Formula.sizes_append, Formula.sizes] at hsizes
      rw [h (.run (takeRun symbols f rest).1) (by rw [Call.weight]; omega),
        h.siblings paired (takeRun symbols f rest).2 (by omega), List.map_cons, Walk.concat_cons, latexOfSegment_run]
      rfl
    · split
      · rw [hrest, List.map_cons, Walk.concat_cons]
        rfl
      · rw [hf, hrest, List.map_cons, Walk.concat_cons, latexOfSegment_single]
        rfl

/-- **one call**: whatever a call asks for is lighter than the call, and from the answers it comes to its own -/
theorem Call.respond?_eq (call : Call) (h : Answers symbols ask call.weight) :
    call.respond? symbols ask = some (call.answer symbols) := by
  cases call with
  | formula f =>
    rw [Call.respond?, Call.answer]
    split
    · rename_i hi
      rw [latexOf_ignored hi]
    · rename_i hi
      rw [h.structure hi, latexOf_counted hi]
      rfl
  | row row =>
    rw [Call.respond?, h.siblings (hasBarPair row) row (Nat.lt_succ_self _), Call.answer, latexOfRow_eq]
    rfl
  | siblings paired row => exact h.rest
  | run run => exact h.run
  | argument argument => exact h.argument

/-- **nested calls do not run out**: if they may be nested deeper than the weight of a call, they come to its answer -/
theorem within_eq {n : Nat} {call : Call} (h : call.weight < n) : within symbols n call = some (call.answer symbols) := by
  induction n generalizing call with
  | zero => cases h
  | succ n ih => exact call.respond?_eq fun other hother => ih (by omega)

end

/-! ## Termination and its bounds -/

/-- **conversion ends, within its bounds**: the parts of a node stand strictly below it; an argument and a run take no more
siblings than there are, a run at least one, and the row of an argument is a slice that is shorter than its row; calls nested
deeper than the weight of the first one is never come to its answer; and a conversion, whatever was counted before, comes back to
the depth at which it began and goes down at most the levels of the tree -/
theorem conversion_terminates (shape : Shape) (symbols : SymbolTable) (place : Located) :
    (∀ part, part ∈ shape.children place ∨ part ∈ shape.radicand place → part ∈ place.descendants) ∧
      (∀ (row : List Formula) (start : Nat), start ≤ row.length →
        start + (takeArgument (row.drop start)).1.nodes.length ≤ row.length) ∧
      (∀ (row : List Formula) (start : Nat) (f : Formula), row[start]? = some f →
        let run := (takeRun symbols f (row.drop (start + 1))).1
        1 ≤ run.taken.length ∧ run.taken.length ≤ row.length - start ∧
          ∀ inner, run.argument.row? = some inner → inner <:+: row ∧ inner.length < row.length) ∧
      (∀ (call : Call) (n : Nat), call.weight < n → within symbols n call = some (call.answer symbols)) ∧
      ∀ tally : Tally, (tally.follow (walkAt shape symbols place)).depth = tally.depth ∧
        (tally.follow (walkAt shape symbols place)).maxDepth ≤ max tally.maxDepth (tally.depth + place.node.height) := by
  refine ⟨?_, fun row start => takeArgument_within, ?_, fun call n => within_eq, ?_⟩
  · rintro part (hpart | hpart)
    · exact Shape.mem_descendants_of_children hpart
    · exact Shape.mem_descendants_of_radicand hpart
  · intro row start f hf
    obtain ⟨hpos, hle⟩ := takeRun_within symbols hf
    exact ⟨hpos, hle, fun inner => argument_shorter hf⟩
  · intro tally
    have hwalk := (staysWithin_latexOf symbols (Formula.read shape symbols place)).mono
      (Formula.height_read_le shape symbols place)
    rw [Tally.follow_eq]
    exact ⟨hwalk.depth tally, hwalk.maxDepth tally⟩

end Untypeset
