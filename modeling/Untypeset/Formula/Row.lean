import Untypeset.Formula.Leaf

/-!
Rows of siblings, cut into segments that are converted as a whole: an identifier together with the letters, the argument
and the prime it takes along, a bar that has a partner, or a single sibling. The cut depends on the siblings alone and
not on what they convert to. No sibling is lost: the segments laid out in order are the row (`nodes_segments`).
-/

namespace Untypeset

open Untypeset.Symbol Untypeset.Text

namespace Formula

mutual

/-- the number of nodes of a formula -/
def size : Formula → Nat
  | .node _ parts => 1 + sizes parts

/-- the number of nodes of several formulas together -/
def sizes : List Formula → Nat
  | [] => 0
  | f :: rest => size f + sizes rest

end

theorem size_eq (f : Formula) : f.size = 1 + sizes f.parts := by
  cases f
  rfl

theorem sizes_append (a b : List Formula) : sizes (a ++ b) = sizes a + sizes b := by
  induction a with
  | nil => simp [sizes]
  | cons f rest ih => simp only [List.cons_append, sizes, ih]; omega

theorem size_le_sizes {f : Formula} {row : List Formula} (h : f ∈ row) : f.size ≤ sizes row := by
  induction row with
  | nil => cases h
  | cons head rest ih =>
    simp only [sizes]
    rcases List.mem_cons.1 h with rfl | h
    · omega
    · have := ih h
      omega

theorem sizes_le_of_sublist {a b : List Formula} (h : a.Sublist b) : sizes a ≤ sizes b := by
  induction h with
  | slnil => exact Nat.le_refl _
  | cons f _ ih => simp only [sizes]; omega
  | cons_cons f _ ih => simp only [sizes]; omega

end Formula

/-! ## Segments -/

/-- what an identifier segment begins with -/
inductive Head where
  /-- the letters of a function name, one identifier each -/
  | spelled (name : Latex) (first : Formula) (letters : List Formula)
  /-- any other identifier -/
  | single (f : Formula)

/-- the argument that an identifier takes along -/
inductive Argument where
  /-- nothing -/
  | absent
  /-- siblings from an opening parenthesis to the one that closes it -/
  | group (row : List Formula)
  /-- siblings from a bar to the next one -/
  | barred (row : List Formula)
  /-- a row that has parentheses of its own -/
  | enclosed (f : Formula)
  /-- any other sibling -/
  | plain (f : Formula)

/-- an identifier and all that it takes along -/
structure Run where
  head : Head
  mark : Option Formula
  argument : Argument
  prime : Option Formula

/-- a piece of a row that is converted as a whole -/
inductive Segment where
  | run (run : Run)
  | bar (f : Formula) (opens : Bool)
  | single (f : Formula)

/-- the siblings of a head -/
def Head.nodes : Head → List Formula
  | .spelled _ first letters => first :: letters
  | .single f => [f]

/-- the siblings of an argument -/
def Argument.nodes : Argument → List Formula
  | .absent => []
  | .group row | .barred row => row
  | .enclosed f | .plain f => [f]

/-- the siblings of a run -/
def Run.nodes (run : Run) : List Formula :=
  run.head.nodes ++ run.mark.toList ++ run.argument.nodes ++ run.prime.toList

/-- the siblings of a segment -/
def Segment.nodes : Segment → List Formula
  | .run taken => taken.nodes
  | .bar f _ => [f]
  | .single f => [f]

/-! ## Function names spelled by letters -/

/-- the single letter that an identifier shows -/
def Formula.letter? (f : Formula) : Option Char :=
  if f.kind = .identifier then
    match f.key with
    | [c] => if isLetter c then some c else none
    | _ => none
  else
    none

/-- extends the letters `name` by those of the siblings as long as a function name starts like that; `best` is the
longest complete name met so far, with the number of siblings that spell it -/
def longestName (symbols : SymbolTable) (name : Latex) (count : Nat) (best : Option (Latex × Nat)) :
    List Formula → Option (Latex × Nat)
  | [] => best
  | f :: rest =>
    match f.letter? with
    | none => best
    | some c =>
      if symbols.startsFunction (name ++ [c]) then
        let best := if symbols.isFunction (name ++ [c]) then some (name ++ [c], count + 1) else best
        longestName symbols (name ++ [c]) (count + 1) best rest
      else
        best

/-- the function name that the siblings from an identifier on spell, and how many of them -/
def spelledName? (symbols : SymbolTable) (f : Formula) (rest : List Formula) : Option (Latex × Nat) :=
  match f.key with
  | [c] => if symbols.startsFunction [c] then longestName symbols [c] 1 none rest else none
  | _ => none

/-- the head of a run, and the siblings after it -/
def takeHead (symbols : SymbolTable) (f : Formula) (rest : List Formula) : Head × List Formula :=
  match spelledName? symbols f rest with
  | some (name, count) => (.spelled name f (rest.take (count - 1)), rest.drop (count - 1))
  | none => (.single f, rest)

/-! ## Arguments -/

/-- the siblings up to the parenthesis that closes `depth` open ones, and those after it -/
def takeGroup? (depth : Nat) : List Formula → Option (List Formula × List Formula)
  | [] => none
  | f :: rest =>
    if f.isFence '(' then (takeGroup? (depth + 1) rest).map fun (group, after) => (f :: group, after)
    else if f.isFence ')' then
      if depth ≤ 1 then some ([f], rest)
      else (takeGroup? (depth - 1) rest).map fun (group, after) => (f :: group, after)
    else (takeGroup? depth rest).map fun (group, after) => (f :: group, after)

/-- the siblings up to the next bar, and those after it -/
def takeToBar? : List Formula → Option (List Formula × List Formula)
  | [] => none
  | f :: rest =>
    if f.isBar then some ([f], rest) else (takeToBar? rest).map fun (group, after) => (f :: group, after)

/-- the argument at the start of a list of siblings, and those after it; a parenthesis or a bar that is never closed
begins none -/
def takeArgument : List Formula → Argument × List Formula
  | [] => (.absent, [])
  | f :: rest =>
    if f.isFence '(' then
      match takeGroup? 0 (f :: rest) with
      | some (group, after) => (.group group, after)
      | none => (.absent, f :: rest)
    else if f.isBar then
      match takeToBar? rest with
      | some (group, after) => (.barred (f :: group), after)
      | none => (.absent, f :: rest)
    else if f.isParenthesized then (.enclosed f, rest)
    else (.plain f, rest)

/-- the application mark and the argument after an identifier, and the siblings after them -/
def takeApplied (f : Formula) : List Formula → Option Formula × Argument × List Formula
  | [] => (none, .absent, [])
  | next :: rest =>
    if next.isApplication then (some next, takeArgument rest)
    else if f.takesArgument && next.canBeArgument then (none, takeArgument (next :: rest))
    else (none, .absent, next :: rest)

/-- a prime at the start of a list of siblings, and those after it -/
def takePrime : List Formula → Option Formula × List Formula
  | [] => (none, [])
  | f :: rest => if f.isPrime then (some f, rest) else (none, f :: rest)

/-- the run that starts with an identifier, and the siblings after it -/
def takeRun (symbols : SymbolTable) (f : Formula) (rest : List Formula) : Run × List Formula :=
  let (head, afterHead) := takeHead symbols f rest
  let (mark, argument, afterArgument) := takeApplied f afterHead
  let (prime, after) := takePrime afterArgument
  (⟨head, mark, argument, prime⟩, after)

/-! ## Nothing is lost -/

theorem nodes_takeHead (symbols : SymbolTable) (f : Formula) (rest : List Formula) :
    (takeHead symbols f rest).1.nodes ++ (takeHead symbols f rest).2 = f :: rest := by
  unfold takeHead
  split <;> simp [Head.nodes]

theorem takeGroup?_append {depth : Nat} {row group after : List Formula}
    (h : takeGroup? depth row = some (group, after)) : group ++ after = row := by
  fun_induction takeGroup? depth row generalizing group after with
  | case1 => simp at h
  | case2 depth f rest _ ih =>
    obtain ⟨⟨g, a⟩, hg, he⟩ := Option.map_eq_some_iff.1 h
    cases he
    simp [ih hg]
  | case3 depth f rest _ _ _ =>
    cases h
    rfl
  | case4 depth f rest _ _ _ ih =>
    obtain ⟨⟨g, a⟩, hg, he⟩ := Option.map_eq_some_iff.1 h
    cases he
    simp [ih hg]
  | case5 depth f rest _ _ ih =>
    obtain ⟨⟨g, a⟩, hg, he⟩ := Option.map_eq_some_iff.1 h
    cases he
    simp [ih hg]

theorem takeToBar?_append {row group after : List Formula} (h : takeToBar? row = some (group, after)) :
    group ++ after = row := by
  fun_induction takeToBar? row generalizing group after with
  | case1 => simp at h
  | case2 f rest _ =>
    cases h
    rfl
  | case3 f rest _ ih =>
    obtain ⟨⟨g, a⟩, hg, he⟩ := Option.map_eq_some_iff.1 h
    cases he
    simp [ih hg]

theorem nodes_takeArgument (row : List Formula) : (takeArgument row).1.nodes ++ (takeArgument row).2 = row := by
  cases row with
  | nil => rfl
  | cons f rest =>
    simp only [takeArgument]
    split
    · split
      · rename_i group after h
        exact takeGroup?_append h
      · rfl
    · split
      · split
        · rename_i group after h
          simp [Argument.nodes, takeToBar?_append h]
        · rfl
      · split <;> rfl

theorem nodes_takeApplied (f : Formula) (row : List Formula) :
    (takeApplied f row).1.toList ++ (takeApplied f row).2.1.nodes ++ (takeApplied f row).2.2 = row := by
  cases row with
  | nil => rfl
  | cons next rest =>
    simp only [takeApplied]
    split
    · simp [nodes_takeArgument]
    · split
      · simp [nodes_takeArgument]
      · simp [Argument.nodes]

theorem nodes_takePrime (row : List Formula) : (takePrime row).1.toList ++ (takePrime row).2 = row := by
  cases row with
  | nil => rfl
  | cons f rest =>
    simp only [takePrime]
    split <;> simp

theorem nodes_takeRun (symbols : SymbolTable) (f : Formula) (rest : List Formula) :
    (takeRun symbols f rest).1.nodes ++ (takeRun symbols f rest).2 = f :: rest := by
  have h₁ := nodes_takeHead symbols f rest
  have h₂ := nodes_takeApplied f (takeHead symbols f rest).2
  have h₃ := nodes_takePrime (takeApplied f (takeHead symbols f rest).2).2.2
  simp only [takeRun, Run.nodes, List.append_assoc] at h₁ h₂ h₃ ⊢
  rw [h₃, h₂, h₁]

theorem Head.nodes_ne_nil (head : Head) : head.nodes ≠ [] := by
  cases head <;> simp [Head.nodes]

theorem length_takeRun (symbols : SymbolTable) (f : Formula) (rest : List Formula) :
    (takeRun symbols f rest).2.length < (f :: rest).length := by
  have h := congrArg List.length (nodes_takeRun symbols f rest)
  have hpos := List.length_pos_iff.2 (takeHead symbols f rest).1.nodes_ne_nil
  rw [List.length_append] at h
  have : 0 < (takeRun symbols f rest).1.nodes.length := by
    simp only [takeRun, Run.nodes, List.length_append]
    omega
  omega

/-! ## The cut of a row -/

/-- whether a row holds exactly two bars, which are then a pair -/
def hasBarPair (row : List Formula) : Bool :=
  row.countP (·.isBar) = 2

/-- cuts a row; in a row with a pair of bars, a bar opens if another one follows -/
def cut (symbols : SymbolTable) (paired : Bool) : List Formula → List Segment
  | [] => []
  | f :: rest =>
    if f.kind = .identifier then
      .run (takeRun symbols f rest).1 :: cut symbols paired (takeRun symbols f rest).2
    else if paired && f.isBar then .bar f (rest.any (·.isBar)) :: cut symbols paired rest
    else .single f :: cut symbols paired rest
termination_by row => row.length
decreasing_by
  · exact length_takeRun symbols f rest
  · simp
  · simp

/-- the segments of a row -/
def segments (symbols : SymbolTable) (row : List Formula) : List Segment :=
  cut symbols (hasBarPair row) row

theorem nodes_cut (symbols : SymbolTable) (paired : Bool) (row : List Formula) :
    (cut symbols paired row).flatMap Segment.nodes = row := by
  fun_induction cut symbols paired row with
  | case1 => rfl
  | case2 f rest _ ih => simp only [List.flatMap_cons, ih, Segment.nodes, nodes_takeRun]
  | case3 f rest _ _ ih => simp [ih, Segment.nodes]
  | case4 f rest _ _ ih => simp [ih, Segment.nodes]

theorem nodes_segments (symbols : SymbolTable) (row : List Formula) :
    (segments symbols row).flatMap Segment.nodes = row :=
  nodes_cut ..

/-- the number of nodes of a segment -/
def Segment.size (segment : Segment) : Nat :=
  Formula.sizes segment.nodes

theorem size_run (run : Run) :
    (Segment.run run).size =
      Formula.sizes run.head.nodes + Formula.sizes run.mark.toList + Formula.sizes run.argument.nodes +
        Formula.sizes run.prime.toList := by
  simp only [Segment.size, Segment.nodes, Run.nodes, Formula.sizes_append]

theorem Formula.size_pos (f : Formula) : 0 < f.size := by
  rw [Formula.size_eq]
  omega

theorem Head.sizes_nodes_pos (head : Head) : 0 < Formula.sizes head.nodes := by
  cases head with
  | spelled name first letters => simp only [Head.nodes, Formula.sizes]; have := first.size_pos; omega
  | single f => simp only [Head.nodes, Formula.sizes]; have := f.size_pos; omega

theorem size_le_of_mem_segments {symbols : SymbolTable} {row : List Formula} {segment : Segment}
    (h : segment ∈ segments symbols row) : segment.size ≤ Formula.sizes row := by
  have hle : ∀ (list : List Segment), segment ∈ list →
      segment.size ≤ Formula.sizes (list.flatMap Segment.nodes) := by
    intro list hmem
    induction list with
    | nil => cases hmem
    | cons head rest ih =>
      simp only [List.flatMap_cons, Formula.sizes_append]
      rcases List.mem_cons.1 hmem with rfl | hmem
      · simp only [Segment.size]; omega
      · have := ih hmem
        omega
  have := hle _ h
  rwa [nodes_segments] at this

end Untypeset
