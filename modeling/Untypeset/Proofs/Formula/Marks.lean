import Untypeset.Proofs.Formula.Bars
import Untypeset.Proofs.Formula.Unmarked

/-!
What a mark of function application does before an operator. Behind a function, a mark makes a plain argument of whatever sibling
comes next, operators included, and the row gets longer by the parentheses around it. Where no function takes the operator along
because of the mark, the row is the same without it (`mark_swallows_operator_iff`). How often functions take operators along is
counted over all the rows that a row is cut into (`swallowed`).
-/

namespace Untypeset

open Untypeset.Latex Untypeset.Markup Untypeset.Rendering Untypeset.Symbol Untypeset.Text

/-! ## Operators taken along -/

/-- whether a function takes along an operator as a plain argument -/
def Run.swallows (run : Run) : Bool :=
  match run.argument with
  | .plain op => op.kind = .operator
  | .absent | .group _ | .barred _ | .enclosed _ => false

/-- the same for a segment of a row -/
def Segment.swallows : Segment → Bool
  | .run taken => taken.swallows
  | .bar .. | .single _ => false

/-- how many functions of a row, and of the arguments in it, take along an operator -/
def swallowed (symbols : SymbolTable) (row : List Formula) : Nat :=
  ((slices symbols row).flatMap (segments symbols)).countP Segment.swallows

/-- how many do in a segment -/
def Segment.swallowed (symbols : SymbolTable) : Segment → Nat
  | .run taken => (if taken.swallows then 1 else 0) + Untypeset.swallowed symbols taken.argument.nodes
  | .bar .. | .single _ => 0

/-- the rows inside a segment -/
def Segment.slices (symbols : SymbolTable) : Segment → List (List Formula)
  | .run taken => Untypeset.slices symbols taken.argument.nodes
  | .bar .. | .single _ => []

variable {symbols : SymbolTable} {f mark op : Formula} {row other rest : List Formula}

theorem slices_eq (symbols : SymbolTable) (row : List Formula) :
    slices symbols row = row :: (segments symbols row).flatMap (Segment.slices symbols) := by
  rw [slices]
  conv_rhs => rw [← List.attach_map_subtype_val (segments symbols row), List.flatMap_map]
  congr 1
  refine List.flatMap_congr fun segment _ => ?_
  obtain ⟨segment, hsegment⟩ := segment
  cases segment <;> rfl

theorem Segment.swallowed_eq_countP (segment : Segment) :
    segment.swallowed symbols =
      (if segment.swallows then 1 else 0) + ((segment.slices symbols).flatMap (segments symbols)).countP Segment.swallows := by
  cases segment <;> rfl

/-- how many operators the segments of a row take along, each with the rows inside it -/
def swallowedIn (symbols : SymbolTable) (list : List Segment) : Nat :=
  list.foldr (fun segment count => segment.swallowed symbols + count) 0

@[simp] theorem swallowedIn_nil (symbols : SymbolTable) : swallowedIn symbols [] = 0 :=
  rfl

@[simp] theorem swallowedIn_cons (symbols : SymbolTable) (segment : Segment) (list : List Segment) :
    swallowedIn symbols (segment :: list) = segment.swallowed symbols + swallowedIn symbols list :=
  rfl

theorem swallowed_eq (symbols : SymbolTable) (row : List Formula) :
    swallowed symbols row = swallowedIn symbols (segments symbols row) := by
  rw [swallowed, slices_eq, List.flatMap_cons, List.countP_append]
  generalize segments symbols row = list
  induction list with
  | nil => rfl
  | cons segment rest ih =>
    rw [swallowedIn_cons, ← ih, segment.swallowed_eq_countP, List.countP_cons, List.flatMap_cons, List.flatMap_append,
      List.countP_append]
    omega

/-! ## Comparing what two rows come to -/

/-- two sources and how many operators were taken along on the way to each: either neither differs, or there is one operator more
and the source has more visible characters -/
def Compared (s t : Latex) (m n : Nat) : Prop :=
  (m = n ∧ s = t) ∨ (m = n + 1 ∧ (squash t).length < (squash s).length)

namespace Compared

variable {s t : Latex} {m n : Nat}

theorem same (s : Latex) (m : Nat) : Compared s s m m :=
  .inl ⟨rfl, rfl⟩

theorem append (h : Compared s t m n) (before behind : Latex) (k l : Nat) :
    Compared (before ++ s ++ behind) (before ++ t ++ behind) (k + m + l) (k + n + l) := by
  rcases h with ⟨rfl, rfl⟩ | ⟨rfl, hlength⟩
  · exact same _ _
  · refine .inr ⟨by omega, ?_⟩
    simp only [squash_append, List.length_append]
    omega

/-- a layout that adds as many visible characters to every source keeps the comparison -/
theorem map (layout : Latex → Latex) (h : Compared s t m n) {k : Nat}
    (hlayout : ∀ s, (squash (layout s)).length = (squash s).length + k) : Compared (layout s) (layout t) m n := by
  rcases h with ⟨rfl, rfl⟩ | ⟨rfl, hlength⟩
  · exact same _ _
  · refine .inr ⟨rfl, ?_⟩
    rw [hlayout, hlayout]
    omega

end Compared

theorem length_squash_parenthesized (s : Latex) : (squash (parenthesized (trim s))).length = (squash s).length + 2 := by
  rw [parenthesized, squash_append, squash_cons_solid (by decide), squash_trim]
  simp [squash_cons_solid (show isBlank ')' = false by decide)]

theorem length_squash_withPrime? (prime : Option Formula) (s : Latex) :
    (squash (withPrime? prime s)).length = (squash s).length + if prime.isSome then 1 else 0 := by
  rw [withPrime?]
  split
  · rw [Layout.primed, squash_append, squash_trimEnd, List.length_append]
    rfl
  · rfl

/-- the LaTeX of segments in order -/
def written (symbols : SymbolTable) (list : List Segment) : Latex :=
  list.flatMap (Segment.latex symbols)

@[simp] theorem written_cons (symbols : SymbolTable) (segment : Segment) (list : List Segment) :
    written symbols (segment :: list) = segment.latex symbols ++ written symbols list :=
  rfl

@[simp] theorem Segment.swallowed_single (symbols : SymbolTable) (g : Formula) : (Segment.single g).swallowed symbols = 0 :=
  rfl

/-- two lists of segments compared -/
def Agrees (symbols : SymbolTable) (list others : List Segment) : Prop :=
  Compared (written symbols list) (written symbols others) (swallowedIn symbols list) (swallowedIn symbols others)

theorem Agrees.cons {list others : List Segment} (h : Agrees symbols list others) (segment : Segment) :
    Agrees symbols (segment :: list) (segment :: others) := by
  have happend := h.append (segment.latex symbols) [] (segment.swallowed symbols) 0
  rw [List.append_nil, List.append_nil] at happend
  exact happend

/-- a run with another argument, and the same segments behind it -/
theorem Agrees.run {head : Head} {applied prime : Option Formula} {argument argument' : Argument} {list : List Segment}
    (hplain : (Run.mk head applied argument prime).swallows = (Run.mk head applied argument' prime).swallows)
    (h : Compared (argument.latex symbols) (argument'.latex symbols) (swallowed symbols argument.nodes)
      (swallowed symbols argument'.nodes)) :
    Agrees symbols (.run ⟨head, applied, argument, prime⟩ :: list) (.run ⟨head, applied, argument', prime⟩ :: list) := by
  have hbeside := h.append (head.latex symbols) [] 0 0
  have hrun := hbeside.map (withPrime? prime) (length_squash_withPrime? prime)
  have hlist := hrun.append [] (written symbols list)
    (if (Run.mk head applied argument prime).swallows then 1 else 0) (swallowedIn symbols list)
  simp only [List.append_nil, List.nil_append, Nat.zero_add, Nat.add_zero] at hlist
  rw [Agrees, written_cons, written_cons, Segment.latex_run, Segment.latex_run, swallowedIn_cons, swallowedIn_cons,
    Segment.swallowed, Segment.swallowed, ← hplain]
  exact hlist

/-! ## Behind a head -/

theorem swallowed_nil (symbols : SymbolTable) : swallowed symbols [] = 0 := by
  rw [swallowed_eq, segments, cut]
  rfl

theorem swallowed_singleton (symbols : SymbolTable) (g : Formula) : swallowed symbols [g] = 0 := by
  rw [swallowed_eq]
  rcases segments_singleton symbols g with hrun | hsingle
  · rw [hrun]
    simp [Segment.swallowed, Run.swallows, Argument.nodes, swallowed_nil]
  · rw [hsingle]
    rfl

/-- whether the table writes a prime with a mere apostrophe -/
def WritesPrimes (symbols : SymbolTable) : Prop :=
  ∀ glyph ∈ primeGlyphs, symbols.operator? glyph = some ['\x27']

instance (symbols : SymbolTable) : Decidable (WritesPrimes symbols) :=
  inferInstanceAs (Decidable (∀ glyph ∈ primeGlyphs, symbols.operator? glyph = some ['\x27']))

theorem latex_prime (hprimes : WritesPrimes symbols) {p : Formula} (hp : p.isPrime = true) :
    p.kind = .operator ∧ (p.latex symbols = ['\x27'] ∨
      (invisibleOperators.any fun c => p.facts.raw = [c]) = true ∧ p.latex symbols = []) := by
  rw [Formula.isPrime, Bool.and_eq_true, decide_eq_true_eq, List.contains_iff_mem] at hp
  refine ⟨hp.1, ?_⟩
  have hkey : p.key.isEmpty = false := by
    have all : ∀ glyph ∈ primeGlyphs, glyph.isEmpty = false := by decide
    exact all _ hp.2
  rw [latex_operator hp.1, Formula.operatorLatex, hkey, hprimes _ hp.2]
  split
  · exact .inr ⟨‹_›, rfl⟩
  · exact .inl rfl

/-- a prime behind an argument adds no less than it would add by itself -/
theorem takePrime_written (hprimes : WritesPrimes symbols) (paired : Bool) (rest : List Formula) :
    swallowedIn symbols (cut symbols paired rest) = swallowedIn symbols (cut symbols paired (takePrime rest).2) ∧
      (squash (written symbols (cut symbols paired rest))).length ≤
        (squash (written symbols (cut symbols paired (takePrime rest).2))).length + if (takePrime rest).1.isSome then 1 else 0 := by
  cases rest with
  | nil => exact ⟨rfl, Nat.le_refl _⟩
  | cons p rest =>
    rw [takePrime]
    split
    · rename_i hp
      obtain ⟨hkind, hlatex⟩ := latex_prime hprimes hp
      have hbar : p.isBar = false := by
        rw [Formula.isPrime, Bool.and_eq_true, List.contains_iff_mem] at hp
        have all : ∀ glyph ∈ primeGlyphs, glyph ≠ ['|'] := by decide
        simp [Formula.isBar, Formula.isFence, all _ hp.2]
      have hcut : cut symbols paired (p :: rest) = .single p :: cut symbols paired rest := by
        rw [cut, if_neg (by rw [hkind]; decide), hbar, Bool.and_false, if_neg Bool.false_ne_true]
      have hshort : (squash (p.latex symbols)).length ≤ 1 := by
        rcases hlatex with hlatex | ⟨-, hlatex⟩ <;> rw [hlatex] <;> decide
      rw [hcut, swallowedIn_cons, written_cons, Segment.latex_single, squash_append, List.length_append]
      exact ⟨Nat.zero_add _, by simp only [Option.isSome_some, if_true]; omega⟩
    · exact ⟨rfl, Nat.le_refl _⟩

/-- **behind a function the mark makes an argument of the operator**, and the source gets longer by the parentheses around it -/
theorem longer_of_swallowed (h : MarksOperator symbols f mark op) (hprimes : WritesPrimes symbols) (paired : Bool) (head : Head)
    (rest : List Formula) :
    swallowedIn symbols (.run ⟨head, some mark, .plain op, (takePrime rest).1⟩ :: cut symbols paired (takePrime rest).2) =
        swallowedIn symbols
          (.run ⟨head, none, .absent, (takePrime (op :: rest)).1⟩ :: cut symbols paired (takePrime (op :: rest)).2) + 1 ∧
      (squash (written symbols
          (.run ⟨head, none, .absent, (takePrime (op :: rest)).1⟩ :: cut symbols paired (takePrime (op :: rest)).2))).length <
        (squash (written symbols
          (.run ⟨head, some mark, .plain op, (takePrime rest).1⟩ :: cut symbols paired (takePrime rest).2))).length := by
  obtain ⟨hcount, hlength⟩ := takePrime_written hprimes paired rest
  have hswallows (prime : Option Formula) : (Run.mk head (some mark) (.plain op) prime).swallows = true :=
    decide_eq_true h.operator.operator
  have hshort : swallowedIn symbols
        (.run ⟨head, none, .absent, (takePrime (op :: rest)).1⟩ :: cut symbols paired (takePrime (op :: rest)).2) =
      swallowedIn symbols (cut symbols paired rest) ∧
      (squash (written symbols
          (.run ⟨head, none, .absent, (takePrime (op :: rest)).1⟩ :: cut symbols paired (takePrime (op :: rest)).2))).length ≤
        (squash (head.latex symbols)).length + (squash (op.latex symbols)).length + 1 +
          (squash (written symbols (cut symbols paired rest))).length := by
    by_cases hp : op.isPrime = true
    · have hprime : takePrime (op :: rest) = (some op, rest) := if_pos hp
      simp only [hprime, swallowedIn_cons, written_cons, Segment.latex_run, squash_append, List.length_append,
        length_squash_withPrime?, Argument.latex, squash_nil, List.length_nil, Option.isSome_some, if_true]
      exact ⟨by simp [Segment.swallowed, Run.swallows, Argument.nodes, swallowed_nil], by omega⟩
    · have hprime : takePrime (op :: rest) = (none, op :: rest) := if_neg hp
      simp only [hprime, cut_ordinary h, swallowedIn_cons, written_cons, Segment.latex_run, Segment.latex_single, squash_append,
        List.length_append, length_squash_withPrime?, Argument.latex, squash_nil, List.length_nil, Option.isSome_none,
        Bool.false_eq_true, if_false]
      exact ⟨by simp [Segment.swallowed, Run.swallows, Argument.nodes, swallowed_nil], by omega⟩
  rw [hshort.1, hcount]
  refine ⟨?_, Nat.lt_of_le_of_lt hshort.2 ?_⟩
  · simp only [swallowedIn_cons, Segment.swallowed, Argument.nodes, swallowed_singleton, hswallows, if_true]
    omega
  · simp only [written_cons, Segment.latex_run, squash_append, List.length_append, length_squash_withPrime?, Argument.latex,
      length_squash_parenthesized]
    omega

/-- so it is with the identifier at the start of a row -/
theorem longer_of_start (h : MarksOperator symbols f mark op) (hprimes : WritesPrimes symbols) (paired : Bool)
    (rest : List Formula) :
    swallowedIn symbols (cut symbols paired (f :: mark :: op :: rest)) =
        swallowedIn symbols (cut symbols paired (f :: op :: rest)) + 1 ∧
      (squash (written symbols (cut symbols paired (f :: op :: rest)))).length <
        (squash (written symbols (cut symbols paired (f :: mark :: op :: rest)))).length := by
  have hcut (rest : List Formula) : cut symbols paired (f :: rest) =
      .run (takeRun symbols f rest).1 :: cut symbols paired (takeRun symbols f rest).2 := by
    rw [cut, if_pos h.identifier]
  rw [hcut, hcut]
  simp only [takeRun, takeHead_of_none h.letter?_mark, takeHead_of_none h.letter?_operator, takeApplied_marked h,
    takeApplied_ordinary h]
  exact longer_of_swallowed h hprimes paired (.single f) rest

/-- **behind an identifier that is an argument itself the mark changes nothing**: the operator is not taken along, and a prime is
set behind the parentheses either way -/
theorem agrees_of_passing (h : MarksOperator symbols f mark op) (hprimes : WritesPrimes symbols) (paired : Bool) (head : Head)
    (applied : Option Formula) (rest : List Formula) :
    Agrees symbols (.run ⟨head, applied, .plain f, (takePrime (mark :: op :: rest)).1⟩ ::
        cut symbols paired (takePrime (mark :: op :: rest)).2)
      (.run ⟨head, applied, .plain f, (takePrime (op :: rest)).1⟩ :: cut symbols paired (takePrime (op :: rest)).2) := by
  have hmark : takePrime (mark :: op :: rest) = (none, mark :: op :: rest) := by
    rw [takePrime, h.mark.unprimed, if_neg Bool.false_ne_true]
  rw [hmark, cut_mark h, cut_ordinary h]
  by_cases hp : op.isPrime = true
  · have hprime : takePrime (op :: rest) = (some op, rest) := if_pos hp
    have hlatex : op.latex symbols = ['\x27'] := by
      rcases (latex_prime hprimes hp).2 with hlatex | ⟨hhidden, -⟩
      · exact hlatex
      · rw [h.operator.shown] at hhidden
        cases hhidden
    rw [hprime]
    refine .inl ⟨?_, ?_⟩
    · simp [Segment.swallowed, Run.swallows]
    · simp [Argument.latex, withPrime?_parenthesized, h.mark.silent, hlatex]
  · have hprime : takePrime (op :: rest) = (none, op :: rest) := if_neg hp
    rw [hprime]
    refine .inl ⟨?_, ?_⟩
    · simp [cut_ordinary h]
    · simp [cut_ordinary h, h.mark.silent]

/-! ## Whole rows -/

/-- what holds of the rows inside a run and of the row behind it holds of the run and all behind it -/
theorem agrees_of_taken (h : MarksOperator symbols f mark op) (hprimes : WritesPrimes symbols) {paired : Bool} (head : Head)
    (applied : Option Formula) {taken takenOther : Argument × List Formula} (htaken : TakenUnmarked f mark op taken takenOther)
    (inner : ∀ {row other}, Unmarked f mark op row other → row = taken.1.nodes →
      Agrees symbols (segments symbols row) (segments symbols other))
    (behind : ∀ {row other}, Unmarked f mark op row other → row <:+ taken.2 →
      Agrees symbols (cut symbols paired row) (cut symbols paired other)) :
    Agrees symbols
      (.run ⟨head, applied, taken.1, (takePrime taken.2).1⟩ :: cut symbols paired (takePrime taken.2).2)
      (.run ⟨head, applied, takenOther.1, (takePrime takenOther.2).1⟩ :: cut symbols paired (takePrime takenOther.2).2) := by
  cases htaken with
  | @before argument after after' hafter =>
    obtain ⟨hprime, hrest⟩ := takePrime_unmarked h hafter
    have hsuffix : (takePrime after).2 <:+ after := ⟨(takePrime after).1.toList, nodes_takePrime after⟩
    simp only [← hprime]
    exact (behind hrest hsuffix).cons _
  | passing => exact agrees_of_passing h hprimes paired head applied _
  | group hgroup =>
    have hrow := inner hgroup rfl
    refine .run rfl ?_
    rw [Argument.latex, Argument.latex, rowLatex_eq, rowLatex_eq, Argument.nodes, Argument.nodes, swallowed_eq, swallowed_eq]
    exact hrow
  | barred hgroup =>
    have hrow := inner hgroup rfl
    refine .run rfl (.map (fun s => parenthesized (trim s)) ?_ length_squash_parenthesized)
    rw [rowLatex_eq, rowLatex_eq, Argument.nodes, Argument.nodes, swallowed_eq, swallowed_eq]
    exact hrow

/-- **two rows that differ in a mark come to the same, or a function takes the operator along** -/
theorem agrees_unmarked (h : MarksOperator symbols f mark op) (hprimes : WritesPrimes symbols) (paired : Bool)
    (hrow : Unmarked f mark op row other) : Agrees symbols (cut symbols paired row) (cut symbols paired other) := by
  induction hn : Formula.sizes row using Nat.strong_induction_on generalizing row other paired with
  | _ n ih =>
  subst hn
  cases hrow with
  | @here rest =>
    exact .inr (longer_of_start h hprimes paired rest)
  | @cons g row other hrow =>
    have hbelow : Formula.sizes row < Formula.sizes (g :: row) := by
      have hpos := g.size_pos
      rw [Formula.sizes]
      omega
    rw [cut, cut]
    split
    · obtain ⟨hhead, hbehind⟩ := takeHead_unmarked h hrow g
      have hsize := sizes_takeApplied_lt symbols g row
      simp only [takeRun, ← hhead]
      rcases hbehind with hbehind | ⟨rest, hrest, hrestOther⟩
      · obtain ⟨happlied, htaken⟩ := takeApplied_unmarked h hbehind g
        simp only [← happlied]
        refine agrees_of_taken h hprimes _ _ htaken (fun hinner hnodes => ?_) fun hlater hsuffix => ?_
        · rw [segments, segments, hasBarPair_unmarked h hinner]
          exact ih _ (hnodes ▸ Nat.lt_of_le_of_lt (Nat.le_add_right _ _) hsize) _ hinner rfl
        · have hle := Formula.sizes_le_of_sublist hsuffix.sublist
          exact ih _ (Nat.lt_of_le_of_lt (hle.trans (Nat.le_add_left _ _)) hsize) _ hlater rfl
      · simp only [hrest, hrestOther, takeApplied_marked h, takeApplied_ordinary h]
        exact .inr (longer_of_swallowed h hprimes paired _ rest)
    · rw [any_isBar_unmarked h hrow]
      split
      · exact (ih _ hbelow paired hrow rfl).cons _
      · exact (ih _ hbelow paired hrow rfl).cons _

theorem compared_unmarked (h : MarksOperator symbols f mark op) (hprimes : WritesPrimes symbols)
    (hrow : Unmarked f mark op row other) :
    Compared (rowLatex symbols row) (rowLatex symbols other) (swallowed symbols row) (swallowed symbols other) := by
  have hagrees := agrees_unmarked h hprimes (hasBarPair row) hrow
  rw [rowLatex_eq, rowLatex_eq, swallowed_eq, swallowed_eq, segments, segments, ← hasBarPair_unmarked h hrow]
  exact hagrees

/-- **a mark before an operator changes a row exactly if it makes a function take the operator along**, and it makes no more than
one function do so; the function at the start of a row always does -/
theorem mark_swallows_operator_iff (h : MarksOperator symbols f mark op) (hprimes : WritesPrimes symbols)
    (pre rest : List Formula) :
    (rowLatex symbols (pre ++ f :: mark :: op :: rest) = rowLatex symbols (pre ++ f :: op :: rest) ↔
      swallowed symbols (pre ++ f :: mark :: op :: rest) = swallowed symbols (pre ++ f :: op :: rest)) ∧
    (swallowed symbols (pre ++ f :: mark :: op :: rest) = swallowed symbols (pre ++ f :: op :: rest) ∨
      swallowed symbols (pre ++ f :: mark :: op :: rest) = swallowed symbols (pre ++ f :: op :: rest) + 1) ∧
    (pre = [] → swallowed symbols (pre ++ f :: mark :: op :: rest) = swallowed symbols (pre ++ f :: op :: rest) + 1) := by
  refine ⟨?_, ?_, ?_⟩
  · rcases compared_unmarked h hprimes (Unmarked.of_append pre rest) with ⟨hcount, hsame⟩ | ⟨hcount, hlength⟩
    · exact iff_of_true hsame hcount
    · refine iff_of_false (fun hsame => ?_) (by omega)
      rw [hsame] at hlength
      exact Nat.lt_irrefl _ hlength
  · exact (compared_unmarked h hprimes (Unmarked.of_append pre rest)).imp And.left And.left
  · rintro rfl
    have hrow : Unmarked f mark op (f :: mark :: op :: rest) (f :: op :: rest) := .here
    rw [List.nil_append, List.nil_append, swallowed_eq, swallowed_eq, segments, segments, ← hasBarPair_unmarked h hrow]
    exact (longer_of_start h hprimes _ rest).1

/-- a leaf of plain MathML -/
def mathmlLeaf (name text : String) : Formula :=
  .read .mathml .default (.top (.element name [] [.text .plain text]))

theorem marksOperator_minus :
    MarksOperator .default (mathmlLeaf "mi" "sin") (mathmlLeaf "mo" "\u2061") (mathmlLeaf "mo" "−") where
  identifier := by decide +kernel
  mark := isMark_read (by decide +kernel) (by decide +kernel)
  operator := ⟨by decide +kernel, by decide +kernel, by decide +kernel, by decide +kernel, by decide +kernel⟩

/-- a minus behind a function that is an argument itself stays where it is -/
theorem mark_swallows_operator_iff_of_argument :
    WritesPrimes .default ∧
      swallowed .default ([mathmlLeaf "mi" "f", mathmlLeaf "mo" "\u2061"] ++
          mathmlLeaf "mi" "sin" :: mathmlLeaf "mo" "\u2061" :: mathmlLeaf "mo" "−" :: [mathmlLeaf "mi" "x"]) =
        swallowed .default ([mathmlLeaf "mi" "f", mathmlLeaf "mo" "\u2061"] ++
          mathmlLeaf "mi" "sin" :: mathmlLeaf "mo" "−" :: [mathmlLeaf "mi" "x"]) ∧
      rowLatex .default ([mathmlLeaf "mi" "f", mathmlLeaf "mo" "\u2061"] ++
          mathmlLeaf "mi" "sin" :: mathmlLeaf "mo" "\u2061" :: mathmlLeaf "mo" "−" :: [mathmlLeaf "mi" "x"]) =
        rowLatex .default ([mathmlLeaf "mi" "f", mathmlLeaf "mo" "\u2061"] ++
          mathmlLeaf "mi" "sin" :: mathmlLeaf "mo" "−" :: [mathmlLeaf "mi" "x"]) := by
  have hprimes : WritesPrimes .default := by decide +kernel
  have hcount : swallowed .default ([mathmlLeaf "mi" "f", mathmlLeaf "mo" "\u2061"] ++
        mathmlLeaf "mi" "sin" :: mathmlLeaf "mo" "\u2061" :: mathmlLeaf "mo" "−" :: [mathmlLeaf "mi" "x"]) =
      swallowed .default ([mathmlLeaf "mi" "f", mathmlLeaf "mo" "\u2061"] ++
        mathmlLeaf "mi" "sin" :: mathmlLeaf "mo" "−" :: [mathmlLeaf "mi" "x"]) := by
    decide +kernel
  exact ⟨hprimes, hcount, (mark_swallows_operator_iff marksOperator_minus hprimes _ _).1.2 hcount⟩

/-- the sine of minus x: the mark makes an argument of the minus -/
theorem mark_swallows_minus :
    MarksOperator .default (mathmlLeaf "mi" "sin") (mathmlLeaf "mo" "\u2061") (mathmlLeaf "mo" "−") ∧
      (mathmlLeaf "mi" "sin").takesArgument = false ∧
      rowLatex .default [mathmlLeaf "mi" "sin", mathmlLeaf "mo" "\u2061", mathmlLeaf "mo" "−", mathmlLeaf "mi" "x"] =
        "\\sin (-)x".toList ∧
      rowLatex .default [mathmlLeaf "mi" "sin", mathmlLeaf "mo" "−", mathmlLeaf "mi" "x"] = "\\sin  - x".toList := by
  exact ⟨marksOperator_minus, by decide +kernel, by decide +kernel, by decide +kernel⟩

end Untypeset
