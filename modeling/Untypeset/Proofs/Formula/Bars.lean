import Untypeset.Conversion
import Untypeset.Proofs.Formula.ControlWords
import Untypeset.Proofs.Latex.Bars

/-!
Bars in pairs. A row with exactly two bars sizes them, the first as an opening and the second as a closing one; but which
bars are sized is settled before it is known which of them a function takes along as part of its argument. A row that keeps
both bars, or neither, comes out paired, and one that keeps a single one does not (`paired_row_iff`).

Results:
- `paired_latex`: a formula none of whose rows keeps a lone bar is paired;
- `bars_come_in_pairs`: so in its result every opening bar has a closing one behind it;
- `conditional_lone_bar`: without the condition, a formula can have a closing bar and no opening one.
-/

namespace Untypeset

open Untypeset.Latex Untypeset.Markup Untypeset.Rendering Untypeset.Symbol Untypeset.Text

/-! ## The bars that a row keeps -/

/-- whether this is a bar that its row sizes -/
def Segment.isSizedBar : Segment → Bool
  | .bar .. => true
  | .run _ | .single _ => false

/-- how many bars a row sizes: those of a pair that no function takes along -/
def keptBars (symbols : SymbolTable) (row : List Formula) : Nat :=
  (segments symbols row).countP Segment.isSizedBar

theorem exists_split_of_countP {α : Type} {p : α → Bool} {list : List α} {n : Nat} (h : list.countP p = n + 1) :
    ∃ before x after, list = before ++ x :: after ∧ p x = true ∧ (∀ y ∈ before, p y = false) ∧ after.countP p = n := by
  induction list with
  | nil => cases h
  | cons x rest ih =>
    by_cases hx : p x = true
    · rw [List.countP_cons_of_pos hx] at h
      exact ⟨[], x, rest, rfl, hx, fun y hy => absurd hy List.not_mem_nil, Nat.succ.inj h⟩
    · rw [List.countP_cons_of_neg hx] at h
      obtain ⟨before, y, after, rfl, hy, hbefore, hafter⟩ := ih h
      refine ⟨x :: before, y, after, rfl, hy, fun z hz => ?_, hafter⟩
      rcases List.mem_cons.1 hz with rfl | hz
      · simpa using hx
      · exact hbefore z hz

variable {symbols : SymbolTable}

/-- a bar opens if there is another one behind it -/
theorem opens_of_segments {row : List Formula} {before after : List Segment} {f : Formula} {opens : Bool}
    (h : segments symbols row = before ++ .bar f opens :: after) :
    f.isBar = true ∧ opens = (after.flatMap Segment.nodes).any (·.isBar) := by
  rw [segments] at h
  fun_induction cut symbols (hasBarPair row) row generalizing before with
  | case1 => simp at h
  | case2 f rest _ ih =>
    cases before with
    | nil => cases h
    | cons segment before => exact ih (List.cons.inj h).2
  | case3 f rest _ hbar ih =>
    cases before with
    | nil =>
      cases h
      rw [nodes_cut]
      exact ⟨(Bool.and_eq_true_iff.1 hbar).2, rfl⟩
    | cons segment before => exact ih (List.cons.inj h).2
  | case4 f rest _ _ ih =>
    cases before with
    | nil => cases h
    | cons segment before => exact ih (List.cons.inj h).2

theorem eq_bar_of_isSizedBar {segment : Segment} (h : segment.isSizedBar = true) : ∃ f opens, segment = .bar f opens := by
  cases segment with
  | bar f opens => exact ⟨f, opens, rfl⟩
  | run run => cases h
  | single f => cases h

theorem countP_nodes_bar {before after : List Segment} {f : Formula} {opens : Bool} (hf : f.isBar = true) :
    ((before ++ .bar f opens :: after).flatMap Segment.nodes).countP (·.isBar) =
      (before.flatMap Segment.nodes).countP (·.isBar) + ((after.flatMap Segment.nodes).countP (·.isBar) + 1) := by
  rw [List.flatMap_append, List.flatMap_cons, List.countP_append, Segment.nodes, List.singleton_append,
    List.countP_cons_of_pos hf]

/-- where the bars of a row are no pair, none is sized -/
theorem countP_of_keptBars {row : List Formula} (h : keptBars symbols row ≠ 0) : row.countP (·.isBar) = 2 := by
  obtain ⟨segment, hsegment, hsized⟩ := List.countP_pos_iff.1 (Nat.pos_of_ne_zero h)
  obtain ⟨f, opens, rfl⟩ := eq_bar_of_isSizedBar hsized
  by_contra hcount
  have hpaired : hasBarPair row = false := by simpa [hasBarPair] using hcount
  have hnone : ∀ row : List Formula, Segment.bar f opens ∉ cut symbols false row := by
    intro row
    fun_induction cut symbols false row with
    | case1 => exact List.not_mem_nil
    | case2 f rest _ ih => simpa using ih
    | case3 f rest _ hbar ih => cases hbar
    | case4 f rest _ _ ih => simpa using ih
  rw [segments, hpaired] at hsegment
  exact hnone row hsegment

theorem keptBars_le (symbols : SymbolTable) (row : List Formula) : keptBars symbols row ≤ row.countP (·.isBar) := by
  have hbars : ∀ f opens, Segment.bar f opens ∈ segments symbols row → f.isBar = true := by
    intro f opens hsegment
    obtain ⟨before, after, h⟩ := List.append_of_mem hsegment
    exact (opens_of_segments h).1
  conv_rhs => rw [← nodes_segments symbols row]
  rw [keptBars]
  generalize segments symbols row = list at hbars
  induction list with
  | nil => exact Nat.zero_le _
  | cons segment rest ih =>
    have hrest := ih fun f opens h => hbars f opens (List.mem_cons_of_mem segment h)
    rw [List.flatMap_cons, List.countP_append]
    by_cases hsized : segment.isSizedBar = true
    · obtain ⟨f, opens, rfl⟩ := eq_bar_of_isSizedBar hsized
      rw [List.countP_cons_of_pos hsized, Segment.nodes, List.countP_singleton,
        if_pos (hbars f opens List.mem_cons_self)]
      omega
    · rw [List.countP_cons_of_neg hsized]
      omega

/-- of two bars that are sized, the first opens and the second closes -/
theorem split_of_two {row : List Formula} (h : keptBars symbols row = 2) :
    ∃ before f between g after, segments symbols row = before ++ .bar f true :: (between ++ .bar g false :: after) ∧
      (∀ s ∈ before, s.isSizedBar = false) ∧ (∀ s ∈ between, s.isSizedBar = false) ∧ ∀ s ∈ after, s.isSizedBar = false := by
  obtain ⟨before, first, rest, hrow, hfirst, hbefore, hrest⟩ := exists_split_of_countP h
  obtain ⟨between, second, after, rfl, hsecond, hbetween, hafter⟩ := exists_split_of_countP hrest
  obtain ⟨f, opensFirst, rfl⟩ := eq_bar_of_isSizedBar hfirst
  obtain ⟨g, opensSecond, rfl⟩ := eq_bar_of_isSizedBar hsecond
  have hrow' : segments symbols row = (before ++ .bar f opensFirst :: between) ++ .bar g opensSecond :: after := by
    rw [hrow, List.append_assoc, List.cons_append]
  obtain ⟨hf, hopensFirst⟩ := opens_of_segments hrow
  obtain ⟨hg, hopensSecond⟩ := opens_of_segments hrow'
  have hcount : row.countP (·.isBar) = 2 := countP_of_keptBars (by rw [h]; decide)
  rw [← nodes_segments symbols row, hrow, countP_nodes_bar hf, countP_nodes_bar hg] at hcount
  have hopens : opensFirst = true := by
    rw [hopensFirst, List.any_eq_true]
    exact ⟨g, by simp [Segment.nodes], hg⟩
  have hcloses : opensSecond = false := by
    rw [hopensSecond, List.any_eq_false]
    have hzero : (after.flatMap Segment.nodes).countP (·.isBar) = 0 := by omega
    exact List.countP_eq_zero.1 hzero
  refine ⟨before, f, between, g, after, by rw [hrow, hopens, hcloses], hbefore, hbetween, fun s hs => ?_⟩
  simpa using List.countP_eq_zero.1 hafter s hs

/-! ## Paired rows -/

theorem closable_paired : Closable .default Paired where
  word := by decide
  opening := by decide
  closing := List.all_iff_forall_prop.1 (by decide)
  named name h := by
    have all : ∀ name ∈ spelledFunctions.1, Paired ('\\' :: name ++ [' ']) := by decide
    exact all _ (mem_of_isFunction h)
  append := Paired.append
  trimStart := Paired.trimStart
  close c hc s hs := by
    have all : ∀ c ∈ closingSigns, isAsciiLetter c = false ∧ c ≠ '\\' ∧ c ≠ '|' :=
      List.all_iff_forall_prop.1 (by decide)
    obtain ⟨hletter, hback, hbar⟩ := all c hc
    exact hs.close hletter hback hbar

/-- **a row comes out paired unless it keeps a single bar** -/
theorem paired_row_iff {row : List Formula}
    (others : ∀ s ∈ segments .default row, s.isSizedBar = false → Paired (s.latex .default)) :
    Paired (rowLatex .default row) ↔ keptBars .default row ≠ 1 := by
  have unbarred : ∀ list ⊆ segments .default row, (∀ s ∈ list, s.isSizedBar = false) →
      Paired (list.flatMap (Segment.latex .default)) := by
    intro list hlist hnone
    exact closable_paired.compositional.flatMap fun s hs => others s (hlist hs) (hnone s hs)
  rw [rowLatex_eq]
  constructor
  · intro hpaired hone
    obtain ⟨before, segment, after, hrow, hsized, hbefore, hafter⟩ := exists_split_of_countP hone
    obtain ⟨f, opens, rfl⟩ := eq_bar_of_isSizedBar hsized
    have hleft := unbarred before (by rw [hrow]; simp) hbefore
    have hright := unbarred after (by rw [hrow]; simp) fun s hs => by simpa using List.countP_eq_zero.1 hafter s hs
    rw [hrow, List.flatMap_append, List.flatMap_cons, Segment.latex_bar] at hpaired
    exact hleft.not_lone hright opens hpaired
  · intro hne
    by_cases htwo : keptBars .default row = 2
    · obtain ⟨before, f, between, g, after, hrow, hbefore, hbetween, hafter⟩ := split_of_two htwo
      have hpair := (unbarred between (fun s hs => by simp [hrow, hs]) hbetween).between
      have h := ((unbarred before (fun s hs => by simp [hrow, hs]) hbefore).append hpair).append
        (unbarred after (fun s hs => by simp [hrow, hs]) hafter)
      rw [hrow, List.flatMap_append, List.flatMap_cons, List.flatMap_append, List.flatMap_cons, Segment.latex_bar,
        Segment.latex_bar]
      simpa using h
    · have hzero : keptBars .default row = 0 := by
        by_contra hsome
        have hcount := countP_of_keptBars hsome
        have hle := keptBars_le .default row
        omega
      refine unbarred _ (List.Subset.refl _) fun s hs => ?_
      simpa using List.countP_eq_zero.1 hzero s hs

/-! ## The rows of a formula -/

namespace Formula

/-- the rows that a formula is read as by itself: its parts, or the sides of an equation, and what stands between its
parentheses where it is the base of a superscript; the arguments of a structure are no row -/
def ownRows (f : Formula) : List (List Formula) :=
  if f.kind.isLeaf || f.kind = .ignored || f.kind.arity? = some f.parts.length then []
  else
    (if f.isParenthesized then [f.innerParts] else []) ++
      match f.sides? with
      | some (left, right) => if f.kind = .row then [left, right] else [f.parts]
      | none => [f.parts]

variable {f : Formula}

theorem parts_mem_ownRows (hk : f.kind.isLeaf = false) (hi : f.kind ≠ .ignored)
    (hfit : f.kind.arity? ≠ some f.parts.length) (h : f.kind = .row → f.sides? = none) : f.parts ∈ f.ownRows := by
  rw [ownRows, if_neg (by simp [hk, hi, hfit]), List.mem_append]
  right
  split
  · rename_i hsides
    have hkind : f.kind ≠ .row := by
      intro hkind
      rw [h hkind] at hsides
      cases hsides
    rw [if_neg hkind]
    exact List.mem_singleton_self _
  · exact List.mem_singleton_self _

theorem sides_mem_ownRows {left right : List Formula} (hk : f.kind = .row) (h : f.sides? = some (left, right)) :
    left ∈ f.ownRows ∧ right ∈ f.ownRows := by
  simp [ownRows, hk, h, Kind.isLeaf, Kind.arity?]

theorem innerParts_mem_ownRows (h : f.isParenthesized = true) : f.innerParts ∈ f.ownRows := by
  rw [ownRows, if_neg, if_pos h]
  · exact List.mem_append_left _ (List.mem_singleton_self _)
  · rcases kind_of_isParenthesized h with hk | hk <;> simp [hk, Kind.isLeaf, Kind.arity?]

end Formula

/-- a row, and the arguments of functions in it, which are rows themselves -/
def slices (symbols : SymbolTable) (row : List Formula) : List (List Formula) :=
  row :: (segments symbols row).attach.flatMap fun segment =>
    match _h : segment.1 with
    | .run run => slices symbols run.argument.nodes
    | .bar .. | .single _ => []
termination_by Formula.sizes row
decreasing_by exact sizes_argument_lt (_h ▸ segment.2)

theorem self_mem_slices (symbols : SymbolTable) (row : List Formula) : row ∈ slices symbols row := by
  rw [slices]
  exact List.mem_cons_self

theorem slices_argument {row : List Formula} {run : Run} (h : .run run ∈ segments symbols row) :
    slices symbols run.argument.nodes ⊆ slices symbols row := by
  intro slice hslice
  rw [slices]
  exact List.mem_cons_of_mem row (List.mem_flatMap.2 ⟨⟨.run run, h⟩, List.mem_attach _ _, hslice⟩)

namespace Formula

/-- a node that, for its part, does nothing to the bars: a leaf is paired, and no row of siblings keeps a lone bar -/
structure KeepsPairs (f : Formula) : Prop where
  leaf : f.kind.isLeaf = true → Paired (f.latex .default)
  rows : ∀ row ∈ f.ownRows, ∀ slice ∈ slices .default row, keptBars .default slice ≠ 1

/-- a formula comes out paired if its nodes keep pairs -/
def ComesPaired (f : Formula) : Prop :=
  (∀ g ∈ f.nodes, g.KeepsPairs) → Paired (f.latex .default)

/-- so does a row, if moreover no slice of it keeps a lone bar -/
def ComesPairedRow (row : List Formula) : Prop :=
  (∀ f ∈ row, ∀ g ∈ f.nodes, g.KeepsPairs) → (∀ slice ∈ slices .default row, keptBars .default slice ≠ 1) →
    Paired (rowLatex .default row)

private theorem pairs_row {row : List Formula} (formulas : ∀ f : Formula, f.size ≤ sizes row → f.ComesPaired)
    (rows : ∀ inner, sizes inner < sizes row → ComesPairedRow inner) : ComesPairedRow row := by
  intro hnodes hslices
  have member : ∀ f ∈ row, Paired (f.latex .default) := by
    intro f hf
    exact formulas f (size_le_sizes hf) (hnodes f hf)
  refine (paired_row_iff fun segment hsegment hsized => ?_).2 (hslices row (self_mem_slices .default row))
  have hsubset := Segment.nodes_subset hsegment
  cases segment with
  | bar f opens => cases hsized
  | single f =>
    rw [Segment.latex_single]
    exact member f (hsubset (by simp [Segment.nodes]))
  | run run =>
    refine closable_paired.compositional.run (run_sound hsegment) (fun f hf => member f (hsubset hf)) ?_
    rintro inner rfl
    apply rows run.argument.nodes (sizes_argument_lt hsegment)
    · intro f hf
      exact hnodes f (hsubset (by simp [Segment.nodes, Run.nodes, hf]))
    · intro slice hslice
      exact hslices slice (slices_argument hsegment hslice)

private theorem pairs_node {f : Formula} (formulas : ∀ g : Formula, g.size < f.size → g.ComesPaired)
    (rows : ∀ row, sizes row < f.size → ComesPairedRow row) : f.ComesPaired := by
  intro hnodes
  have hf := hnodes f f.mem_nodes
  by_cases hk : f.kind.isLeaf = true
  · exact hf.leaf hk
  · simp only [Bool.not_eq_true] at hk
    by_cases hi : f.kind = .ignored
    · rw [latex_ignored hi]
      exact closable_paired.compositional.nil
    have below : ∀ p ∈ f.parts, ∀ g ∈ p.nodes, g.KeepsPairs := by
      intro p hp g hg
      exact hnodes g (nodes_subset_of_mem_parts hk hi hp hg)
    have slice : ∀ row ⊆ f.parts, sizes row < f.size → row ∈ f.ownRows → Paired (rowLatex .default row) := by
      intro row hsub hsize hrow
      exact rows row hsize (fun p hp => below p (hsub hp)) (hf.rows row hrow)
    by_cases hfit : f.kind.arity? = some f.parts.length
    · have whole : ∀ p ∈ f.parts, Paired (p.latex .default) := by
        intro p hp
        exact formulas p (size_lt_of_mem_parts hp) (below p hp)
      refine closable_paired.compositional.fitted hfit whole fun _ p hp => ?_
      refine closable_paired.compositional.base (fun _ => whole p hp) fun hparen => ?_
      apply rows p.innerParts (Nat.lt_trans p.sizes_innerParts_lt (size_lt_of_mem_parts hp))
      · intro q hq g hg
        exact below p hp g (nodes_subset_of_isParenthesized hparen (p.innerParts_subset hq) hg)
      · exact (below p hp p p.mem_nodes).rows p.innerParts (innerParts_mem_ownRows hparen)
    · have siblings : (f.kind = .row → f.sides? = none) → Paired (rowLatex .default f.parts) := by
        intro hsides
        exact slice f.parts (List.Subset.refl _) (by rw [f.size_eq]; omega) (parts_mem_ownRows hk hi hfit hsides)
      refine closable_paired.compositional.unfitted hk hfit (fun hrow => siblings fun h => absurd h hrow) fun hrow => ?_
      refine closable_paired.compositional.sides (fun hnone => siblings fun _ => hnone) fun left right hsides => ?_
      obtain ⟨hleft, hright⟩ := sides_subset hsides
      obtain ⟨hleftSize, hrightSize⟩ := sizes_sides hsides
      obtain ⟨hleftRow, hrightRow⟩ := sides_mem_ownRows hrow hsides
      exact ⟨slice left hleft hleftSize hleftRow, slice right hright hrightSize hrightRow⟩

/-- **a formula none of whose rows keeps a lone bar comes out paired** -/
theorem paired_latex {f : Formula} (h : ∀ g ∈ f.nodes, g.KeepsPairs) : Paired (f.latex .default) :=
  (sizes_induction (fun _ => pairs_node) fun _ => pairs_row).1 f h

end Formula

/-! ## The finished formula -/

/-- the tables and the layouts have no sized delimiters of their own -/
theorem unsigned_unbarred : Unsigned .default ['\\'] (Sealed fun w => w ≠ leftWord ∧ w ≠ rightWord) := by
  apply unsigned_sealed
  · decide
  · rw [SymbolTable.default, defaultFunctions_eq]
    decide
  · rw [SymbolTable.default, defaultOperators_eq]
    decide
  · rw [SymbolTable.default, defaultGlyphs_eq]
    decide +kernel

/-- a source whose sized bars come in pairs: at no place have more been closed than opened, and in the end as many -/
structure BarsPaired (s : Latex) : Prop where
  start : ∀ start, start <+: s → (bars start).count ')' ≤ (bars start).count '('
  whole : (bars s).count '(' = (bars s).count ')'

/-- **sized bars come in pairs** in a finished formula whose leaves bring in no backslash, if none of its rows keeps a lone
bar, the other one being taken along by a function -/
theorem bars_come_in_pairs (shape : Shape) (place : Located)
    (hplain : ∀ leaf ∈ Formula.leafPlaces shape place, '\\' ∉ broughtIn shape leaf.node)
    (hrows : ∀ g ∈ (Formula.read shape .default place).nodes, ∀ row ∈ g.ownRows, ∀ slice ∈ slices .default row,
      keptBars .default slice ≠ 1) :
    BarsPaired (convertAt shape .default place).value := by
  have hpaired : Paired (walkAt shape .default place).value := by
    apply Formula.paired_latex
    intro g hg
    refine ⟨fun hk => ?_, hrows g hg⟩
    have hleaf := Formula.mem_leaves_of_mem_nodes hg hk
    rw [Formula.leaves_read] at hleaf
    obtain ⟨below, hbelow, rfl⟩ := List.mem_map.1 hleaf
    refine (unsigned_unbarred.leaf (Formula.isLeaf_of_mem_leafPlaces hbelow) ?_).paired
    simpa using hplain below hbelow
  have hbars : bars (convertAt shape .default place).value = bars (walkAt shape .default place).value := by
    rw [convertAt, convertWalk, bars_sized]
  have hbalanced : Balanced '(' ')' (bars (convertAt shape .default place).value) := by
    rw [hbars]
    exact hpaired.balanced
  exact ⟨fun start hstart => hbalanced.count_le_of_prefix (by decide) (prefix_bars hstart), hbalanced.count_eq (by decide)⟩

/-- a pair of bars around a function that takes another pair along -/
def nestedBars : Located :=
  .top (.element "math" []
    [.element "mo" [] [.text .plain "|"], .element "mi" [] [.text .plain "x"], .element "mo" [] [.text .plain "−"],
     .element "mrow" []
      [.element "mi" [] [.text .plain "sin"], .element "mo" [] [.text .plain "\u2061"],
       .element "mo" [] [.text .plain "|"], .element "mi" [] [.text .plain "y"], .element "mo" [] [.text .plain "|"]],
     .element "mo" [] [.text .plain "|"]])

theorem bars_come_in_pairs_of_nestedBars :
    (∀ leaf ∈ Formula.leafPlaces .mathml nestedBars, '\\' ∉ broughtIn .mathml leaf.node) ∧
      (∀ g ∈ (Formula.read .mathml .default nestedBars).nodes, ∀ row ∈ g.ownRows, ∀ slice ∈ slices .default row,
        keptBars .default slice ≠ 1) ∧
      (convertAt .mathml .default nestedBars).value =
        "\\left|x - \\sin \\left(\\left|y\\right|\\right)\\right|".toList ∧
      BarsPaired (convertAt .mathml .default nestedBars).value := by
  have hplain : ∀ leaf ∈ Formula.leafPlaces .mathml nestedBars, '\\' ∉ broughtIn .mathml leaf.node := by decide +kernel
  have hrows : ∀ g ∈ (Formula.read .mathml .default nestedBars).nodes, ∀ row ∈ g.ownRows, ∀ slice ∈ slices .default row,
      keptBars .default slice ≠ 1 := by
    decide +kernel
  exact ⟨hplain, hrows, by decide +kernel, bars_come_in_pairs .mathml nestedBars hplain hrows⟩

/-- a conditional probability with its argument in parentheses, next to another one -/
def conditional : Located :=
  .top (.element "math" []
    [.element "mi" [] [.text .plain "p"], .element "mo" [] [.text .plain "\u2061"],
     .element "mo" [] [.text .plain "("], .element "mi" [] [.text .plain "x"], .element "mo" [] [.text .plain "|"],
     .element "mi" [] [.text .plain "y"], .element "mo" [] [.text .plain ")"], .element "mo" [] [.text .plain "="],
     .element "mo" [] [.text .plain "("], .element "mi" [] [.text .plain "y"], .element "mo" [] [.text .plain "|"],
     .element "mi" [] [.text .plain "z"], .element "mo" [] [.text .plain ")"]])

/-- where a function takes one bar of a pair along, the other one is closed and never opened -/
theorem conditional_lone_bar :
    (∀ leaf ∈ Formula.leafPlaces .mathml conditional, '\\' ∉ broughtIn .mathml leaf.node) ∧
      (convertAt .mathml .default conditional).value =
        "p\\left(x|y\\right) = \\left(y\\right|z\\right)".toList ∧
      ¬ BarsPaired (convertAt .mathml .default conditional).value := by
  refine ⟨by decide +kernel, by decide +kernel, fun h => ?_⟩
  have hlone : (bars (convertAt .mathml .default conditional).value).count '(' ≠
      (bars (convertAt .mathml .default conditional).value).count ')' := by
    decide +kernel
  exact hlone h.whole

end Untypeset
