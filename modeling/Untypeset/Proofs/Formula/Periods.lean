import Untypeset.Proofs.Formula.Closings

/-!
Rows that end in periods. A period is no sign to its neighbours, so an identifier further ahead looks past the periods for what
closes its argument and leaves them behind, each a segment of its own. Only behind an application mark is a period an argument
itself; it is put in parentheses then, and the periods after it are left behind (`cut_periods`).
-/

namespace Untypeset

open Untypeset.Latex Untypeset.Markup Untypeset.Rendering Untypeset.Symbol Untypeset.Text

/-- an operator that shows one period -/
structure Formula.IsPeriod (f : Formula) : Prop where
  operator : f.kind = .operator
  key : f.key = ['.']

namespace Formula.IsPeriod

variable {f : Formula} (h : f.IsPeriod)

include h

theorem kind_ne : f.kind ≠ .identifier := by
  rw [h.operator]
  decide

theorem isFence_eq (c : Char) : f.isFence c = decide ('.' = c) := by
  simp [Formula.isFence, h.operator, h.key]

theorem isBar : f.isBar = false :=
  h.isFence_eq '|'

theorem isEquals : f.isEquals = false :=
  h.isFence_eq '='

theorem isPrime : f.isPrime = false := by
  rw [Formula.isPrime, h.key]
  exact Bool.and_false _

theorem isParenthesized : f.isParenthesized = false := by
  simp [Formula.isParenthesized, h.operator]

theorem canBeArgument : f.canBeArgument = false := by
  simp [Formula.canBeArgument, h.operator, h.isFence_eq]

end Formula.IsPeriod

variable {symbols : SymbolTable} {f x : Formula} {before dots rest : List Formula}

/-! ## Arguments -/

theorem takeArgument_period (h : x.IsPeriod) (rest : List Formula) : takeArgument (x :: rest) = (.plain x, rest) := by
  rw [takeArgument, h.isFence_eq, h.isBar, h.isParenthesized]
  rfl

/-- a period is the argument of an application mark only -/
theorem mark_of_period (h : x.IsPeriod) (f : Formula) (rest : List Formula) (hargument : (takeApplied f rest).2.1 = .plain x) :
    ∃ mark, (takeApplied f rest).1 = some mark := by
  cases rest with
  | nil => cases hargument
  | cons next rest =>
    rw [takeApplied] at hargument ⊢
    split
    · exact ⟨next, rfl⟩
    · rename_i hunapplied
      rw [if_neg hunapplied] at hargument
      split at hargument
      · rename_i htakes
        have hnodes := nodes_takeArgument (next :: rest)
        rw [hargument] at hnodes
        rw [← (List.cons.inj hnodes).1, h.canBeArgument, Bool.and_false] at htakes
        cases htakes
      · cases hargument

/-- an argument that ends in a period is the period -/
theorem argument_of_period {argument : Argument} (h : x.IsPeriod) (hclosed : argument.Closed)
    (hlast : argument.nodes = before ++ [x]) : argument = .plain x := by
  cases argument with
  | absent => exact absurd hlast.symm (List.append_ne_nil_of_right_ne_nil before (List.cons_ne_nil x []))
  | group row =>
    obtain ⟨inner, closing, hclosing, rfl⟩ := hclosed
    rw [(List.append_singleton_inj.1 hlast).2, h.isFence_eq] at hclosing
    cases hclosing
  | barred row =>
    obtain ⟨inner, bar, hbar, rfl⟩ := hclosed
    rw [(List.append_singleton_inj.1 hlast).2, h.isBar] at hbar
    cases hbar
  | enclosed g =>
    rw [Argument.Closed, (eq_of_singleton_eq_concat hlast).2, h.isParenthesized] at hclosed
    cases hclosed
  | plain g => rw [(eq_of_singleton_eq_concat hlast).2]

/-- what a mark applies to is the argument after it -/
theorem argument_of_mark (f : Formula) (rest : List Formula) {mark : Formula} (h : (takeApplied f rest).1 = some mark) :
    ∃ others, rest = mark :: others ∧ (takeApplied f rest).2 = takeArgument others := by
  cases rest with
  | nil => cases h
  | cons next others =>
    rw [takeApplied] at h ⊢
    split
    · rename_i happlies
      rw [if_pos happlies] at h
      cases h
      exact ⟨others, rfl, rfl⟩
    · rename_i hunapplied
      rw [if_neg hunapplied] at h
      split at h <;> cases h

/-! ## Runs -/

/-- two periods or more are not passed over as a mark without an argument -/
theorem argument_ne_nil_of_period (hdots : ∀ dot ∈ dots, dot.IsPeriod) (hmany : 2 ≤ dots.length)
    (hmark : (takeRun symbols f (before ++ dots)).1.mark = some x) (hhead : (takeRun symbols f (before ++ dots)).1.head.nodes = f :: before) :
    (takeRun symbols f (before ++ dots)).1.argument.nodes ≠ [] := by
  have hafter : (takeHead symbols f (before ++ dots)).2 = dots := by
    have hnodes : (takeRun symbols f (before ++ dots)).1.head.nodes ++ (takeHead symbols f (before ++ dots)).2 =
        (f :: before) ++ dots := nodes_takeHead symbols f (before ++ dots)
    rw [hhead] at hnodes
    exact List.append_cancel_left hnodes
  obtain ⟨others, hrest, htaken⟩ := argument_of_mark f (takeHead symbols f (before ++ dots)).2 hmark
  have hargument : (takeRun symbols f (before ++ dots)).1.argument = (takeArgument others).1 := congrArg Prod.fst htaken
  rw [hafter] at hrest
  obtain ⟨y, ends, rfl⟩ : ∃ y ends, others = y :: ends := by
    cases others with
    | nil =>
      rw [hrest, List.length_singleton] at hmany
      exact absurd hmany (by decide)
    | cons y ends => exact ⟨y, ends, rfl⟩
  rw [hargument, takeArgument_period (hdots y (by simp [hrest]))]
  exact List.cons_ne_nil y []

/-- **an identifier before periods** leaves them behind, or its mark takes one of them for the argument and leaves fewer behind -/
theorem takeRun_periods (hkind : f.kind = .identifier) (hdots : ∀ dot ∈ dots, dot.IsPeriod) (hmany : 2 ≤ dots.length)
    (before : List Formula) :
    (∃ left, left <:+ before ∧ (takeRun symbols f (before ++ dots)).2 = left ++ dots) ∨
      ∃ run ends x, takeRun symbols f (before ++ dots) = (run, ends) ∧ ends <:+ dots ∧ ends.length < dots.length ∧
        run.argument = .plain x ∧ run.prime = none ∧ ∃ mark ∈ f :: before ++ dots, mark.isApplication = true := by
  have hnodes : (takeRun symbols f (before ++ dots)).1.nodes ++ (takeRun symbols f (before ++ dots)).2 =
      (f :: before) ++ dots := nodes_takeRun symbols f (before ++ dots)
  have hsound : (takeRun symbols f (before ++ dots)).1.Sound symbols := takeRun_sound hkind _
  have hclosed := takeRun_closed symbols f (before ++ dots)
  rcases List.append_eq_append_iff.1 hnodes with ⟨left, hrow, hafter⟩ | ⟨taken, hrun, hsplit⟩
  · refine .inl ⟨left, ?_, hafter⟩
    have hshorter := length_takeRun symbols f (before ++ dots)
    have hsuffix : left <:+ f :: before := ⟨_, hrow.symm⟩
    rcases List.suffix_cons_iff.1 hsuffix with rfl | hleft
    · rw [hafter] at hshorter
      exact absurd hshorter (Nat.lt_irrefl _)
    · exact hleft
  · rcases List.eq_nil_or_concat taken with rfl | ⟨init, x, htaken⟩
    · exact .inl ⟨[], List.nil_suffix, hsplit.symm⟩
    · rw [List.concat_eq_append] at htaken
      subst htaken
      have hx : x.IsPeriod := hdots x (by rw [hsplit]; simp)
      have hshorter := congrArg List.length hsplit
      rw [List.length_append, List.length_append, List.length_singleton] at hshorter
      rw [← List.append_assoc] at hrun
      have hprime : (takeRun symbols f (before ++ dots)).1.prime = none := prime_of_last hsound hx.isPrime hrun
      have hargument : (takeRun symbols f (before ++ dots)).1.argument = .plain x := by
        rw [Run.nodes, hprime, Option.toList_none, List.append_nil] at hrun
        rcases argument_or_mark_of_last hsound.head hx.kind_ne hrun with ⟨inner, hlast, -⟩ | ⟨hnone, hmark, hhead⟩
        · exact argument_of_period hx hclosed hlast
        · -- the head would end before the mark, so no period comes before it
          have hinit : init = [] := by
            rw [List.eq_nil_iff_forall_not_mem]
            intro y hy
            have hperiod : y.IsPeriod := hdots y (by rw [hsplit]; simp [hy])
            exact hperiod.kind_ne (Formula.kind_of_mem_head hsound.head (by rw [← hhead]; simp [hy]))
          rw [hinit, List.append_nil] at hhead
          exact absurd hnone (argument_ne_nil_of_period hdots hmany hmark hhead.symm)
      obtain ⟨mark, hmark⟩ := mark_of_period hx f (takeHead symbols f (before ++ dots)).2 hargument
      have hmem : mark ∈ f :: before ++ dots := by
        rw [← hnodes, Run.nodes, show (takeRun symbols f (before ++ dots)).1.mark = some mark from hmark]
        simp
      exact .inr ⟨(takeRun symbols f (before ++ dots)).1, (takeRun symbols f (before ++ dots)).2, x, rfl, ⟨_, hsplit.symm⟩,
        by omega, hargument, hprime, mark, hmem, hsound.mark mark hmark⟩

/-! ## Rows -/

theorem cut_of_periods (hdots : ∀ dot ∈ dots, dot.IsPeriod) (paired : Bool) : cut symbols paired dots = dots.map .single := by
  induction dots with
  | nil => rw [cut, List.map_nil]
  | cons dot rest ih =>
    obtain ⟨hdot, hrest⟩ := List.forall_mem_cons.1 hdots
    rw [cut, if_neg hdot.kind_ne, hdot.isBar, Bool.and_false, if_neg Bool.false_ne_true, ih hrest, List.map_cons]

/-- the periods at the end of a row are segments of their own, or a mark put one of them in parentheses and only those behind it are -/
inductive PeriodsLeft (symbols : SymbolTable) (dots row : List Formula) : List Segment → Prop
  /-- all of them are left -/
  | all (front : List Segment) : PeriodsLeft symbols dots row (front ++ dots.map .single)
  /-- fewer of them are left, behind a closing parenthesis -/
  | fewer (front : List Segment) (ends : List Formula) (suffix : ends <:+ dots) (length : ends.length < dots.length)
    (marked : ∃ mark ∈ row, mark.isApplication = true) (tight : Tight (front.flatMap (Segment.latex symbols))) :
    PeriodsLeft symbols dots row (front ++ ends.map .single)

theorem PeriodsLeft.cons {row others : List Formula} {list : List Segment} (h : PeriodsLeft symbols dots row list)
    (hsubset : row ⊆ others) (segment : Segment) : PeriodsLeft symbols dots others (segment :: list) := by
  cases h with
  | all front => exact .all (segment :: front)
  | fewer front ends suffix length marked tight =>
    obtain ⟨mark, hmark, happlies⟩ := marked
    exact .fewer (segment :: front) ends suffix length ⟨mark, hsubset hmark, happlies⟩ (tight.append _)

/-- **a row that ends in periods**, two or more of them -/
theorem cut_periods (symbols : SymbolTable) (hdots : ∀ dot ∈ dots, dot.IsPeriod) (hmany : 2 ≤ dots.length) (paired : Bool) (before : List Formula) :
    PeriodsLeft symbols dots (before ++ dots) (cut symbols paired (before ++ dots)) := by
  cases before with
  | nil =>
    rw [List.nil_append, cut_of_periods hdots]
    exact .all []
  | cons f rest =>
    have hrest : rest ++ dots ⊆ f :: rest ++ dots := List.subset_cons_self f (rest ++ dots)
    rw [List.cons_append, cut]
    split
    · rename_i hkind
      rcases takeRun_periods hkind hdots hmany rest with ⟨left, hleft, hafter⟩ |
        ⟨run, ends, x, htaken, hsuffix, hfewer, hargument, hprime, hmarked⟩
      · have hshorter := hleft.length_le
        rw [hafter]
        have hinside : left ++ dots ⊆ rest ++ dots := (hleft.sublist.append_right dots).subset
        exact (cut_periods symbols hdots hmany paired left).cons (List.Subset.trans hinside hrest) _
      · have hends : ∀ dot ∈ ends, dot.IsPeriod := fun dot hdot => hdots dot (hsuffix.subset hdot)
        rw [htaken, cut_of_periods hends]
        refine .fewer [.run run] ends hsuffix hfewer hmarked ?_
        rw [List.flatMap_singleton, Segment.latex_run, hprime, hargument]
        exact (tight_parenthesized _).append _
    · split <;> exact (cut_periods symbols hdots hmany paired rest).cons hrest _
termination_by before.length
decreasing_by
  all_goals simp only [List.length_cons]; omega

/-! ## Periods in documents -/

/-- a leaf that shows one period: as text in MathML, as its only glyph in the other shapes -/
def ShowsPeriod (shape : Shape) (node : Node) : Prop :=
  shape.kind node = .operator ∧
    if shape = .mathml then node.trimmed = ['.']
    else node.trimmed = [] ∧ (shape.glyphCodes node).map readCode? = [some '.'.toNat]

instance (shape : Shape) (node : Node) : Decidable (ShowsPeriod shape node) :=
  inferInstanceAs (Decidable (_ ∧ ite _ _ _))

/-- a table by which a period is a period: no operator and no function is written like that, and its glyph is padded with a blank -/
structure Symbol.SymbolTable.WritesPeriod (symbols : SymbolTable) : Prop where
  operator : symbols.operator? ['.'] = none
  function : symbols.isFunction ['.'] = false
  glyph : symbols.codePointToken '.'.toNat = ['.', ' ']

theorem default_writesPeriod : SymbolTable.default.WritesPeriod where
  operator := by
    rw [operator?_default]
    decide
  function := by decide +kernel
  glyph := by decide +kernel

/-- what a period comes to: drawings keep the padding of its glyph -/
def periodLatex (shape : Shape) : Latex :=
  if shape = .svg then ['.', ' '] else ['.']

theorem trim_periodLatex (shape : Shape) : trim (periodLatex shape) = ['.'] := by
  cases shape <;> rfl

namespace ShowsPeriod

variable {shape : Shape} {place : Located}

theorem glyph {node : Node} (h : ShowsPeriod shape node) (hshape : shape ≠ .mathml) :
    node.trimmed = [] ∧ ∃ code, shape.glyphCodes node = [code] ∧ readCode? code = some '.'.toNat := by
  obtain ⟨-, hshown⟩ := h
  rw [if_neg hshape] at hshown
  obtain ⟨code, hcodes, hread⟩ := List.map_eq_singleton_iff.1 hshown.2
  exact ⟨hshown.1, code, hcodes, hread⟩

theorem rawText {node : Node} (h : ShowsPeriod shape node) : Formula.rawText shape node = ['.'] := by
  by_cases hshape : shape = .mathml
  · subst hshape
    rw [Formula.rawText, h.2]
    rfl
  · obtain ⟨htext, code, hcodes, hread⟩ := h.glyph hshape
    rw [Formula.rawText, htext, hcodes, List.isEmpty_nil, if_pos rfl, List.filterMap_cons, Formula.glyphChar?, hread]
    rfl

theorem content {node : Node} (h : ShowsPeriod shape node) (hsymbols : symbols.WritesPeriod) :
    Formula.content shape symbols node = periodLatex shape := by
  have hname : symbols.functionOr (periodLatex shape) = periodLatex shape := by
    rw [SymbolTable.functionOr, trim_periodLatex, hsymbols.function]
    rfl
  by_cases hshape : shape = .mathml
  · subst hshape
    rw [Formula.content, h.2]
    exact hname
  · obtain ⟨htext, code, hcodes, hread⟩ := h.glyph hshape
    have htoken : Formula.glyphToken shape symbols code = periodLatex shape := by
      rw [glyphToken_of_readCode? hread]
      cases shape with
      | svg => exact hsymbols.glyph
      | chtml => rfl
      | mathml => exact absurd rfl hshape
    rw [Formula.content, htext, List.isEmpty_nil, if_pos rfl, Formula.glyphContent, hcodes, List.map_singleton, joinGlyphs_singleton,
      htoken]
    exact hname

/-- a leaf that shows a period is one to its neighbours -/
theorem isPeriod (h : ShowsPeriod shape place.node) (hsymbols : symbols.WritesPeriod) :
    (Formula.read shape symbols place).IsPeriod where
  operator := by rw [Formula.kind_read, h.1]
  key := by
    rw [Formula.key, Formula.facts_read, Formula.factsAt, h.content hsymbols, trim_periodLatex]

/-- **what a leaf comes to that shows a period** -/
theorem latex (h : ShowsPeriod shape place.node) (hsymbols : symbols.WritesPeriod) :
    (Formula.read shape symbols place).latex symbols = periodLatex shape := by
  have hperiod := h.isPeriod hsymbols
  have hraw : (Formula.read shape symbols place).facts.raw = ['.'] := by
    rw [Formula.facts_read, Formula.factsAt, h.rawText]
  rw [latex_operator hperiod.operator, Formula.operatorLatex, hraw, hperiod.key, hsymbols.operator, Formula.facts_read,
    Formula.factsAt, h.content hsymbols]
  rfl

end ShowsPeriod

end Untypeset
