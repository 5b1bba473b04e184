import Untypeset.Proofs.Formula.Periods
import Untypeset.Proofs.Formula.Simulation
import Untypeset.Proofs.Latex.Cleanup
import Untypeset.Proofs.Latex.Sizing
import Untypeset.Session

/-!
An ellipsis through a conversion and the clean-up behind it. Clean-up tells an ellipsis from the end of a sentence by the two
periods that stand next to each other, and in a drawing they do not: each keeps the padding of its glyph. So of the periods that a
row ends in, all are kept in the other shapes and all but one in a drawing (`ellipsis_kept_iff`), as long as they stand alone: an
application mark before them takes one for an argument and puts it in parentheses.
-/

namespace Untypeset

open Untypeset.Latex Untypeset.Markup Untypeset.Rendering Untypeset.Symbol Untypeset.Text

/-! ## Ends of sources -/

namespace Latex

variable {a b s : Latex}

/-- sizing goes past an end without parentheses -/
theorem sized_append_plain (h : b.all (fun c => !isParen c) = true) : sized (a ++ b) = sized a ++ b := by
  rw [sized, sizedAfter_append, sizedAfter_eq_self (allSizedAfter_of_all h)]
  rfl

theorem tight_sized (h : Tight s) : Tight (sized s) := by
  obtain ⟨t, rfl⟩ := h
  rw [sized, sizedAfter_append]
  refine Tight.append ?_ _
  rw [sizedAfter, sizedAfter, List.append_nil]
  rcases sizedChar_cases (t.reverse ++ []) ')' with ⟨hchar, -⟩ | ⟨hopen, -⟩ | ⟨-, hchar⟩
  · exact ⟨[], hchar⟩
  · exact absurd hopen (by decide)
  · exact ⟨rightWord, hchar⟩

/-- clean-up that drops periods takes none away, or the one that ends a sentence -/
theorem squash_cleaned (spaces : Bool) (s : Latex) :
    (¬ EndsSentence s ∧ squash (cleaned spaces true s) = squash s) ∨
      (EndsSentence s ∧ squash s = squash (cleaned spaces true s) ++ ['.']) := by
  have hspaced : (EndsSentence (if spaces then plainSpaces s else s) ↔ EndsSentence s) ∧
      squash (if spaces then plainSpaces s else s) = squash s := by
    split
    · exact ⟨endsSentence_plainSpaces, squash_plainSpaces s⟩
    · exact ⟨Iff.rfl, rfl⟩
  rw [cleaned, if_pos rfl, ← hspaced.1, ← hspaced.2]
  rcases squash_dropPeriod (if spaces then plainSpaces s else s) with ⟨hends, hsame⟩ | hdropped
  · exact .inl ⟨hends, by rw [hsame]⟩
  · exact .inr hdropped

/-! ## Periods -/

/-- so many periods, each as the shape writes it -/
def periods (shape : Shape) (count : Nat) : Latex :=
  (List.replicate count (periodLatex shape)).flatten

theorem periods_add (shape : Shape) (m n : Nat) : periods shape (m + n) = periods shape m ++ periods shape n := by
  rw [periods, ← List.replicate_append_replicate, List.flatten_append]
  rfl

theorem plain_periods (shape : Shape) (count : Nat) : (periods shape count).all (fun c => !isParen c) = true := by
  rw [periods, List.all_flatten, List.all_replicate]
  cases shape <;> simp [periodLatex, isParen]

theorem squash_periods (shape : Shape) (count : Nat) : squash (periods shape count) = List.replicate count '.' := by
  induction count with
  | zero => rfl
  | succ count ih =>
    have hone : squash (periodLatex shape) = ['.'] := by cases shape <;> rfl
    rw [periods, List.replicate_succ, List.flatten_cons, squash_append, hone, ← periods, ih, List.replicate_succ, List.singleton_append]

/-- two periods or more stand next to each other unless each has a blank behind it -/
theorem endsSentence_periods {shape : Shape} {count : Nat} (h : 2 ≤ count) :
    EndsSentence (s ++ periods shape count) ↔ shape = .svg := by
  obtain ⟨others, rfl⟩ := Nat.exists_eq_add_of_le' h
  rw [periods_add, ← List.append_assoc]
  generalize s ++ periods shape others = start
  cases shape with
  | svg =>
    have hend : trimEnd (start ++ periods .svg 2) = (start ++ ['.', ' ']) ++ ['.'] := by
      rw [trimEnd_append_of_ne (by decide), List.append_assoc]
      rfl
    rw [endsSentence_iff hend, List.getLast?_append]
    simp
  | chtml | mathml =>
    have hend : trimEnd (start ++ ['.', '.']) = (start ++ ['.']) ++ ['.'] := by
      rw [trimEnd_append_of_ne (by decide), List.append_assoc]
      rfl
    rw [show periods _ 2 = ['.', '.'] from rfl, endsSentence_iff hend, List.getLast?_append]
    simp

end Latex

/-! ## Lists of siblings -/

/-- the kinds that are a list of siblings, which may be cut at an equals sign -/
def Rendering.Kind.isList (kind : Kind) : Bool :=
  kind.isPlain || kind = .row

namespace Formula

variable {symbols : SymbolTable} {f only : Formula} {ends : List Formula}

/-- the siblings that the LaTeX of a list ends with: those behind the equals sign, where a row is cut at one -/
def lastRow (f : Formula) : List Formula :=
  match if f.kind = .row then f.sides? else none with
  | some (_, right) => right
  | none => f.parts

theorem latex_list (symbols : SymbolTable) (h : f.kind.isList = true) : ∃ lead, f.latex symbols = lead ++ rowLatex symbols f.lastRow := by
  rw [Kind.isList, Bool.or_eq_true, decide_eq_true_eq] at h
  rw [lastRow]
  by_cases hrow : f.kind = .row
  · rw [latex_row hrow, sidesLatex, if_pos hrow]
    cases f.sides? with
    | none => exact ⟨[], rfl⟩
    | some sides => exact ⟨rowLatex symbols sides.1 ++ ['='], by simp⟩
  · rw [latex_plain (h.resolve_right hrow), if_neg hrow]
    exact ⟨[], rfl⟩

/-- what a list ends with and is no equals sign, it has behind its equals sign -/
theorem suffix_lastRow (hends : ends <:+ f.parts) (hequals : ∀ g ∈ ends, g.isEquals = false) : ends <:+ f.lastRow := by
  rw [lastRow]
  cases hsides : (if f.kind = .row then f.sides? else none) with
  | none => exact hends
  | some sides =>
    obtain ⟨left, right⟩ := sides
    have hcut : f.sides? = some (left, right) := by
      split at hsides
      · exact hsides
      · cases hsides
    obtain ⟨equals, hsign, hparts⟩ := parts_of_sides hcut
    have houtside : equals ∉ ends := by
      intro hmem
      rw [hequals equals hmem] at hsign
      cases hsign
    have hright : equals :: right <:+ f.parts := ⟨left, hparts.symm⟩
    rcases List.suffix_or_suffix_of_suffix hends hright with hsuffix | hsuffix
    · rcases List.suffix_cons_iff.1 hsuffix with rfl | hinside
      · exact absurd List.mem_cons_self houtside
      · exact hinside
    · exact absurd (hsuffix.subset List.mem_cons_self) houtside

theorem lastRow_subset (f : Formula) : f.lastRow ⊆ f.parts := by
  rw [lastRow]
  split
  · rename_i hsides
    split at hsides
    · exact (sides_subset hsides).2
    · cases hsides
  · exact List.Subset.refl _

/-- a list with one sibling comes to what the sibling comes to -/
theorem latex_of_only (h : f.kind.isList = true) (hparts : f.parts = [only]) : f.latex symbols = only.latex symbols := by
  rw [Kind.isList, Bool.or_eq_true, decide_eq_true_eq] at h
  have hrow : rowLatex symbols f.parts = only.latex symbols := by rw [hparts, rowLatex_singleton]
  rcases h with hplain | hk
  · rw [latex_plain hplain, hrow]
  · have huncut : f.sides? = none := by
      rw [sides?, hparts]
      cases hequals : only.isEquals <;> simp [hequals]
    rw [latex_row hk, sidesLatex, huncut]
    exact hrow

end Formula

/-- a place is a list of siblings, or it holds nothing but one -/
inductive HoldsRow (shape : Shape) : Located → Located → Prop
  | itself {place : Located} (list : (shape.kind place.node).isList = true) : HoldsRow shape place place
  | inside {place only row : Located} (list : (shape.kind place.node).isList = true)
    (parts : Formula.partPlaces shape place = [only]) (holds : HoldsRow shape only row) : HoldsRow shape place row

namespace HoldsRow

variable {shape : Shape} {place row : Located}

theorem isList (h : HoldsRow shape place row) : (shape.kind row.node).isList = true := by
  induction h with
  | itself list => exact list
  | inside _ _ _ ih => exact ih

theorem latex (h : HoldsRow shape place row) (symbols : SymbolTable) :
    (Formula.read shape symbols place).latex symbols = (Formula.read shape symbols row).latex symbols := by
  induction h with
  | itself => rfl
  | @inside place only row list parts _ ih =>
    rw [← ih]
    refine Formula.latex_of_only (by rw [Formula.kind_read, list]) ?_
    rw [Formula.parts_read, parts, List.map_singleton]

end HoldsRow

/-! ## Rows that end in periods -/

/-- the periods at the end of a row are segments of their own -/
def StandAlone (shape : Shape) (symbols : SymbolTable) (row : Located) (dots : List Located) : Prop :=
  (dots.map (Formula.read shape symbols)).map .single <:+ segments symbols (Formula.read shape symbols row).lastRow

section

variable {symbols : SymbolTable} {shape : Shape} {row : Located} {before dots : List Located}

theorem flatMap_periods {ends : List Formula} (h : ∀ dot ∈ ends, dot.latex symbols = periodLatex shape) :
    (ends.map Segment.single).flatMap (Segment.latex symbols) = periods shape ends.length := by
  induction ends with
  | nil => rfl
  | cons dot rest ih =>
    obtain ⟨hdot, hrest⟩ := List.forall_mem_cons.1 h
    rw [List.map_cons, List.flatMap_cons, Segment.latex_single, hdot, ih hrest]
    rfl

variable (hsymbols : symbols.WritesPeriod) (hlist : (shape.kind row.node).isList = true)
  (hdots : ∀ dot ∈ dots, ShowsPeriod shape dot.node)

include hsymbols hlist hdots

/-- periods that stand alone are what the LaTeX of their row ends in -/
theorem latex_of_standAlone (h : StandAlone shape symbols row dots) :
    ∃ front, (Formula.read shape symbols row).latex symbols = front ++ periods shape dots.length := by
  obtain ⟨lead, hlead⟩ := Formula.latex_list symbols (f := Formula.read shape symbols row) (by rw [Formula.kind_read, hlist])
  obtain ⟨front, hfront⟩ := h
  have hlatex : ∀ dot ∈ dots.map (Formula.read shape symbols), dot.latex symbols = periodLatex shape := by
    rw [List.forall_mem_map]
    exact fun dot hdot => (hdots dot hdot).latex hsymbols
  refine ⟨lead ++ front.flatMap (Segment.latex symbols), ?_⟩
  rw [hlead, rowLatex_eq, ← hfront, List.flatMap_append, flatMap_periods hlatex, List.length_map, List.append_assoc]

/-- **the end of a row that ends in periods**: they stand alone, or the row has an application mark and its LaTeX fewer periods
behind a closing parenthesis -/
theorem standAlone_or (hparts : Formula.partPlaces shape row = before ++ dots) (hmany : 2 ≤ dots.length) :
    StandAlone shape symbols row dots ∨ (∃ mark ∈ (Formula.read shape symbols row).parts, mark.isApplication = true) ∧
      ∃ front count, Tight front ∧ count < dots.length ∧
        (Formula.read shape symbols row).latex symbols = front ++ periods shape count := by
  have hperiods : ∀ dot ∈ dots.map (Formula.read shape symbols), dot.IsPeriod := by
    rw [List.forall_mem_map]
    exact fun dot hdot => (hdots dot hdot).isPeriod hsymbols
  have hlatex : ∀ dot ∈ dots.map (Formula.read shape symbols), dot.latex symbols = periodLatex shape := by
    rw [List.forall_mem_map]
    exact fun dot hdot => (hdots dot hdot).latex hsymbols
  have hsuffix : dots.map (Formula.read shape symbols) <:+ (Formula.read shape symbols row).lastRow := by
    refine Formula.suffix_lastRow ?_ fun dot hdot => (hperiods dot hdot).isEquals
    rw [Formula.parts_read, hparts, List.map_append]
    exact List.suffix_append _ _
  obtain ⟨lead, hlead⟩ := Formula.latex_list symbols (f := Formula.read shape symbols row) (by rw [Formula.kind_read, hlist])
  obtain ⟨others, hothers⟩ := hsuffix
  have hleft := cut_periods symbols hperiods (by rw [List.length_map]; exact hmany)
    (hasBarPair (Formula.read shape symbols row).lastRow) others
  rw [hothers] at hleft
  change PeriodsLeft _ _ _ (segments symbols (Formula.read shape symbols row).lastRow) at hleft
  rw [rowLatex_eq] at hlead
  unfold StandAlone
  generalize segments symbols (Formula.read shape symbols row).lastRow = list at hleft hlead ⊢
  cases hleft with
  | all front => exact .inl (List.suffix_append _ _)
  | fewer front ends hends hfewer marked tight =>
    obtain ⟨mark, hmark, happlies⟩ := marked
    refine .inr ⟨⟨mark, Formula.lastRow_subset _ hmark, happlies⟩, lead ++ front.flatMap (Segment.latex symbols), ends.length,
      tight.append lead, by rwa [List.length_map] at hfewer, ?_⟩
    rw [hlead, List.flatMap_append, flatMap_periods fun dot hdot => hlatex dot (hends.subset hdot), List.append_assoc]

end

/-! ## Clean-up -/

/-- apart from blanks, clean-up has changed nothing in what was written, and so many periods are at its end -/
structure KeepsPeriods (count : Nat) (written latex : Latex) : Prop where
  unchanged : squash latex = squash written
  periods : List.replicate count '.' <:+ squash latex

/-- behind a closing parenthesis there are no more periods than stand there -/
theorem not_suffix_periods {front : Latex} {shape : Shape} {count more : Nat} (h : Tight front) (hmore : count < more) :
    ¬ List.replicate more '.' <:+ squash (front ++ periods shape count) := by
  intro hsuffix
  obtain ⟨t, rfl⟩ := h
  have hclosing : ')' :: List.replicate count '.' <:+ squash (t ++ [')'] ++ periods shape count) := by
    rw [squash_append, squash_append, squash_periods, List.append_assoc]
    exact List.suffix_append _ _
  have hshort : (')' :: List.replicate count '.').length ≤ (List.replicate more '.').length := by
    rw [List.length_cons, List.length_replicate, List.length_replicate]
    exact hmore
  have hmem := (List.suffix_of_suffix_length_le hclosing hsuffix hshort).subset List.mem_cons_self
  exact absurd (List.eq_of_mem_replicate hmem) (by decide)

/-- periods that stand alone survive clean-up unless each has a blank behind it, and then all but the last do -/
theorem cleaned_periods {written front : Latex} {shape : Shape} {count : Nat} (spaces : Bool) (hmany : 2 ≤ count)
    (h : written = front ++ periods shape count) :
    (KeepsPeriods count written (cleaned spaces true written) ↔ shape ≠ .svg) ∧
      (shape = .svg → squash written = squash (cleaned spaces true written) ++ ['.']) := by
  have hends : EndsSentence written ↔ shape = .svg := by rw [h, endsSentence_periods hmany]
  rcases squash_cleaned spaces written with ⟨hkept, hsame⟩ | ⟨hdropped, hlost⟩
  · rw [hends] at hkept
    refine ⟨iff_of_true ⟨hsame, ?_⟩ hkept, fun hsvg => absurd hsvg hkept⟩
    rw [hsame, h, squash_append, squash_periods]
    exact List.suffix_append _ _
  · rw [hends] at hdropped
    refine ⟨iff_of_false (fun hkeeps => ?_) (not_not_intro hdropped), fun _ => hlost⟩
    have hlength := congrArg List.length hlost
    rw [hkeeps.unchanged, List.length_append, List.length_singleton] at hlength
    omega

/-- **an ellipsis survives in every shape but a drawing.** A row that ends in two periods or more, a formula by itself or all that a
formula holds, is converted to LaTeX that ends in all of them after clean-up if and only if its shape is not a drawing and the
periods stand alone. Of periods that stand alone in a drawing, the last one is dropped and nothing else; and periods stand alone
wherever no sibling is an application mark. -/
theorem ellipsis_kept_iff (session : Session) {place : Option Located} {shape : Shape} {start row : Located}
    {before dots : List Located} (hworks : session.converter.fault = none) (hsymbols : session.converter.symbols.WritesPeriod)
    (hdrops : session.dropPeriod = true)
    (hfound : place.bind (detect? session.converter.preferAssistive) = some (shape, start)) (hrow : HoldsRow shape start row)
    (hparts : Formula.partPlaces shape row = before ++ dots) (hdots : ∀ dot ∈ dots, ShowsPeriod shape dot.node)
    (hmany : 2 ≤ dots.length) :
    ∃ latex, (session.convertNode place).2.value = .converted shape latex ∧
      let written := (convertAt shape session.converter.symbols start).value
      (KeepsPeriods dots.length written latex ↔ shape ≠ .svg ∧ StandAlone shape session.converter.symbols row dots) ∧
        (shape = .svg → StandAlone shape session.converter.symbols row dots → squash written = squash latex ++ ['.']) ∧
        ((∀ sibling ∈ Formula.partPlaces shape row, (Formula.read shape session.converter.symbols sibling).isApplication = false) →
          StandAlone shape session.converter.symbols row dots) := by
  have hlist := hrow.isList
  have houtcome : (session.convertNode place).2.value = .converted shape
      (cleaned session.normalizeSpaces true (convertAt shape session.converter.symbols start).value) := by
    simp [Session.convertNode, Converter.convert, hfound, Converter.convertAs, hworks, Session.tidy, hdrops]
  have hwritten : (convertAt shape session.converter.symbols start).value =
      sized ((Formula.read shape session.converter.symbols row).latex session.converter.symbols) := by
    rw [← hrow.latex]
    rfl
  refine ⟨_, houtcome, ?_⟩
  dsimp only
  generalize (convertAt shape session.converter.symbols start).value = written at hwritten ⊢
  have hsized {front : Latex} {count : Nat}
      (h : (Formula.read shape session.converter.symbols row).latex session.converter.symbols = front ++ periods shape count) :
      written = sized front ++ periods shape count := by
    rw [hwritten, h, sized_append_plain (plain_periods shape count)]
  by_cases halone : StandAlone shape session.converter.symbols row dots
  · obtain ⟨front, hfront⟩ := latex_of_standAlone hsymbols hlist hdots halone
    obtain ⟨hkeeps, hlost⟩ := cleaned_periods session.normalizeSpaces hmany (hsized hfront)
    exact ⟨by rw [hkeeps, and_iff_left halone], fun hsvg _ => hlost hsvg, fun _ => halone⟩
  · obtain ⟨⟨mark, hmark, happlies⟩, front, count, htight, hfewer, hfront⟩ :=
      (standAlone_or hsymbols hlist hdots hparts hmany).resolve_left halone
    refine ⟨iff_of_false (fun hkeeps => ?_) fun h => halone h.2, fun _ h => absurd h halone, fun hunmarked => ?_⟩
    · have hsuffix := hkeeps.periods
      rw [hkeeps.unchanged, hsized hfront] at hsuffix
      exact not_suffix_periods (tight_sized htight) hfewer hsuffix
    · rw [Formula.parts_read] at hmark
      obtain ⟨sibling, hsibling, rfl⟩ := List.mem_map.1 hmark
      rw [hunmarked sibling hsibling] at happlies
      cases happlies


/-- a row of an x and three periods -/
def seriesRow : Node :=
  .element "mrow" [] (.element "mi" [] [.text .plain "x"] :: List.replicate 3 (.element "mo" [] [.text .plain "."]))

/-- a formula that holds nothing but that row -/
def openSeries : Node :=
  .element "math" [] [seriesRow]

theorem ellipsis_kept_iff_of_openSeries :
    let row : Located := ⟨seriesRow, [(0, openSeries)]⟩
    HoldsRow .mathml (.top openSeries) row ∧ (∀ dot ∈ row.children.drop 1, ShowsPeriod .mathml dot.node) ∧
      ∃ latex, ((Session.start .default .default).convertNode (some (.top openSeries))).2.value = .converted .mathml latex ∧
        KeepsPeriods 3 (convertAt .mathml .default (.top openSeries)).value latex := by
  intro row
  have hrow : HoldsRow .mathml (.top openSeries) row := .inside (by decide +kernel) rfl (.itself (by decide +kernel))
  have hdots : ∀ dot ∈ row.children.drop 1, ShowsPeriod .mathml dot.node := by decide +kernel
  have hfound : (some (Located.top openSeries)).bind (detect? true) = some (.mathml, .top openSeries) := rfl
  have hparts : Formula.partPlaces .mathml row = row.children.take 1 ++ row.children.drop 1 := rfl
  obtain ⟨latex, houtcome, hkeeps, -, halone⟩ := ellipsis_kept_iff (Session.start .default .default) rfl default_writesPeriod rfl
    hfound hrow hparts hdots (by decide)
  exact ⟨hrow, hdots, latex, houtcome, hkeeps.2 ⟨by decide, halone (by decide +kernel)⟩⟩

/-- an x and two periods, drawn -/
def drawnEllipsis : Node :=
  .element "g" [("data-mml-node", "math")] (["78", "2E", "2E"].map fun code =>
    .element "g" [("data-mml-node", if code = "78" then "mi" else "mo")] [.element "use" [("data-c", code)] []])

/-- **what limits this**: the periods of a drawing stand apart, and the last one is taken for the end of a sentence -/
theorem drawn_ellipsis_loses_period :
    (∀ dot ∈ (Located.top drawnEllipsis).children.drop 1, ShowsPeriod .svg dot.node) ∧
      ((Session.start .default .default).convertNode (some (.top drawnEllipsis))).2.value = .converted .svg "x .".toList ∧
      ¬ List.replicate 2 '.' <:+ squash "x .".toList := by
  decide +kernel

end Untypeset
