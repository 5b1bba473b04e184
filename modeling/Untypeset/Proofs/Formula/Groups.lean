import Untypeset.Proofs.Formula.Closings
import Untypeset.Proofs.Formula.Digits

/-!
Parentheses that a row has of its own, and that a superscript or a function makes use of. The row is recognised by its first and
its last sibling; whether these two belong together is not asked. So what the superscript or the function is set behind is one
group if and only if the parentheses between the two are balanced by themselves (`reused_parens_enclose_iff`); in `(a)(b)` they
are not.

A row and its LaTeX mirror each other if each can be read wherever the other can (`Mirrors`). One direction holds of all rows; for
the other, no sibling may be a bar, since what stands between bars is given a pair of parentheses that can hold unbalanced ones.
-/

namespace Untypeset

open Untypeset.Latex Untypeset.Markup Untypeset.Rendering Untypeset.Symbol Untypeset.Text

/-! ## Groups -/

/-- one group: a source in parentheses, the first of which is closed by the last -/
def IsGroup (s : Latex) : Prop :=
  ∃ inner, s = parenthesized inner ∧ Balanced '(' ')' (parens inner)

theorem parenthesized_inj {s t : Latex} (h : parenthesized s = parenthesized t) : s = t := by
  rw [parenthesized, parenthesized, List.cons_append, List.cons_append, List.cons.injEq] at h
  exact List.append_cancel_right h.2

theorem isGroup_parenthesized_iff {s : Latex} : IsGroup (parenthesized s) ↔ Balanced '(' ')' (parens s) := by
  constructor
  · rintro ⟨inner, hinner, hbalanced⟩
    rwa [parenthesized_inj hinner]
  · intro hbalanced
    exact ⟨s, rfl, hbalanced⟩

namespace Formula

/-! ## Rows and what they come to -/

/-- a source that can be read wherever the fences of the siblings can, and the other way round if there are no bars among them -/
structure Mirrors (row : List Formula) (s : Latex) : Prop where
  refines : Refines '(' ')' (row.flatMap fence) (parens s)
  refined : (∀ f ∈ row, f.isBar = false) → Refines '(' ')' (parens s) (row.flatMap fence)

variable {row other : List Formula} {s t : Latex} {f : Formula}

namespace Mirrors

theorem nil : Mirrors [] [] where
  refines := .refl []
  refined _ := .refl []

theorem append (h : Mirrors row s) (h' : Mirrors other t) : Mirrors (row ++ other) (s ++ t) where
  refines := by
    rw [List.flatMap_append, parens_append]
    exact h.refines.append h'.refines
  refined hbars := by
    rw [List.flatMap_append, parens_append]
    exact (h.refined fun f hf => hbars f (List.mem_append_left other hf)).append
      (h'.refined fun f hf => hbars f (List.mem_append_right row hf))

/-- siblings without parentheses and a source with balanced ones -/
theorem of_balanced (hrow : ∀ f ∈ row, f.fence = []) (hs : Balanced '(' ')' (parens s)) : Mirrors row s where
  refines := by
    rw [List.flatMap_eq_nil_iff.2 hrow]
    exact hs.refines
  refined _ := by
    rw [List.flatMap_eq_nil_iff.2 hrow]
    exact hs.refined

theorem congr (h : Mirrors row s) (hparens : parens t = parens s) : Mirrors row t where
  refines := by
    rw [hparens]
    exact h.refines
  refined := by
    rw [hparens]
    exact h.refined

theorem flatMap {list : List Segment} (h : ∀ segment ∈ list, Mirrors segment.nodes (segment.latex .default)) :
    Mirrors (list.flatMap Segment.nodes) (list.flatMap (Segment.latex .default)) := by
  induction list with
  | nil => exact nil
  | cons segment rest ih =>
    rw [List.flatMap_cons, List.flatMap_cons]
    exact (h segment List.mem_cons_self).append (ih fun other hother => h other (List.mem_cons_of_mem segment hother))

end Mirrors

theorem mirrors_latex (hf : f.AllFenced) : Mirrors [f] (f.latex .default) := by
  rcases fence_cases f with hnone | ⟨c, hc, hfence, hshows⟩
  · have hbalanced : Balanced '(' ')' (parens (f.latex .default)) := .of_refines (refines_latex hf) (by rw [hnone]; exact .nil)
    exact .of_balanced (by simpa using hnone) hbalanced
  · have hvisible := (hf f f.mem_nodes).2 (by rw [hshows]; exact List.cons_ne_nil c [])
    have hparens : parens (f.latex .default) = [f].flatMap fence := by
      rw [latex_of_isFence hc hfence hvisible, List.flatMap_singleton, hshows, parens, List.filter_cons_of_pos hc]
      rfl
    exact ⟨by rw [hparens]; exact .refl _, fun _ => by rw [hparens]; exact .refl _⟩

/-- a pair of parentheses around a single sibling changes nothing, even if the sibling is a parenthesis itself -/
theorem mirrors_plain (hf : f.AllFenced) : Mirrors [f] (parenthesized (trim (f.latex .default))) := by
  rcases fence_cases f with hnone | ⟨c, hc, hfence, hshows⟩
  · have hbalanced : Balanced '(' ')' (parens (f.latex .default)) := .of_refines (refines_latex hf) (by rw [hnone]; exact .nil)
    refine .of_balanced (by simpa using hnone) ?_
    rw [parens_parenthesized, parens_trim]
    exact hbalanced.wrap (by decide)
  · have hvisible := (hf f f.mem_nodes).2 (by rw [hshows]; exact List.cons_ne_nil c [])
    have hparens : parens (parenthesized (trim (f.latex .default))) = '(' :: [c] ++ [')'] := by
      rw [parens_parenthesized, parens_trim, latex_of_isFence hc hfence hvisible, parens, List.filter_cons_of_pos hc]
      rfl
    constructor
    · rw [hparens, List.flatMap_singleton, hshows]
      exact (Refines.refl [c]).wrap (by decide)
    · intro _
      rw [hparens, List.flatMap_singleton, hshows]
      exact .unwrap_singleton (by decide) c

/-! ## Runs -/

/-- siblings between bars end in a bar -/
theorem last_of_barred {run : Run} {inner : List Formula} (hrun : .run run ∈ segments .default row)
    (h : run.argument = .barred inner) : ∃ others bar, bar.isBar = true ∧ inner = others ++ [bar] := by
  obtain ⟨g, rest, -, -, rfl⟩ := mem_segments_run hrun
  have hclosed := takeRun_closed .default g rest
  rwa [h] at hclosed

/-- no node of a head is a parenthesis, and neither are the mark and the prime of a run -/
theorem fence_of_mem_head {head : Head} (hsound : head.Sound .default) : ∀ f ∈ head.nodes, f.fence = [] :=
  fun f hf => fence_of_kind (by rw [kind_of_mem_head hsound hf]; decide)

theorem fence_of_mem_mark {run : Run} (hsound : run.Sound .default) (hfenced : ∀ f ∈ run.nodes, f.AllFenced) :
    ∀ f ∈ run.mark.toList, f.fence = [] := by
  intro f hf
  exact fence_of_isApplication (hfenced f (by simp [Run.nodes, hf])) (hsound.mark f (Option.mem_toList.1 hf))

theorem fence_of_mem_prime {run : Run} (hsound : run.Sound .default) : ∀ f ∈ run.prime.toList, f.fence = [] :=
  fun f hf => fence_of_isPrime (hsound.prime f (Option.mem_toList.1 hf))

theorem mirrors_head {head : Head} (hsound : head.Sound .default) (hfenced : ∀ f ∈ head.nodes, f.AllFenced) :
    Mirrors head.nodes (head.latex .default) := by
  refine .of_balanced (fence_of_mem_head hsound) (.of_refines (refines_head hsound fun f hf => refines_latex (hfenced f hf)) ?_)
  rw [List.flatMap_eq_nil_iff.2 (fence_of_mem_head hsound)]
  exact .nil

theorem mirrors_run {run : Run} (hrun : .run run ∈ segments .default row) (hfenced : ∀ f ∈ run.nodes, f.AllFenced)
    (inner : Mirrors run.argument.nodes (rowLatex .default run.argument.nodes)) :
    Mirrors run.nodes ((Segment.run run).latex .default) := by
  have hsound := run_sound hrun
  have hhead := mirrors_head hsound.head fun f hf => hfenced f (by simp [Run.nodes, hf])
  have hmark : Mirrors run.mark.toList [] := .of_balanced (fence_of_mem_mark hsound hfenced) .nil
  have hprime : Mirrors run.prime.toList [] := .of_balanced (fence_of_mem_prime hsound) .nil
  have hargument : Mirrors run.argument.nodes (run.argument.latex .default) := by
    have hmember : ∀ f ∈ run.argument.nodes, f.AllFenced := fun f hf => hfenced f (by simp [Run.nodes, hf])
    cases h : run.argument with
    | absent => exact .nil
    | group group =>
      rw [h] at inner
      exact inner
    | barred group =>
      rw [h] at inner
      constructor
      · rw [Argument.latex, parens_parenthesized, parens_trim]
        exact inner.refines.wrap (by decide)
      · intro hbars
        obtain ⟨others, bar, hbar, rfl⟩ := last_of_barred hrun h
        rw [hbars bar (by simp [Argument.nodes])] at hbar
        cases hbar
    | enclosed f => exact mirrors_latex (hmember f (by rw [h]; exact List.mem_singleton_self f))
    | plain f => exact mirrors_plain (hmember f (by rw [h]; exact List.mem_singleton_self f))
  have hall := ((hhead.append hmark).append hargument).append hprime
  refine hall.congr ?_
  rw [List.append_nil, List.append_nil, Segment.latex_run, withPrime?]
  split
  · rw [parens_primed]
  · rfl

theorem mirrors_segment {segment : Segment} (h : segment ∈ segments .default row) (hfenced : ∀ f ∈ row, f.AllFenced)
    (inner : ∀ inner, sizes inner < sizes row → (∀ f ∈ inner, f.AllFenced) → Mirrors inner (rowLatex .default inner)) :
    Mirrors segment.nodes (segment.latex .default) := by
  have hmember : ∀ f ∈ segment.nodes, f.AllFenced := fun f hf => hfenced f (Segment.nodes_subset h hf)
  cases segment with
  | bar f opens =>
    have hbar := bar_isBar h
    have hfence : f.fence = [] := fence_of_key (kind_of_isFence hbar).2 (by decide)
    refine .of_balanced (by simpa [Segment.nodes] using hfence) ?_
    rw [Segment.latex_bar]
    cases opens <;> decide
  | single f =>
    rw [Segment.latex_single]
    exact mirrors_latex (hmember f (List.mem_singleton_self f))
  | run run =>
    have hargument : ∀ f ∈ run.argument.nodes, f ∈ run.nodes := by
      intro f hf
      simp [Run.nodes, hf]
    exact mirrors_run h hmember (inner _ (sizes_argument_lt h) fun f hf => hmember f (hargument f hf))

/-- **a row of siblings and what it comes to can be read in the same places**, apart from what bars do -/
theorem mirrors_rowLatex (row : List Formula) (hfenced : ∀ f ∈ row, f.AllFenced) : Mirrors row (rowLatex .default row) := by
  have hall : Mirrors ((segments .default row).flatMap Segment.nodes) ((segments .default row).flatMap (Segment.latex .default)) :=
    .flatMap fun segment hsegment => mirrors_segment hsegment hfenced fun inner _ hinner => mirrors_rowLatex inner hinner
  rwa [nodes_segments, ← rowLatex_eq] at hall
termination_by sizes row

/-! ## The first and the last sibling -/

variable {closing : Formula}

theorem latex_of_fence {c : Char} (hc : isParen c = true) (hf : f.AllFenced) (h : f.isFence c = true) :
    f.fence = [c] ∧ f.latex .default = [c] := by
  have hkey := (kind_of_isFence h).2
  have hfence : f.fence = [c] := by
    rcases eq_of_isParen hc with rfl | rfl
    · rw [fence, if_pos h]
    · rw [fence, if_neg (by simp [isFence, hkey]), if_pos h]
  exact ⟨hfence, latex_of_isFence hc h ((hf f f.mem_nodes).2 (by rw [hfence]; exact List.cons_ne_nil c []))⟩

theorem segments_opening {opening : Formula} (h : opening.isFence '(' = true) (row : List Formula) :
    segments .default (opening :: row) = .single opening :: segments .default row := by
  obtain ⟨hkind, hkey⟩ := kind_of_isFence h
  have hbar : opening.isBar = false := by simp [isBar, isFence, hkey]
  have hpair : hasBarPair (opening :: row) = hasBarPair row := by
    rw [hasBarPair, hasBarPair, List.countP_cons_of_neg (by rw [hbar]; exact Bool.false_ne_true)]
  rw [segments, segments, hpair, cut, if_neg (by rw [hkind]; decide), hbar, Bool.and_false, if_neg Bool.false_ne_true]

/-- an opening parenthesis at the start of a row is written by itself -/
theorem rowLatex_opening {opening : Formula} (hf : opening.AllFenced) (h : opening.isFence '(' = true) (row : List Formula) :
    rowLatex .default (opening :: row) = '(' :: rowLatex .default row := by
  rw [rowLatex_eq, segments_opening h, List.flatMap_cons, ← rowLatex_eq, Segment.latex_single, (latex_of_fence rfl hf h).2]
  rfl

theorem segment_nodes_ne_nil (segment : Segment) : segment.nodes ≠ [] := by
  cases segment with
  | run run => simp [Segment.nodes, Run.nodes, run.head.nodes_ne_nil]
  | bar f opens => exact List.cons_ne_nil f []
  | single f => exact List.cons_ne_nil f []

/-- an argument that ends in a closing parenthesis: a group, or the parenthesis by itself, perhaps with a pair of its own -/
theorem argument_closing {run : Run} {others : List Formula} (hrun : Segment.run run ∈ segments .default row)
    (hfenced : ∀ f ∈ run.argument.nodes, f.AllFenced) (h : closing.isFence ')' = true) (hlatex : closing.latex .default = [')'])
    (hnodes : run.argument.nodes = others ++ [closing])
    (inner : ∀ inner before, sizes inner < sizes row → (∀ f ∈ inner, f.AllFenced) → inner = before ++ [closing] →
      ∃ t, rowLatex .default inner = t ++ [')'] ∧ Mirrors before t) :
    ∃ t, run.argument.latex .default = t ++ [')'] ∧ Mirrors others t := by
  cases hkind : run.argument with
  | absent =>
    rw [hkind] at hnodes
    simp [Argument.nodes] at hnodes
  | group group =>
    have hlt := sizes_argument_lt hrun
    rw [hkind] at hnodes hfenced hlt
    exact inner group others hlt hfenced hnodes
  | barred group =>
    obtain ⟨rest, bar, hbar, rfl⟩ := last_of_barred hrun hkind
    rw [hkind] at hnodes
    obtain ⟨-, hlast⟩ := List.append_inj' hnodes rfl
    have hkey := (kind_of_isFence hbar).2
    rw [List.singleton_inj.1 hlast, (kind_of_isFence h).2] at hkey
    cases hkey
  | enclosed f =>
    rw [hkind] at hnodes
    obtain ⟨rfl, rfl⟩ := eq_of_singleton_eq_concat hnodes
    exact ⟨[], hlatex, .nil⟩
  | plain f =>
    rw [hkind] at hnodes
    obtain ⟨rfl, rfl⟩ := eq_of_singleton_eq_concat hnodes
    refine ⟨['(', ')'], ?_, .of_balanced (fun f hf => absurd hf List.not_mem_nil) (by decide)⟩
    rw [Argument.latex, hlatex]
    rfl

/-- a segment that ends in a closing parenthesis: the parenthesis by itself, or a run with a group as its argument, or one that
takes the parenthesis along as a plain argument and gives it a pair of its own -/
theorem segment_closing {segment : Segment} {others : List Formula} (hsegment : segment ∈ segments .default row)
    (hfenced : ∀ f ∈ segment.nodes, f.AllFenced) (h : closing.isFence ')' = true) (hnodes : segment.nodes = others ++ [closing])
    (inner : ∀ inner before, sizes inner < sizes row → (∀ f ∈ inner, f.AllFenced) → inner = before ++ [closing] →
      ∃ t, rowLatex .default inner = t ++ [')'] ∧ Mirrors before t) :
    ∃ t, segment.latex .default = t ++ [')'] ∧ Mirrors others t := by
  obtain ⟨hfence, hlatex⟩ := latex_of_fence rfl (hfenced closing (by simp [hnodes])) h
  cases segment with
  | bar f opens =>
    obtain ⟨-, rfl⟩ := eq_of_singleton_eq_concat hnodes
    have hbar := (kind_of_isFence (bar_isBar hsegment)).2
    rw [(kind_of_isFence h).2] at hbar
    cases hbar
  | single f =>
    obtain ⟨rfl, rfl⟩ := eq_of_singleton_eq_concat hnodes
    exact ⟨[], by rw [Segment.latex_single, hlatex, List.nil_append], .nil⟩
  | run run =>
    have hsound := run_sound hsegment
    have hmember : ∀ f ∈ run.argument.nodes, f.AllFenced := fun f hf => hfenced f (by simp [Segment.nodes, Run.nodes, hf])
    have happlies : closing.isApplication = false := by
      rw [Bool.eq_false_iff]
      intro happlies
      rw [fence_of_isApplication (hfenced closing (by simp [hnodes])) happlies] at hfence
      cases hfence
    obtain ⟨hprime, before, hargument, rfl⟩ := argument_of_closing hsound h happlies hnodes
    have hhead := mirrors_head hsound.head fun f hf => hfenced f (by simp [Segment.nodes, Run.nodes, hf])
    have hmark : Mirrors run.mark.toList [] := .of_balanced (fence_of_mem_mark hsound hfenced) .nil
    obtain ⟨t, ht, hbefore⟩ := argument_closing hsegment hmember h hlatex hargument inner
    refine ⟨run.head.latex .default ++ t, ?_, ?_⟩
    · rw [Segment.latex_run, hprime, ht, withPrime?, List.append_assoc]
      rfl
    · have hall := (hhead.append hmark).append hbefore
      rwa [List.append_nil] at hall

/-- what a row that ends in a closing parenthesis comes to ends in one, and what comes before mirrors the other siblings -/
theorem rowLatex_closing (row others : List Formula) (hfenced : ∀ f ∈ row, f.AllFenced) (h : closing.isFence ')' = true)
    (hrow : row = others ++ [closing]) : ∃ t, rowLatex .default row = t ++ [')'] ∧ Mirrors others t := by
  have hnodes := nodes_segments .default row
  rcases List.eq_nil_or_concat (segments .default row) with hnone | ⟨init, last, hlist⟩
  · rw [hnone, hrow] at hnodes
    simp at hnodes
  rw [List.concat_eq_append] at hlist
  have hlast : last ∈ segments .default row := by
    rw [hlist]
    exact List.mem_append_right init (List.mem_singleton_self last)
  rcases List.eq_nil_or_concat last.nodes with hempty | ⟨before, g, hg⟩
  · exact absurd hempty (segment_nodes_ne_nil last)
  rw [List.concat_eq_append] at hg
  rw [hlist, List.flatMap_append, List.flatMap_singleton, hg, ← List.append_assoc, hrow] at hnodes
  obtain ⟨hothers, hclosing⟩ := List.append_inj' hnodes rfl
  rw [List.singleton_inj.1 hclosing] at hg
  obtain ⟨t, ht, hmirrors⟩ := segment_closing hlast (fun f hf => hfenced f (Segment.nodes_subset hlast hf)) h hg
    fun inner before hsize hinner hend => rowLatex_closing inner before hinner h hend
  have hinit : Mirrors (init.flatMap Segment.nodes) (init.flatMap (Segment.latex .default)) := by
    refine .flatMap fun segment hsegment => mirrors_segment (by rw [hlist]; exact List.mem_append_left _ hsegment) hfenced ?_
    exact fun inner _ hinner => mirrors_rowLatex inner hinner
  refine ⟨init.flatMap (Segment.latex .default) ++ t, ?_, ?_⟩
  · rw [rowLatex_eq, hlist, List.flatMap_append, List.flatMap_singleton, ht, List.append_assoc]
  · rw [← hothers]
    exact hinit.append hmirrors
termination_by sizes row

/-! ## Rows with parentheses of their own -/

/-- a row with parentheses of its own is written in parentheses, and what it comes to between them mirrors what stands between -/
theorem latex_of_isParenthesized (hf : f.AllFenced) (h : f.isParenthesized = true) :
    ∃ t, f.latex .default = parenthesized t ∧ Mirrors f.innerParts t := by
  obtain ⟨opening, closing, hopening, hclosing, hparts⟩ := parts_of_isParenthesized h
  have hmember : ∀ p ∈ f.parts, p.AllFenced := fun p hp g hg => hf g (nodes_subset_of_isParenthesized h hp hg)
  have hfirst : opening.AllFenced := hmember opening (by simp [hparts])
  have hrow : ∃ t, rowLatex .default f.parts = parenthesized t ∧ Mirrors f.innerParts t := by
    obtain ⟨t, ht, hmirrors⟩ := rowLatex_closing (f.innerParts ++ [closing]) f.innerParts
      (fun p hp => hmember p (by rw [hparts]; exact List.mem_cons_of_mem opening hp)) hclosing rfl
    refine ⟨t, ?_, hmirrors⟩
    rw [hparts, rowLatex_opening hfirst hopening, ht]
    rfl
  rcases kind_of_isParenthesized h with hk | hk
  · rw [latex_row hk, sidesLatex]
    split
    · rename_i left right hsides
      obtain ⟨equals, left', right', hequals, rfl, rfl, hinner⟩ := sides_of_isParenthesized hopening hclosing hparts hsides
      have hinside : ∀ p ∈ f.innerParts, p.AllFenced := fun p hp => hmember p (f.innerParts_subset hp)
      obtain ⟨t, ht, hright⟩ := rowLatex_closing (right' ++ [closing]) right'
        (fun p hp => hmember p ((sides_subset hsides).2 hp)) hclosing rfl
      have hleft := mirrors_rowLatex left' fun p hp => hinside p (by rw [hinner]; exact List.mem_append_left _ hp)
      have hmiddle : Mirrors [equals] ['='] :=
        .of_balanced (fun p hp => List.mem_singleton.1 hp ▸ fence_of_key (kind_of_isFence hequals).2 (by decide)) (by decide)
      refine ⟨rowLatex .default left' ++ '=' :: t, ?_, ?_⟩
      · rw [rowLatex_opening hfirst hopening, ht, parenthesized]
        simp
      · rw [hinner]
        exact hleft.append (hmiddle.append hright)
    · exact hrow
  · rw [latex_plain (by rw [hk]; rfl)]
    exact hrow

/-- what stands between the parentheses of a group is balanced, and the other way round, if it mirrors siblings that are -/
theorem isGroup_of_mirrors {t : Latex} (h : Mirrors row t) :
    (Balanced '(' ')' (row.flatMap fence) → IsGroup (parenthesized t)) ∧
      ((∀ f ∈ row, f.isBar = false) → IsGroup (parenthesized t) → Balanced '(' ')' (row.flatMap fence)) := by
  rw [isGroup_parenthesized_iff]
  exact ⟨.of_refines h.refines, fun hbars => .of_refines (h.refined hbars)⟩

end Formula

/-- what a superscript sets behind its base -/
def scriptLatex (exponent : Latex) : Latex :=
  if primeGlyphs.contains (trim exponent) then ['\x27'] else if exponent = ['2'] then ['^', '2'] else braced "^" exponent

theorem superscripted_parenthesized (s exponent : Latex) :
    superscripted (parenthesized s) exponent = parenthesized s ++ scriptLatex exponent := by
  have hclosed : trimEnd (parenthesized s) = parenthesized s := trimEnd_append_parenthesized [] s
  rw [superscripted, scriptLatex, Layout.primed, hclosed, exponentiated]
  split
  · rfl
  · split <;> rfl

/-- **parentheses that a row has of its own enclose all of it if those between them are balanced by themselves, and if there are no
bars between them, only then**: of the text before the exponent where the row is the base of a superscript, and of the text of the
argument where a function takes the row along -/
theorem reused_parens_enclose_iff {shape : Shape} {place : Located} {f : Formula} (hread : f = .read shape .default place)
    (h : ∀ g ∈ f.nodes, g.Fenced) (hparens : f.isParenthesized = true) :
    (∀ g exponent : Formula, g.kind = .superscript → g.parts = [f, exponent] →
      g.latex .default = f.baseLatex .default ++ scriptLatex (exponent.latex .default)) ∧
    (∀ rest, takeArgument (f :: rest) = (.enclosed f, rest)) ∧
    (∀ (head : Head) (mark prime : Option Formula), (Segment.run ⟨head, mark, .enclosed f, prime⟩).latex .default =
      head.latex .default ++ f.latex .default ++ if prime.isSome then ['\x27'] else []) ∧
    (Balanced '(' ')' (f.innerParts.flatMap Formula.fence) →
      IsGroup (f.baseLatex .default) ∧ IsGroup (f.latex .default)) ∧
    ((∀ part ∈ f.innerParts, part.isBar = false) → IsGroup (f.baseLatex .default) ∨ IsGroup (f.latex .default) →
      Balanced '(' ')' (f.innerParts.flatMap Formula.fence)) := by
  have hfenced : f.AllFenced := by
    rw [hread] at h ⊢
    exact allFenced_read h
  obtain ⟨t, ht, htext⟩ := Formula.latex_of_isParenthesized hfenced hparens
  have hbase : f.baseLatex .default = parenthesized (rowLatex .default f.innerParts) := if_pos hparens
  have hinner := Formula.mirrors_rowLatex f.innerParts fun part hpart g hg =>
    hfenced g (Formula.nodes_subset_of_isParenthesized hparens (f.innerParts_subset hpart) hg)
  obtain ⟨hbaseGroup, hbaseBalanced⟩ := Formula.isGroup_of_mirrors hinner
  obtain ⟨htextGroup, htextBalanced⟩ := Formula.isGroup_of_mirrors htext
  refine ⟨?_, ?_, ?_, ?_, ?_⟩
  · intro g exponent hkind hparts
    rw [latex_superscript hkind hparts, hbase, superscripted_parenthesized]
  · intro rest
    have hoperator : f.kind ≠ .operator := by
      rcases Formula.kind_of_isParenthesized hparens with hk | hk <;> rw [hk] <;> decide
    simp [takeArgument, Formula.isBar, Formula.isFence, hoperator, hparens]
  · intro head mark prime
    rw [Segment.latex_run, Argument.latex, ht]
    exact withPrime?_parenthesized prime _ t
  · intro hbalanced
    rw [hbase, ht]
    exact ⟨hbaseGroup hbalanced, htextGroup hbalanced⟩
  · rw [hbase, ht]
    rintro hbars (hgroup | hgroup)
    · exact hbaseBalanced hbars hgroup
    · exact htextBalanced hbars hgroup

/-- a row of plain MathML with these leaves in it -/
def leafRow (leaves : List (String × String)) : Node :=
  .element "mrow" [] (leaves.map fun leaf => .element leaf.1 [] [.text .plain leaf.2])

/-- a square of plain MathML -/
def square (base : Node) : Node :=
  .element "msup" [] [base, .element "mn" [] [.text .plain "2"]]

/-- a factor in parentheses with another one in it -/
def nestedFactors : Node :=
  leafRow [("mo", "("), ("mi", "a"), ("mo", "("), ("mi", "b"), ("mo", ")"), ("mo", ")")]

theorem reused_parens_enclose_iff_of_nestedFactors :
    (∀ g ∈ (Formula.read .mathml .default (.top nestedFactors)).nodes, g.Fenced) ∧
      (Formula.read .mathml .default (.top nestedFactors)).isParenthesized = true ∧
      (Formula.read .mathml .default (.top (square nestedFactors))).latex .default = "(a(b))^2".toList ∧
      IsGroup ((Formula.read .mathml .default (.top nestedFactors)).baseLatex .default) ∧
      IsGroup ((Formula.read .mathml .default (.top nestedFactors)).latex .default) := by
  have h : ∀ g ∈ (Formula.read .mathml .default (.top nestedFactors)).nodes, g.Fenced := by decide +kernel
  have hparens : (Formula.read .mathml .default (.top nestedFactors)).isParenthesized = true := by decide +kernel
  have hbalanced : Balanced '(' ')'
      ((Formula.read .mathml .default (.top nestedFactors)).innerParts.flatMap Formula.fence) := by decide +kernel
  exact ⟨h, hparens, by decide +kernel, (reused_parens_enclose_iff rfl h hparens).2.2.2.1 hbalanced⟩

/-- two factors side by side, each in parentheses -/
def adjacentFactors : Node :=
  leafRow [("mo", "("), ("mi", "a"), ("mo", ")"), ("mo", "("), ("mi", "b"), ("mo", ")")]

/-- the exponent of two factors side by side is set behind the second one only -/
theorem adjacent_factors_no_group :
    (∀ g ∈ (Formula.read .mathml .default (.top (square adjacentFactors))).nodes, g.Fenced) ∧
      (Formula.read .mathml .default (.top adjacentFactors)).isParenthesized = true ∧
      (Formula.read .mathml .default (.top (square adjacentFactors))).latex .default = "(a)(b)^2".toList ∧
      (Formula.read .mathml .default (.top adjacentFactors)).baseLatex .default = "(a)(b)".toList ∧
      ¬ IsGroup ((Formula.read .mathml .default (.top adjacentFactors)).baseLatex .default) := by
  have hbase : (Formula.read .mathml .default (.top adjacentFactors)).baseLatex .default = parenthesized "a)(b".toList := by
    decide +kernel
  refine ⟨by decide +kernel, by decide +kernel, by decide +kernel, by decide +kernel, ?_⟩
  rw [hbase, isGroup_parenthesized_iff]
  decide +kernel

end Untypeset
