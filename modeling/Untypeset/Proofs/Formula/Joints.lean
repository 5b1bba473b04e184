import Untypeset.Proofs.Formula.Unmarked

/-!
Rows that go on. An identifier looks ahead into the siblings behind it, so what it takes along from the start of a row depends on
how the row goes on, but only in few ways (`takeRun_continued`): all that it takes lies within the first part, and more of the
first part is left; or it takes the last sibling of the first part, and a prime may follow; or a parenthesis or a bar is left
open, which the second part closes or does not close. A name spelled by letters ends where the two parts are severed.
-/

namespace Untypeset

open Untypeset.Symbol

variable {symbols : SymbolTable} {row others group after : List Formula}

/-! ## Groups -/

theorem takeGroup?_append_of_some {depth : Nat} (h : takeGroup? depth row = some (group, after)) (others : List Formula) :
    takeGroup? depth (row ++ others) = some (group, after ++ others) := by
  fun_induction takeGroup? depth row generalizing group after with
  | case1 => cases h
  | case2 depth f rest hopening ih =>
    obtain ⟨⟨taken, left⟩, htaken, heq⟩ := Option.map_eq_some_iff.1 h
    cases heq
    rw [List.cons_append, takeGroup?, if_pos hopening, ih htaken]
    rfl
  | case3 depth f rest hopening hclosing hdepth =>
    cases h
    rw [List.cons_append, takeGroup?, if_neg hopening, if_pos hclosing, if_pos hdepth]
  | case4 depth f rest hopening hclosing hdepth ih =>
    obtain ⟨⟨taken, left⟩, htaken, heq⟩ := Option.map_eq_some_iff.1 h
    cases heq
    rw [List.cons_append, takeGroup?, if_neg hopening, if_pos hclosing, if_neg hdepth, ih htaken]
    rfl
  | case5 depth f rest hopening hclosing ih =>
    obtain ⟨⟨taken, left⟩, htaken, heq⟩ := Option.map_eq_some_iff.1 h
    cases heq
    rw [List.cons_append, takeGroup?, if_neg hopening, if_neg hclosing, ih htaken]
    rfl

/-- how many parentheses are open behind a row that starts with `depth` open ones and closes not all of them -/
def depthAfter (depth : Nat) : List Formula → Nat
  | [] => depth
  | f :: rest =>
    if f.isFence '(' then depthAfter (depth + 1) rest
    else if f.isFence ')' then depthAfter (depth - 1) rest
    else depthAfter depth rest

/-- a group that a row leaves open is closed behind it, if at all -/
theorem takeGroup?_append_of_none {depth : Nat} (h : takeGroup? depth row = none) (others : List Formula) :
    takeGroup? depth (row ++ others) =
      (takeGroup? (depthAfter depth row) others).map fun (group, after) => (row ++ group, after) := by
  fun_induction takeGroup? depth row with
  | case1 => simp [depthAfter]
  | case2 depth f rest hopening ih =>
    rw [List.cons_append, takeGroup?, if_pos hopening, ih (Option.map_eq_none_iff.1 h), depthAfter, if_pos hopening,
      Option.map_map]
    rfl
  | case3 => cases h
  | case4 depth f rest hopening hclosing hdepth ih =>
    rw [List.cons_append, takeGroup?, if_neg hopening, if_pos hclosing, if_neg hdepth, ih (Option.map_eq_none_iff.1 h),
      depthAfter, if_neg hopening, if_pos hclosing, Option.map_map]
    rfl
  | case5 depth f rest hopening hclosing ih =>
    rw [List.cons_append, takeGroup?, if_neg hopening, if_neg hclosing, ih (Option.map_eq_none_iff.1 h), depthAfter,
      if_neg hopening, if_neg hclosing, Option.map_map]
    rfl

theorem last_of_takeGroup? {depth : Nat} (h : takeGroup? depth row = some (group, after)) :
    ∃ inner closing, closing.isFence ')' = true ∧ group = inner ++ [closing] := by
  fun_induction takeGroup? depth row generalizing group after with
  | case1 => cases h
  | case3 depth f rest _ hclosing _ =>
    cases h
    exact ⟨[], f, hclosing, rfl⟩
  | case2 depth f rest _ ih | case4 depth f rest _ _ _ ih | case5 depth f rest _ _ ih =>
    obtain ⟨⟨taken, left⟩, htaken, heq⟩ := Option.map_eq_some_iff.1 h
    obtain ⟨inner, closing, hclosing, rfl⟩ := ih htaken
    cases heq
    exact ⟨f :: inner, closing, hclosing, rfl⟩

/-! ## Bars -/

theorem takeToBar?_append_of_some (h : takeToBar? row = some (group, after)) (others : List Formula) :
    takeToBar? (row ++ others) = some (group, after ++ others) := by
  fun_induction takeToBar? row generalizing group after with
  | case1 => cases h
  | case2 f rest hbar =>
    cases h
    rw [List.cons_append, takeToBar?, if_pos hbar]
  | case3 f rest hbar ih =>
    obtain ⟨⟨taken, left⟩, htaken, heq⟩ := Option.map_eq_some_iff.1 h
    cases heq
    rw [List.cons_append, takeToBar?, if_neg hbar, ih htaken]
    rfl

theorem takeToBar?_append_of_none (h : takeToBar? row = none) (others : List Formula) :
    takeToBar? (row ++ others) = (takeToBar? others).map fun (group, after) => (row ++ group, after) := by
  fun_induction takeToBar? row with
  | case1 => simp
  | case2 => cases h
  | case3 f rest hbar ih =>
    rw [List.cons_append, takeToBar?, if_neg hbar, ih (Option.map_eq_none_iff.1 h), Option.map_map]
    rfl

theorem last_of_takeToBar? {group after : List Formula} (h : takeToBar? row = some (group, after)) :
    ∃ inner bar, bar.isBar = true ∧ group = inner ++ [bar] := by
  fun_induction takeToBar? row generalizing group after with
  | case1 => cases h
  | case2 f rest hbar =>
    cases h
    exact ⟨[], f, hbar, rfl⟩
  | case3 f rest _ ih =>
    obtain ⟨⟨taken, left⟩, htaken, heq⟩ := Option.map_eq_some_iff.1 h
    obtain ⟨inner, bar, hbar, rfl⟩ := ih htaken
    cases heq
    exact ⟨f :: inner, bar, hbar, rfl⟩

/-! ## Arguments -/

/-- an argument that is opened in one row and closed in the next one, if at all -/
def closeArgument (wrap : List Formula → Argument) (opened others : List Formula) :
    Option (List Formula × List Formula) → Argument × List Formula
  | some (inner, after) => (wrap (opened ++ inner), after)
  | none => (.absent, opened ++ others)

/-- the argument at the start of a row lies within it, or is left open by a parenthesis or by a bar -/
theorem takeArgument_continued (g : Formula) (rest : List Formula) :
    (∃ argument after, ∀ others, takeArgument (g :: rest ++ others) = (argument, after ++ others)) ∨
    (g.isFence '(' = true ∧ ∃ depth, ∀ others, takeArgument (g :: rest ++ others) =
      closeArgument .group (g :: rest) others (takeGroup? depth others)) ∨
    (g.isBar = true ∧ ∀ others, takeArgument (g :: rest ++ others) =
      closeArgument .barred (g :: rest) others (takeToBar? others)) := by
  by_cases hopening : g.isFence '(' = true
  · cases htaken : takeGroup? 0 (g :: rest) with
    | some taken =>
      refine .inl ⟨.group taken.1, taken.2, fun others => ?_⟩
      have hsame := takeGroup?_append_of_some htaken others
      rw [List.cons_append] at hsame ⊢
      rw [takeArgument, if_pos hopening, hsame]
    | none =>
      refine .inr (.inl ⟨hopening, depthAfter 0 (g :: rest), fun others => ?_⟩)
      have hlater := takeGroup?_append_of_none htaken others
      rw [List.cons_append] at hlater
      rw [List.cons_append, takeArgument, if_pos hopening, hlater]
      cases takeGroup? (depthAfter 0 (g :: rest)) others <;> rfl
  · by_cases hbar : g.isBar = true
    · cases htaken : takeToBar? rest with
      | some taken =>
        refine .inl ⟨.barred (g :: taken.1), taken.2, fun others => ?_⟩
        rw [List.cons_append, takeArgument, if_neg hopening, if_pos hbar, takeToBar?_append_of_some htaken]
      | none =>
        refine .inr (.inr ⟨hbar, fun others => ?_⟩)
        rw [List.cons_append, takeArgument, if_neg hopening, if_pos hbar, takeToBar?_append_of_none htaken]
        cases takeToBar? others <;> rfl
    · by_cases henclosed : g.isParenthesized = true
      · refine .inl ⟨.enclosed g, rest, fun others => ?_⟩
        rw [List.cons_append, takeArgument, if_neg hopening, if_neg hbar, if_pos henclosed]
      · refine .inl ⟨.plain g, rest, fun others => ?_⟩
        rw [List.cons_append, takeArgument, if_neg hopening, if_neg hbar, if_neg henclosed]

/-- whether a row does not end in an application mark, which would apply to what follows -/
def Complete (row : List Formula) : Prop :=
  ∀ x ∈ row.getLast?, x.isApplication = false

theorem getLast?_of_suffix (hsuffix : after <:+ row) {x : Formula} (hx : x ∈ after.getLast?) : x ∈ row.getLast? := by
  obtain ⟨before, rfl⟩ := hsuffix
  exact List.mem_getLast?_append_of_mem_getLast? hx

theorem Complete.of_suffix (h : Complete row) (hsuffix : after <:+ row) : Complete after :=
  fun x hx => h x (getLast?_of_suffix hsuffix hx)

/-- what an identifier applies to at the start of a row that goes on -/
inductive Continued (f : Formula) (row : List Formula) : Prop
  | within (mark : Option Formula) (argument : Argument) (after : List Formula)
    (taken : ∀ others, takeApplied f (row ++ others) = (mark, argument, after ++ others))
  | group (mark : Option Formula) (opening : Formula) (rest : List Formula) (depth : Nat) (opens : opening.isFence '(' = true)
    (taken : ∀ others, takeApplied f (row ++ others) =
      (mark, closeArgument .group (opening :: rest) others (takeGroup? depth others)))
  | barred (mark : Option Formula) (bar : Formula) (rest : List Formula) (opens : bar.isBar = true)
    (taken : ∀ others, takeApplied f (row ++ others) =
      (mark, closeArgument .barred (bar :: rest) others (takeToBar? others)))

/-- an application mark at the end of a row would apply to what follows; any other row is continued in one of the three ways -/
theorem takeApplied_continued (f : Formula) (hrow : row ≠ []) (h : Complete row) : Continued f row := by
  obtain ⟨next, rest, rfl⟩ := List.exists_cons_of_ne_nil hrow
  by_cases happlies : next.isApplication = true
  · obtain ⟨g, rest', rfl⟩ : ∃ g rest', rest = g :: rest' := by
      cases rest with
      | nil =>
        rw [h next rfl] at happlies
        cases happlies
      | cons g rest' => exact ⟨g, rest', rfl⟩
    have htaken (others : List Formula) :
        takeApplied f (next :: g :: rest' ++ others) = (some next, takeArgument (g :: rest' ++ others)) := by
      rw [List.cons_append, takeApplied, if_pos happlies]
    rcases takeArgument_continued g rest' with ⟨argument, after, h⟩ | ⟨hopening, depth, h⟩ | ⟨hbar, h⟩
    · exact .within (some next) argument after fun others => by rw [htaken, h]
    · exact .group (some next) g rest' depth hopening fun others => by rw [htaken, h]
    · exact .barred (some next) g rest' hbar fun others => by rw [htaken, h]
  · by_cases htakes : (f.takesArgument && next.canBeArgument) = true
    · have htaken (others : List Formula) :
          takeApplied f (next :: rest ++ others) = (none, takeArgument (next :: rest ++ others)) := by
        rw [List.cons_append, takeApplied, if_neg happlies, if_pos htakes]
      rcases takeArgument_continued next rest with ⟨argument, after, h⟩ | ⟨hopening, depth, h⟩ | ⟨hbar, h⟩
      · exact .within none argument after fun others => by rw [htaken, h]
      · exact .group none next rest depth hopening fun others => by rw [htaken, h]
      · exact .barred none next rest hbar fun others => by rw [htaken, h]
    · refine .within none .absent (next :: rest) fun others => ?_
      rw [List.cons_append, takeApplied, if_neg happlies, if_neg htakes]

/-! ## Heads -/

/-- whether no name spelled by letters goes on from one row into the other -/
def Severed (row others : List Formula) : Prop :=
  (∃ x ∈ row, x.letter? = none) ∨ ∀ x ∈ others.head?, x.letter? = none

theorem longestName_append (h : Severed row others) (name : Latex) (count : Nat) (best : Option (Latex × Nat)) :
    longestName symbols name count best (row ++ others) = longestName symbols name count best row := by
  induction row generalizing name count best with
  | nil =>
    cases others with
    | nil => rfl
    | cons x rest =>
      refine longestName_of_none (h.resolve_left ?_ x rfl) name count best rest
      rintro ⟨y, hy, -⟩
      cases hy
  | cons x row ih =>
    rw [List.cons_append, longestName, longestName]
    cases hx : x.letter? with
    | none => rfl
    | some c =>
      have hrest : Severed row others := by
        refine h.imp_left ?_
        rintro ⟨y, hy, hnone⟩
        rcases List.mem_cons.1 hy with rfl | hy
        · rw [hx] at hnone
          cases hnone
        · exact ⟨y, hy, hnone⟩
      simp only [ih hrest]

theorem longestName_le {name : Latex} {count : Nat} {best : Option (Latex × Nat)} {found : Latex} {n : Nat}
    (hbest : ∀ b ∈ best, b.2 ≤ count) (h : longestName symbols name count best row = some (found, n)) :
    n ≤ count + row.length := by
  induction row generalizing name count best with
  | nil =>
    rw [longestName] at h
    exact hbest _ h
  | cons x row ih =>
    rw [longestName] at h
    split at h
    · have := hbest _ h
      rw [List.length_cons]
      omega
    · split at h
      · have hle := ih (by
          intro b hb
          split at hb
          · cases hb
            exact Nat.le_refl _
          · exact Nat.le_succ_of_le (hbest b hb)) h
        rw [List.length_cons]
        omega
      · have := hbest _ h
        rw [List.length_cons]
        omega

theorem takeHead_append (h : Severed row others) (f : Formula) :
    takeHead symbols f (row ++ others) = ((takeHead symbols f row).1, (takeHead symbols f row).2 ++ others) := by
  have hname : spelledName? symbols f (row ++ others) = spelledName? symbols f row := by
    simp only [spelledName?, longestName_append h]
  rw [takeHead, takeHead, hname]
  split
  · rename_i name count hspelled
    have hle : count - 1 ≤ row.length := by
      unfold spelledName? at hspelled
      split at hspelled
      · split at hspelled
        · have := longestName_le (by simp) hspelled
          omega
        · cases hspelled
      · cases hspelled
    rw [List.take_append_of_le_length hle, List.drop_append_of_le_length hle]
  · rfl

/-! ## Runs -/

theorem takePrime_append (h : row ≠ []) (others : List Formula) :
    takePrime (row ++ others) = ((takePrime row).1, (takePrime row).2 ++ others) := by
  obtain ⟨x, rest, rfl⟩ := List.exists_cons_of_ne_nil h
  rw [List.cons_append, takePrime, takePrime]
  split <;> rfl

/-- a run with the argument that was taken, and with the prime behind it if there is one -/
def endRun (head : Head) (mark : Option Formula) (taken : Argument × List Formula) : Run × List Formula :=
  (⟨head, mark, taken.1, (takePrime taken.2).1⟩, (takePrime taken.2).2)

theorem takeRun_eq (f : Formula) (rest : List Formula) :
    takeRun symbols f rest =
      endRun (takeHead symbols f rest).1 (takeApplied f (takeHead symbols f rest).2).1
        (takeApplied f (takeHead symbols f rest).2).2 :=
  rfl

theorem suffix_of_takeRun {f : Formula} {rest : List Formula} {run : Run} (h : takeRun symbols f rest = (run, after)) :
    after <:+ f :: rest ∧ after.length < (f :: rest).length := by
  have hnodes := nodes_takeRun symbols f rest
  have hlength := length_takeRun symbols f rest
  rw [h] at hnodes hlength
  exact ⟨⟨_, hnodes⟩, hlength⟩

/-- the run that starts with an identifier before a row, and before the row that goes on -/
inductive RunContinued (symbols : SymbolTable) (f : Formula) (row : List Formula) : Prop
  /-- the row is the rest of a name spelled by letters -/
  | bare (head : Head) (nodes : head.nodes = f :: row) (alone : takeRun symbols f row = endRun head none (.absent, []))
    (taken : ∀ others, Severed row others → takeRun symbols f (row ++ others) =
      endRun head (takeApplied f others).1 (takeApplied f others).2)
  /-- the run ends within the row, and takes no more whatever follows -/
  | within (run : Run) (after : List Formula) (alone : takeRun symbols f row = (run, after))
    (taken : ∀ others, Severed row others → takeRun symbols f (row ++ others) = (run, after ++ others))
  /-- the run takes all of the row -/
  | through (head : Head) (mark : Option Formula) (argument : Argument)
    (alone : takeRun symbols f row = endRun head mark (argument, []))
    (taken : ∀ others, Severed row others → takeRun symbols f (row ++ others) = endRun head mark (argument, others))
  /-- the row leaves a parenthesis of the argument open -/
  | group (head : Head) (mark : Option Formula) (opening : Formula) (rest : List Formula) (depth : Nat)
    (opens : opening.isFence '(' = true) (nodes : head.nodes ++ mark.toList ++ opening :: rest = f :: row)
    (alone : takeRun symbols f row = endRun head mark (.absent, opening :: rest))
    (taken : ∀ others, Severed row others → takeRun symbols f (row ++ others) =
      endRun head mark (closeArgument .group (opening :: rest) others (takeGroup? depth others)))
  /-- the row leaves a bar of the argument open -/
  | barred (head : Head) (mark : Option Formula) (bar : Formula) (rest : List Formula) (opens : bar.isBar = true)
    (nodes : head.nodes ++ mark.toList ++ bar :: rest = f :: row)
    (alone : takeRun symbols f row = endRun head mark (.absent, bar :: rest))
    (taken : ∀ others, Severed row others → takeRun symbols f (row ++ others) =
      endRun head mark (closeArgument .barred (bar :: rest) others (takeToBar? others)))

/-- **a run before a row that goes on**, where the row does not end in an application mark -/
theorem takeRun_continued (symbols : SymbolTable) (f : Formula) (h : Complete row) : RunContinued symbols f row := by
  have hhead := nodes_takeHead symbols f row
  have hsuffix : (takeHead symbols f row).2 <:+ row := by
    unfold takeHead
    split
    · exact List.drop_suffix _ _
    · exact List.suffix_refl _
  have halone : takeRun symbols f row = endRun (takeHead symbols f row).1 (takeApplied f (takeHead symbols f row).2).1
      (takeApplied f (takeHead symbols f row).2).2 := takeRun_eq f row
  have htaken (others : List Formula) (hothers : Severed row others) :
      takeRun symbols f (row ++ others) =
        endRun (takeHead symbols f row).1 (takeApplied f ((takeHead symbols f row).2 ++ others)).1
          (takeApplied f ((takeHead symbols f row).2 ++ others)).2 := by
    rw [takeRun_eq, takeHead_append hothers]
  generalize (takeHead symbols f row).1 = head at hhead halone htaken
  generalize (takeHead symbols f row).2 = afterHead at hhead hsuffix halone htaken
  by_cases hend : afterHead = []
  · subst hend
    rw [List.append_nil] at hhead
    exact .bare head hhead halone htaken
  · have hnodes := nodes_takeApplied f afterHead
    cases takeApplied_continued f hend (h.of_suffix hsuffix) with
    | within mark argument after happlied =>
      have hself := happlied []
      rw [List.append_nil, List.append_nil] at hself
      rw [hself] at halone
      by_cases hafter : after = []
      · subst hafter
        refine .through head mark argument halone fun others hothers => ?_
        rw [htaken others hothers, happlied, List.nil_append]
      · refine .within ⟨head, mark, argument, (takePrime after).1⟩ (takePrime after).2 halone fun others hothers => ?_
        rw [htaken others hothers, happlied, endRun]
        dsimp only
        rw [takePrime_append hafter]
    | group mark opening rest depth opens happlied =>
      have hself := happlied []
      rw [List.append_nil, takeGroup?, closeArgument, List.append_nil] at hself
      rw [hself] at halone hnodes
      rw [Argument.nodes, List.append_nil] at hnodes
      refine .group head mark opening rest depth opens ?_ halone fun others hothers => ?_
      · rw [List.append_assoc, hnodes, hhead]
      · rw [htaken others hothers, happlied]
    | barred mark bar rest opens happlied =>
      have hself := happlied []
      rw [List.append_nil, takeToBar?, closeArgument, List.append_nil] at hself
      rw [hself] at halone hnodes
      rw [Argument.nodes, List.append_nil] at hnodes
      refine .barred head mark bar rest opens ?_ halone fun others hothers => ?_
      · rw [List.append_assoc, hnodes, hhead]
      · rw [htaken others hothers, happlied]

/-! ## Ends of arguments -/

/-- what an argument ends in -/
def Argument.Closed : Argument → Prop
  | .absent | .plain _ => True
  | .group row => ∃ inner closing, closing.isFence ')' = true ∧ row = inner ++ [closing]
  | .barred row => ∃ inner bar, bar.isBar = true ∧ row = inner ++ [bar]
  | .enclosed f => f.isParenthesized = true

theorem takeArgument_closed (row : List Formula) : (takeArgument row).1.Closed := by
  cases row with
  | nil => trivial
  | cons f rest =>
    rw [takeArgument]
    split
    · split
      · rename_i htaken
        exact last_of_takeGroup? htaken
      · trivial
    · split
      · split
        · rename_i group after htaken
          obtain ⟨inner, bar, hbar, rfl⟩ := last_of_takeToBar? htaken
          exact ⟨f :: inner, bar, hbar, rfl⟩
        · trivial
      · split
        · rename_i henclosed
          exact henclosed
        · trivial

theorem takeRun_closed (symbols : SymbolTable) (f : Formula) (rest : List Formula) :
    (takeRun symbols f rest).1.argument.Closed := by
  have happlied (row : List Formula) : (takeApplied f row).2.1.Closed := by
    cases row with
    | nil => trivial
    | cons next rest =>
      rw [takeApplied]
      split
      · exact takeArgument_closed rest
      · split
        · exact takeArgument_closed (next :: rest)
        · trivial
  exact happlied (takeHead symbols f rest).2

end Untypeset
