import Untypeset.Proofs.Formula.Closings

/-!
Invisible operators. An operator that shows nothing and is neither a parenthesis nor a bar nor a prime to its neighbours might as
well not be there (`cutLatex_unseen`): what an identifier before it takes along ends before the operator, or includes it in a group
or between bars, where it is invisible again. It may not follow an identifier or an application mark, which would take it for what
they apply to or cease to look further; and it may not keep a prime from a closing parenthesis that belongs to no argument
(`invisible_operators_elided`, `invisible_operator_before_prime`).
-/

namespace Untypeset

open Untypeset.Latex Untypeset.Markup Untypeset.Rendering Untypeset.Symbol Untypeset.Text

variable {f inv x : Formula} {row others group after : List Formula}

/-- a place in a row at which an operator that shows nothing cannot be told from nothing -/
structure Gap (row others : List Formula) : Prop where
  overt : ∀ f ∈ row ++ others, f.Overt
  other : ∀ x ∈ row.getLast?, x.kind ≠ .identifier
  unapplied : ∀ x ∈ row.getLast?, x.isApplication = false
  enclosed : ∀ x ∈ row.getLast?, x.isParenthesized = true → ∀ z ∈ others.head?, z.isPrime = true → Tight (x.latex .default)

namespace Gap

theorem of_suffix (h : Gap row others) (hsuffix : after <:+ row) : Gap after others where
  overt := by
    obtain ⟨before, rfl⟩ := hsuffix
    exact fun f hf => h.overt f (by rw [List.append_assoc]; exact List.mem_append_right before hf)
  other x hx := h.other x (getLast?_of_suffix hsuffix hx)
  unapplied x hx := h.unapplied x (getLast?_of_suffix hsuffix hx)
  enclosed x hx := h.enclosed x (getLast?_of_suffix hsuffix hx)

theorem of_prefix (h : Gap row (group ++ after)) : Gap row group where
  overt f hf := h.overt f (by rw [← List.append_assoc]; exact List.mem_append_left after hf)
  other := h.other
  unapplied := h.unapplied
  enclosed x hx henclosed z hz := h.enclosed x hx henclosed z (List.mem_head?_append_of_mem_head? hz)

end Gap

/-- a parenthesis or a bar that is opened before the operator is closed behind it, if at all, whether it stands there or not -/
theorem runLatex_unseen {wrap : List Formula → Argument} {opening : Formula} {inner : List Formula} {paired : Bool}
    {taken : Option (List Formula × List Formula)} (head : Head) (mark : Option Formula)
    (hwrap : ∀ a b, rowLatex .default a = rowLatex .default b → (wrap a).latex .default = (wrap b).latex .default)
    (hopening : opening.isPrime = false)
    (hopen : cutLatex .default paired (opening :: inner ++ inv :: others) = cutLatex .default paired (opening :: inner ++ others))
    (hclosed : ∀ group after, taken = some (group, after) →
      rowLatex .default (opening :: inner ++ inv :: group) = rowLatex .default (opening :: inner ++ group)) :
    runLatex .default paired (endRun head mark (closeArgument wrap (opening :: inner) (inv :: others)
        (taken.map fun (group, after) => (inv :: group, after)))) =
      runLatex .default paired (endRun head mark (closeArgument wrap (opening :: inner) others taken)) := by
  cases taken with
  | none =>
    rw [Option.map_none, closeArgument, closeArgument, endRun, endRun, List.cons_append, List.cons_append]
    dsimp only
    rw [takePrime_of_not hopening, takePrime_of_not hopening, runLatex, runLatex]
    exact congrArg _ hopen
  | some taken =>
    have hsame := hwrap _ _ (hclosed taken.1 taken.2 rfl)
    rw [Option.map_some, closeArgument, closeArgument, endRun, endRun, runLatex, runLatex, Segment.latex_run, Segment.latex_run]
    dsimp only
    rw [hsame]

namespace Formula.IsUnseen

variable (hinv : inv.IsUnseen .default)

include hinv

theorem isBar : inv.isBar = false :=
  hinv.unfenced '|' (by decide)

theorem hasBarPair (row others : List Formula) : hasBarPair (row ++ inv :: others) = hasBarPair (row ++ others) := by
  rw [Untypeset.hasBarPair, Untypeset.hasBarPair, List.countP_append, List.countP_append,
    List.countP_cons_of_neg (by rw [hinv.isBar]; exact Bool.false_ne_true)]

theorem any_isBar (row others : List Formula) : (row ++ inv :: others).any (·.isBar) = (row ++ others).any (·.isBar) := by
  rw [List.any_append, List.any_append, List.any_cons, hinv.isBar, Bool.false_or]

theorem cutLatex_cons (paired : Bool) (others : List Formula) :
    cutLatex .default paired (inv :: others) = cutLatex .default paired others := by
  have hkind : inv.kind ≠ .identifier := by rw [hinv.operator]; decide
  rw [cutLatex_single hkind hinv.isBar, hinv.silent, List.nil_append]

end Formula.IsUnseen

/-- **an operator that shows nothing might as well not be there**: an identifier before it looks past it for the parenthesis or the
bar that closes its argument, and what it takes along from further behind does not count there -/
theorem cutLatex_unseen (hinv : inv.IsUnseen .default) (hovert : inv.Overt) : ∀ (paired : Bool) (row others : List Formula),
    Gap row others → cutLatex .default paired (row ++ inv :: others) = cutLatex .default paired (row ++ others)
  | paired, [], others, _ => hinv.cutLatex_cons paired others
  | paired, f :: rest, others, h => by
    obtain ⟨x, hx⟩ : ∃ x, x ∈ (f :: rest).getLast? := ⟨_, List.getLast?_eq_some_getLast (List.cons_ne_nil f rest)⟩
    rw [List.cons_append, List.cons_append]
    by_cases hkind : f.kind = .identifier
    · have hcomplete : Complete (f :: rest) := h.unapplied
      have hlater : ∀ g ∈ others, g.Overt := fun g hg => h.overt g (List.mem_append_right _ hg)
      have hsevered := severed_of_last hkind hx (h.other x hx)
      rw [cutLatex_identifier hkind, cutLatex_identifier hkind]
      cases takeRun_continued .default f (hcomplete.of_suffix (List.suffix_cons f rest)) with
      | bare head nodes alone taken =>
        exact absurd (kind_of_bare hkind nodes alone hx) (h.other x hx)
      | within run after alone taken =>
        obtain ⟨hsuffix, hshorter⟩ := suffix_of_takeRun alone
        rw [taken _ (hsevered _), taken _ (hsevered _), runLatex, runLatex,
          cutLatex_unseen hinv hovert paired after others (h.of_suffix hsuffix)]
      | through head mark argument alone taken =>
        have hprime : (takePrime others).1 = none ∨ Tight (argument.latex .default) := by
          cases others with
          | nil => exact .inl rfl
          | cons z others =>
            by_cases hz : z.isPrime = true
            · have hlast : x.Overt := h.overt x (List.mem_append_left _ (List.mem_of_getLast? hx))
              exact .inr (tight_of_last hkind alone hx (h.other x hx) (h.unapplied x hx) hlast
                fun henclosed => h.enclosed x hx henclosed z rfl hz)
            · exact .inl (by rw [takePrime_of_not (Bool.eq_false_iff.2 hz)])
        have hunprimed : (takePrime (inv :: others)).1 = none := by rw [takePrime_of_not hinv.unprimed]
        rw [taken _ (hsevered _), taken _ (hsevered _),
          runLatex_endRun paired mark (List.forall_mem_cons.2 ⟨hovert, hlater⟩) (.inl hunprimed),
          runLatex_endRun paired mark hlater hprime, hinv.cutLatex_cons]
      | group head mark opening inner depth opens nodes alone taken =>
        have hshorter := length_opened_lt nodes
        have hopened : Gap (opening :: inner) others := h.of_suffix ⟨_, nodes⟩
        rw [taken _ (hsevered _), taken _ (hsevered _),
          takeGroup?_cons_of_unfenced (hinv.unfenced '(' (by decide)) (hinv.unfenced ')' (by decide))]
        refine runLatex_unseen head mark (fun a b hsame => hsame) (isPrime_of_isFence opens (by decide))
          (cutLatex_unseen hinv hovert paired (opening :: inner) others hopened) fun group after hgroup => ?_
        have hsplit : group ++ after = others := takeGroup?_append hgroup
        have hlength := congrArg List.length hsplit
        rw [← hsplit] at hopened
        rw [rowLatex_eq_cutLatex, rowLatex_eq_cutLatex, hinv.hasBarPair,
          cutLatex_unseen hinv hovert _ (opening :: inner) group hopened.of_prefix]
      | barred head mark bar inner opens nodes alone taken =>
        have hshorter := length_opened_lt nodes
        have hopened : Gap (bar :: inner) others := h.of_suffix ⟨_, nodes⟩
        rw [taken _ (hsevered _), taken _ (hsevered _), takeToBar?_cons_of_unbarred hinv.isBar]
        refine runLatex_unseen head mark (fun a b hsame => ?_) (isPrime_of_isFence opens (by decide))
          (cutLatex_unseen hinv hovert paired (bar :: inner) others hopened) fun group after hgroup => ?_
        · rw [Argument.latex, Argument.latex, hsame]
        · have hsplit : group ++ after = others := takeToBar?_append hgroup
          have hlength := congrArg List.length hsplit
          rw [← hsplit] at hopened
          rw [rowLatex_eq_cutLatex, rowLatex_eq_cutLatex, hinv.hasBarPair,
            cutLatex_unseen hinv hovert _ (bar :: inner) group hopened.of_prefix]
    · rw [cutLatex_other hkind, cutLatex_other hkind, hinv.any_isBar,
        cutLatex_unseen hinv hovert paired rest others (h.of_suffix (List.suffix_cons f rest))]
termination_by _ row others => row.length + others.length
decreasing_by
  all_goals simp only [List.length_cons, List.length_append] at *; omega

/-- **Invisible operators are elided.** A row of siblings comes to the same with an invisible operator put in anywhere and without
it, where the sibling before it is no identifier and no application mark; unless a prime would follow a sibling in parentheses of
its own, the closing one of which is an application mark. -/
theorem invisible_operators_elided (shape : Shape) (before : List Located) (inv : Located) (after : List Located) (mark : Char)
    (hmark : mark ∈ invisibleOperators) (hkind : shape.kind inv.node = .operator) (hraw : Formula.rawText shape inv.node = [mark])
    (hlast : ∀ x ∈ before.getLast?, (Formula.read shape .default x).kind ≠ .identifier ∧
      (Formula.read shape .default x).isApplication = false)
    (hprime : ∀ x ∈ before.getLast?, (Formula.read shape .default x).isParenthesized = true →
      ∀ z ∈ after.head?, (Formula.read shape .default z).isPrime = true →
        ∀ closing ∈ (Formula.read shape .default x).parts.getLast?, closing.isApplication = false) :
    rowLatex .default ((before ++ inv :: after).map (Formula.read shape .default)) =
      rowLatex .default ((before ++ after).map (Formula.read shape .default)) := by
  have hunseen := isUnseen_read hmark hkind hraw
  have hgap : Gap (before.map (Formula.read shape .default)) (after.map (Formula.read shape .default)) := by
    constructor
    · rw [← List.map_append, List.forall_mem_map]
      exact fun place _ => Formula.overt_read shape place
    · intro x hx
      rw [List.getLast?_map] at hx
      obtain ⟨place, hplace, rfl⟩ := Option.map_eq_some_iff.1 hx
      exact (hlast place hplace).1
    · intro x hx
      rw [List.getLast?_map] at hx
      obtain ⟨place, hplace, rfl⟩ := Option.map_eq_some_iff.1 hx
      exact (hlast place hplace).2
    · intro x hx henclosed z hz hzprime
      rw [List.getLast?_map] at hx
      rw [List.head?_map] at hz
      obtain ⟨place, hplace, rfl⟩ := Option.map_eq_some_iff.1 hx
      obtain ⟨follower, hfollower, rfl⟩ := Option.map_eq_some_iff.1 hz
      refine Formula.tight_of_isParenthesized henclosed ?_ (hprime place hplace henclosed follower hfollower hzprime)
      rw [Formula.parts_read, List.forall_mem_map]
      exact fun part _ => Formula.overt_read shape part
  rw [List.map_append, List.map_append, List.map_cons, rowLatex_eq_cutLatex, rowLatex_eq_cutLatex, hunseen.hasBarPair,
    cutLatex_unseen hunseen (Formula.overt_read shape inv) _ _ _ hgap]

/-- a leaf of plain MathML -/
def leafAt (name text : String) : Located :=
  .top (.element name [] [.text .plain text])

theorem invisible_operators_elided_of_product :
    rowLatex .default (([leafAt "mi" "f", leafAt "mo" "\u2061", leafAt "mo" "(", leafAt "mn" "2"] ++
      leafAt "mo" "\u2062" :: [leafAt "mi" "x", leafAt "mo" ")"]).map (Formula.read .mathml .default)) = "f(2x)".toList := by
  rw [invisible_operators_elided .mathml [leafAt "mi" "f", leafAt "mo" "\u2061", leafAt "mo" "(", leafAt "mn" "2"]
    (leafAt "mo" "\u2062") [leafAt "mi" "x", leafAt "mo" ")"] '\u2062' (by decide) (by decide +kernel) (by decide +kernel)
    (by decide +kernel) (by decide +kernel)]
  decide +kernel

/-- a function of something in parentheses, the closing one of which is an application mark -/
def functionOfMark : List Located :=
  [leafAt "mi" "f", leafAt "mo" "\u2061",
    .top (.element "mrow" [] [.element "mo" [] [.text .plain "("], .element "mi" [] [.text .plain "sin"],
      .element "mo" [("data-semantic-role", "application")] [.text .plain ")"]])]

/-- **what limits this**: a prime takes the place of the blank behind a function name, and an operator between the two keeps the
blank -/
theorem invisible_operator_before_prime :
    (∀ x ∈ functionOfMark.getLast?, (Formula.read .mathml .default x).kind ≠ .identifier ∧
      (Formula.read .mathml .default x).isApplication = false) ∧
    MathML.kind (leafAt "mo" "\u2062").node = .operator ∧
    Formula.rawText .mathml (leafAt "mo" "\u2062").node = ['\u2062'] ∧
    rowLatex .default ((functionOfMark ++ leafAt "mo" "\u2062" :: [leafAt "mo" "\x27"]).map (Formula.read .mathml .default)) =
      "f(\\sin \x27".toList ∧
    rowLatex .default ((functionOfMark ++ [leafAt "mo" "\x27"]).map (Formula.read .mathml .default)) =
      "f(\\sin\x27".toList := by
  decide +kernel

end Untypeset
