import Mathlib.Data.List.Forall2
import Untypeset.Proofs.Formula.Value

/-!
Rows that look alike are cut alike. What a neighbour sees of a sibling is its kind, its semantic role and type, and for a
leaf its key and the characters it shows. If a relation between formulas lets neighbours see no difference (`Indistinct`),
then the segments of two related rows are related, piece by piece (`Indistinct.segments`): the same names are spelled, the
same siblings are taken as arguments, and bars and primes stand in the same places.
-/

namespace Untypeset

open Untypeset.Rendering Untypeset.Symbol Untypeset.Text

theorem pair_of_forall₂ {α β : Type} {R : α → β → Prop} {x y : α} {zs : List β} (h : List.Forall₂ R [x, y] zs) :
    ∃ a b, zs = [a, b] ∧ R x a ∧ R y b := by
  cases h with
  | cons ha h =>
    cases h with
    | cons hb h =>
      cases h
      exact ⟨_, _, rfl, ha, hb⟩

theorem triple_of_forall₂ {α β : Type} {R : α → β → Prop} {x y z : α} {zs : List β} (h : List.Forall₂ R [x, y, z] zs) :
    ∃ a b c, zs = [a, b, c] ∧ R x a ∧ R y b ∧ R z c := by
  cases h with
  | cons ha h =>
    obtain ⟨b, c, rfl, hb, hc⟩ := pair_of_forall₂ h
    exact ⟨_, b, c, rfl, ha, hb, hc⟩

/-- neighbours see no difference between related formulas -/
structure Indistinct (A : Formula → Formula → Prop) : Prop where
  kind : ∀ {f g}, A f g → f.kind = g.kind
  role : ∀ {f g}, A f g → f.facts.role = g.facts.role
  type : ∀ {f g}, A f g → f.facts.type = g.facts.type
  key : ∀ {f g}, A f g → f.kind.isLeaf = true → f.key = g.key
  raw : ∀ {f g}, A f g → f.kind.isLeaf = true → f.facts.raw = g.facts.raw
  list : ∀ {f g}, A f g → f.kind = .row ∨ f.kind.isPlain = true → List.Forall₂ A f.parts g.parts

/-! ## Related segments -/

/-- heads that spell the same name, or that are related siblings -/
inductive Head.Related (A : Formula → Formula → Prop) : Head → Head → Prop
  | spelled {name : Latex} {f g : Formula} {letters others : List Formula} :
    Head.Related A (.spelled name f letters) (.spelled name g others)
  | single {f g : Formula} : A f g → Head.Related A (.single f) (.single g)

/-- arguments of one form with related siblings -/
inductive Argument.Related (A : Formula → Formula → Prop) : Argument → Argument → Prop
  | absent : Argument.Related A .absent .absent
  | group {row other : List Formula} : List.Forall₂ A row other → Argument.Related A (.group row) (.group other)
  | barred {row other : List Formula} : List.Forall₂ A row other → Argument.Related A (.barred row) (.barred other)
  | enclosed {f g : Formula} : A f g → Argument.Related A (.enclosed f) (.enclosed g)
  | plain {f g : Formula} : A f g → Argument.Related A (.plain f) (.plain g)

/-- runs with related heads and arguments, both with a prime or both without -/
structure Run.Related (A : Formula → Formula → Prop) (run other : Run) : Prop where
  head : run.head.Related A other.head
  argument : run.argument.Related A other.argument
  prime : run.prime.isSome = other.prime.isSome

/-- segments of one form with related contents -/
inductive Segment.Related (A : Formula → Formula → Prop) : Segment → Segment → Prop
  | run {run other : Run} : run.Related A other → Segment.Related A (.run run) (.run other)
  | bar {f g : Formula} {opens : Bool} : Segment.Related A (.bar f opens) (.bar g opens)
  | single {f g : Formula} : A f g → Segment.Related A (.single f) (.single g)

namespace Indistinct

variable {A : Formula → Formula → Prop} {f g : Formula} {row other : List Formula} {symbols : SymbolTable}

/-! ## What neighbours see -/

theorem isFence (hA : Indistinct A) (h : A f g) (c : Char) : f.isFence c = g.isFence c := by
  unfold Formula.isFence
  rw [← hA.kind h]
  by_cases hk : f.kind = .operator
  · rw [hA.key h (by rw [hk]; rfl)]
  · simp [hk]

theorem isBar (hA : Indistinct A) (h : A f g) : f.isBar = g.isBar :=
  hA.isFence h '|'

theorem isEquals (hA : Indistinct A) (h : A f g) : f.isEquals = g.isEquals :=
  hA.isFence h '='

theorem isPrime (hA : Indistinct A) (h : A f g) : f.isPrime = g.isPrime := by
  unfold Formula.isPrime
  rw [← hA.kind h]
  by_cases hk : f.kind = .operator
  · rw [hA.key h (by rw [hk]; rfl)]
  · simp [hk]

theorem isApplication (hA : Indistinct A) (h : A f g) : f.isApplication = g.isApplication := by
  unfold Formula.isApplication
  rw [← hA.kind h, ← hA.role h]
  by_cases hk : f.kind = .operator
  · rw [hA.raw h (by rw [hk]; rfl)]
  · simp [hk]

theorem takesArgument (hA : Indistinct A) (h : A f g) : f.takesArgument = g.takesArgument := by
  unfold Formula.takesArgument
  rw [hA.role h, hA.type h]

theorem canBeArgument (hA : Indistinct A) (h : A f g) : f.canBeArgument = g.canBeArgument := by
  unfold Formula.canBeArgument
  rw [hA.kind h, hA.isFence h]

theorem letter? (hA : Indistinct A) (h : A f g) : f.letter? = g.letter? := by
  unfold Formula.letter?
  rw [← hA.kind h]
  by_cases hk : f.kind = .identifier
  · rw [hA.key h (by rw [hk]; rfl)]
  · rw [if_neg hk, if_neg hk]

theorem any_isFence (hA : Indistinct A) (h : List.Forall₂ A row other) (c : Char) :
    row.any (·.isFence c) = other.any (·.isFence c) := by
  induction h with
  | nil => rfl
  | cons hf _ ih => rw [List.any_cons, List.any_cons, hA.isFence hf, ih]

theorem countP_isFence (hA : Indistinct A) (h : List.Forall₂ A row other) (c : Char) :
    row.countP (·.isFence c) = other.countP (·.isFence c) := by
  induction h with
  | nil => rfl
  | cons hf _ ih => rw [List.countP_cons, List.countP_cons, hA.isFence hf, ih]

theorem any_head?_isFence (hA : Indistinct A) (h : List.Forall₂ A row other) (c : Char) :
    (row.head?.any fun f => f.isFence c) = other.head?.any fun f => f.isFence c := by
  cases h with
  | nil => rfl
  | cons hf _ => exact hA.isFence hf c

theorem areFenced (hA : Indistinct A) (h : List.Forall₂ A row other) :
    Formula.areFenced row = Formula.areFenced other := by
  have hlast : (row.getLast?.any fun f => f.isFence ')') = other.getLast?.any fun f => f.isFence ')' := by
    rw [← List.head?_reverse, ← List.head?_reverse]
    exact hA.any_head?_isFence (List.rel_reverse h) ')'
  rw [Formula.areFenced, Formula.areFenced, h.length_eq, hA.any_head?_isFence h, hlast]

theorem isParenthesized (hA : Indistinct A) (h : A f g) : f.isParenthesized = g.isParenthesized := by
  unfold Formula.isParenthesized
  rw [← hA.kind h]
  by_cases hk : f.kind = .row ∨ f.kind = .container
  · rw [hA.areFenced (hA.list h (hk.imp_right fun hk => by rw [hk]; rfl))]
  · rw [not_or] at hk
    simp [hk.1, hk.2]

theorem isCompound (hA : Indistinct A) (h : A f g) : f.isCompound = g.isCompound := by
  unfold Formula.isCompound
  rw [← hA.kind h]
  by_cases hk : f.kind = .row
  · have hparts := hA.list h (.inl hk)
    rw [hA.any_isFence hparts, hA.any_isFence hparts]
  · simp [hk]

/-! ## Runs -/

theorem longestName (hA : Indistinct A) (h : List.Forall₂ A row other) (start : Latex) (count : Nat)
    (best : Option (Latex × Nat)) :
    Untypeset.longestName symbols start count best row = Untypeset.longestName symbols start count best other := by
  induction h generalizing start count best with
  | nil => rfl
  | cons hf _ ih =>
    rw [Untypeset.longestName, Untypeset.longestName, hA.letter? hf]
    split
    · rfl
    · split
      · exact ih _ _ _
      · rfl

theorem takeHead (hA : Indistinct A) (symbols : SymbolTable) (hf : A f g) (hk : f.kind = .identifier) (h : List.Forall₂ A row other) :
    (takeHead symbols f row).1.Related A (takeHead symbols g other).1 ∧
      List.Forall₂ A (takeHead symbols f row).2 (takeHead symbols g other).2 := by
  have hname : spelledName? symbols f row = spelledName? symbols g other := by
    unfold spelledName?
    rw [hA.key hf (by rw [hk]; rfl)]
    split
    · split
      · exact hA.longestName h _ _ _
      · rfl
    · rfl
  unfold Untypeset.takeHead
  rw [hname]
  split
  · exact ⟨.spelled, List.forall₂_drop _ h⟩
  · exact ⟨.single hf, h⟩

/-- what is taken off two rows: nothing from either, or related pieces with related rests -/
def TakenAlike (A : Formula → Formula → Prop) : Option (List Formula × List Formula) →
    Option (List Formula × List Formula) → Prop
  | none, none => True
  | some taken, some other => List.Forall₂ A taken.1 other.1 ∧ List.Forall₂ A taken.2 other.2
  | _, _ => False

theorem TakenAlike.cons (hf : A f g) {taken takenOther : Option (List Formula × List Formula)}
    (h : TakenAlike A taken takenOther) :
    TakenAlike A (taken.map fun (group, after) => (f :: group, after))
      (takenOther.map fun (group, after) => (g :: group, after)) := by
  cases taken <;> cases takenOther
  · trivial
  · exact h
  · exact h
  · exact ⟨.cons hf h.1, h.2⟩

theorem takeGroup? (hA : Indistinct A) (h : List.Forall₂ A row other) (depth : Nat) :
    TakenAlike A (takeGroup? depth row) (takeGroup? depth other) := by
  induction h generalizing depth with
  | nil => trivial
  | cons hf hrest ih =>
    rw [Untypeset.takeGroup?, Untypeset.takeGroup?, hA.isFence hf, hA.isFence hf]
    split
    · exact TakenAlike.cons hf (ih _)
    · split
      · split
        · exact ⟨.cons hf .nil, hrest⟩
        · exact TakenAlike.cons hf (ih _)
      · exact TakenAlike.cons hf (ih _)

theorem takeToBar? (hA : Indistinct A) (h : List.Forall₂ A row other) :
    TakenAlike A (takeToBar? row) (takeToBar? other) := by
  induction h with
  | nil => trivial
  | cons hf hrest ih =>
    rw [Untypeset.takeToBar?, Untypeset.takeToBar?, hA.isBar hf]
    split
    · exact ⟨.cons hf .nil, hrest⟩
    · exact TakenAlike.cons hf ih

theorem takeArgument (hA : Indistinct A) (h : List.Forall₂ A row other) :
    (takeArgument row).1.Related A (takeArgument other).1 ∧
      List.Forall₂ A (takeArgument row).2 (takeArgument other).2 := by
  cases h with
  | nil => exact ⟨.absent, .nil⟩
  | @cons f g rest others hf hrest =>
    have hgroup := hA.takeGroup? (.cons hf hrest) 0
    have hbar := hA.takeToBar? hrest
    simp only [Untypeset.takeArgument]
    rw [hA.isFence hf, hA.isBar hf, hA.isParenthesized hf]
    split
    · cases htaken : Untypeset.takeGroup? 0 (f :: rest) <;> cases hother : Untypeset.takeGroup? 0 (g :: others) <;>
        rw [htaken, hother] at hgroup
      · exact ⟨.absent, .cons hf hrest⟩
      · exact hgroup.elim
      · exact hgroup.elim
      · exact ⟨.group hgroup.1, hgroup.2⟩
    · split
      · cases htaken : Untypeset.takeToBar? rest <;> cases hother : Untypeset.takeToBar? others <;>
          rw [htaken, hother] at hbar
        · exact ⟨.absent, .cons hf hrest⟩
        · exact hbar.elim
        · exact hbar.elim
        · exact ⟨.barred (.cons hf hbar.1), hbar.2⟩
      · split
        · exact ⟨.enclosed hf, hrest⟩
        · exact ⟨.plain hf, hrest⟩

theorem takeApplied (hA : Indistinct A) (hf : A f g) (h : List.Forall₂ A row other) :
    (takeApplied f row).2.1.Related A (takeApplied g other).2.1 ∧
      List.Forall₂ A (takeApplied f row).2.2 (takeApplied g other).2.2 := by
  cases h with
  | nil => exact ⟨.absent, .nil⟩
  | cons hnext hrest =>
    simp only [Untypeset.takeApplied]
    rw [hA.isApplication hnext, hA.takesArgument hf, hA.canBeArgument hnext]
    split
    · exact hA.takeArgument hrest
    · split
      · exact hA.takeArgument (.cons hnext hrest)
      · exact ⟨.absent, .cons hnext hrest⟩

theorem takePrime (hA : Indistinct A) (h : List.Forall₂ A row other) :
    (takePrime row).1.isSome = (takePrime other).1.isSome ∧
      List.Forall₂ A (takePrime row).2 (takePrime other).2 := by
  cases h with
  | nil => exact ⟨rfl, .nil⟩
  | cons hf hrest =>
    simp only [Untypeset.takePrime]
    rw [hA.isPrime hf]
    split
    · exact ⟨rfl, hrest⟩
    · exact ⟨rfl, .cons hf hrest⟩

theorem takeRun (hA : Indistinct A) (symbols : SymbolTable) (hf : A f g) (hk : f.kind = .identifier) (h : List.Forall₂ A row other) :
    (takeRun symbols f row).1.Related A (takeRun symbols g other).1 ∧
      List.Forall₂ A (takeRun symbols f row).2 (takeRun symbols g other).2 := by
  obtain ⟨hhead, hafterHead⟩ := hA.takeHead symbols hf hk h
  obtain ⟨hargument, hafterArgument⟩ := hA.takeApplied hf hafterHead
  obtain ⟨hprime, hafter⟩ := hA.takePrime hafterArgument
  exact ⟨⟨hhead, hargument, hprime⟩, hafter⟩

/-! ## Rows -/

theorem cut (hA : Indistinct A) {paired : Bool} (h : List.Forall₂ A row other) :
    List.Forall₂ (Segment.Related A) (cut symbols paired row) (cut symbols paired other) := by
  fun_induction Untypeset.cut symbols paired row generalizing other with
  | case1 =>
    cases h
    rw [Untypeset.cut]
    exact .nil
  | case2 f rest hk ih =>
    cases h with
    | cons hf hrest =>
      obtain ⟨hrun, hafter⟩ := hA.takeRun symbols hf hk hrest
      rw [Untypeset.cut, if_pos ((hA.kind hf).symm.trans hk)]
      exact .cons (.run hrun) (ih hafter)
  | case3 f rest hk hbar ih =>
    cases h with
    | cons hf hrest =>
      rw [Untypeset.cut, if_neg (by rwa [← hA.kind hf]), if_pos (by rwa [← hA.isBar hf]),
        show rest.any (·.isBar) = _ from hA.any_isFence hrest '|']
      exact .cons .bar (ih hrest)
  | case4 f rest hk hbar ih =>
    cases h with
    | cons hf hrest =>
      rw [Untypeset.cut, if_neg (by rwa [← hA.kind hf]), if_neg (by rwa [← hA.isBar hf])]
      exact .cons (.single hf) (ih hrest)

/-- **related rows are cut into related segments** -/
theorem segments (hA : Indistinct A) (h : List.Forall₂ A row other) :
    List.Forall₂ (Segment.Related A) (segments symbols row) (segments symbols other) := by
  have hpaired : hasBarPair row = hasBarPair other := by
    rw [hasBarPair, hasBarPair, show row.countP (·.isBar) = _ from hA.countP_isFence h '|']
    rfl
  rw [Untypeset.segments, Untypeset.segments, hpaired]
  exact hA.cut h

/-! ## Slices -/

theorem forall₂_innerParts (h : List.Forall₂ A f.parts g.parts) : List.Forall₂ A f.innerParts g.innerParts := by
  have htail : List.Forall₂ A f.parts.tail g.parts.tail := by
    rw [← List.drop_one, ← List.drop_one]
    exact List.forall₂_drop 1 h
  rw [Formula.innerParts, Formula.innerParts, List.dropLast_eq_take, List.dropLast_eq_take, htail.length_eq]
  exact List.forall₂_take _ htail

theorem takeWhile_isEquals (hA : Indistinct A) (h : List.Forall₂ A row other) :
    List.Forall₂ A (row.takeWhile fun f => !f.isEquals) (other.takeWhile fun f => !f.isEquals) ∧
      List.Forall₂ A (row.dropWhile fun f => !f.isEquals) (other.dropWhile fun f => !f.isEquals) := by
  induction h with
  | nil => exact ⟨.nil, .nil⟩
  | cons hf hrest ih =>
    rw [List.takeWhile_cons, List.takeWhile_cons, List.dropWhile_cons, List.dropWhile_cons, hA.isEquals hf]
    split
    · exact ⟨.cons hf ih.1, ih.2⟩
    · exact ⟨.nil, .cons hf hrest⟩

/-- related rows are cut at the same equals sign -/
theorem sides? (hA : Indistinct A) (h : A f g) (hk : f.kind = .row) : TakenAlike A f.sides? g.sides? := by
  have hparts := hA.list h (.inl hk)
  obtain ⟨hbefore, hafter⟩ := hA.takeWhile_isEquals hparts
  have hcount : f.parts.countP (·.isEquals) = g.parts.countP (·.isEquals) := hA.countP_isFence hparts '='
  unfold Formula.sides?
  rw [hA.role h, hcount]
  split
  · revert hbefore
    generalize (f.parts.takeWhile fun part => !part.isEquals) = left
    generalize (g.parts.takeWhile fun part => !part.isEquals) = left'
    intro hbefore
    cases hbefore with
    | nil => trivial
    | cons hf hrest =>
      refine ⟨.cons hf hrest, ?_⟩
      rw [← List.drop_one, ← List.drop_one]
      exact List.forall₂_drop 1 hafter
  · trivial

end Indistinct

end Untypeset
