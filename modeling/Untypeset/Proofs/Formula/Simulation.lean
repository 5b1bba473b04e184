import Untypeset.Proofs.Formula.Segments
import Untypeset.Proofs.Formula.Stable
import Untypeset.Proofs.Formula.Twins
import Untypeset.Proofs.Text.Squash

/-!
Simulations between formulas. Two formulas that differ in padding and in anonymous groups around their arguments are
converted to LaTeX that differs in padding only. A relation on LaTeX is a closeness if every layout keeps it and none of
the tests that layouts make on their arguments can tell close sources apart; a relation on formulas is a simulation if
neighbours see no difference, leaves are close, and arguments are related, apart from a group around them. A structure with an
unexpected number of arguments is a mere list, as in conversion.

The result is `Simulation.latex`: formulas related by a simulation have close LaTeX.
-/

namespace Untypeset

open Untypeset.Rendering Untypeset.Symbol Untypeset.Text

theorem rowLatex_singleton (symbols : SymbolTable) (f : Formula) : rowLatex symbols [f] = f.latex symbols := by
  rw [rowLatex_eq]
  rcases segments_singleton symbols f with h | h
  · rw [h, List.flatMap_singleton, Segment.latex_run]
    exact List.append_nil _
  · rw [h, List.flatMap_singleton, Segment.latex_single]

/-! ## Closeness -/

/-- a relation on LaTeX that layouts keep and cannot see -/
structure Closeness (symbols : SymbolTable) (R : Latex → Latex → Prop) : Prop where
  word : ∀ w ∈ layoutWords, R w.toList w.toList
  named : ∀ name, symbols.isFunction name = true → R (Latex.functionMacro name) (Latex.functionMacro name)
  operator : ∀ entry ∈ symbols.operators, R entry.2 entry.2
  append : ∀ {a a' b b'}, R a a' → R b b' → R (a ++ b) (a' ++ b')
  group : ∀ {s s'}, R s s' → R ('\x7b' :: s ++ ['\x7d']) ('\x7b' :: s' ++ ['\x7d'])
  trim : ∀ {s s'}, R s s' → R (Text.trim s) (Text.trim s')
  trimEnd : ∀ {s s'}, R s s' → R (Text.trimEnd s) (Text.trimEnd s')
  blank : ∀ {s s'}, R s s' → (Text.trim s).isEmpty = (Text.trim s').isEmpty
  prime : ∀ {s s'}, R s s' → primeGlyphs.contains (Text.trim s) = primeGlyphs.contains (Text.trim s')
  exponentiated : ∀ {a a' b b'}, R a a' → R b b' → R (exponentiated a b) (exponentiated a' b')

/-- a prime is known without its blanks -/
theorem contains_primeGlyphs {s : Latex} :
    primeGlyphs.contains (Text.trim s) = true ↔ squash s = ['\x27'] ∨ squash s = ['′'] := by
  rw [List.contains_iff_mem, primeGlyphs, List.mem_pair, trim_eq_singleton_iff, trim_eq_singleton_iff]

namespace Closeness

variable {symbols : SymbolTable} {R : Latex → Latex → Prop} {a a' b b' s s' : Latex}

theorem nil (hR : Closeness symbols R) : R [] [] :=
  hR.word "" (by decide)

theorem braced (hR : Closeness symbols R) {control : String} (hc : control ∈ layoutWords) (h : R s s') :
    R (Latex.braced control s) (Latex.braced control s') := by
  rw [Latex.braced, Latex.braced, List.append_assoc, List.append_assoc]
  exact hR.append (hR.word control hc) (hR.group h)

theorem parenthesized (hR : Closeness symbols R) (h : R s s') : R (Latex.parenthesized s) (Latex.parenthesized s') :=
  hR.append (hR.append (hR.word "(" (by decide)) h) (hR.word ")" (by decide))

theorem primed (hR : Closeness symbols R) (h : R s s') : R (Layout.primed s) (Layout.primed s') :=
  hR.append (hR.trimEnd h) (hR.word "\x27" (by decide))

theorem withPrime? (hR : Closeness symbols R) {prime prime' : Option Formula} (hp : prime.isSome = prime'.isSome) (h : R s s') :
    R (withPrime? prime s) (withPrime? prime' s') := by
  unfold Untypeset.withPrime?
  rw [hp]
  split
  · exact hR.primed h
  · exact h

theorem rooted (hR : Closeness symbols R) (ha : R a a') (hb : R b b') : R (rooted a b) (rooted a' b') := by
  have hbracket : R [']'] [']'] := hR.word "]" (by decide)
  have closed : ∀ {start start'}, R start start' → R (start ++ ']' :: '\x7b' :: Text.trim a ++ ['\x7d'])
      (start' ++ ']' :: '\x7b' :: Text.trim a' ++ ['\x7d']) := by
    intro start start' hstart
    have h := hR.append hstart (hR.append hbracket (hR.group (hR.trim ha)))
    simpa using h
  unfold Untypeset.rooted
  exact closed (hR.append (hR.word "\\sqrt[" (by decide)) (hR.trim hb))

theorem superscripted (hR : Closeness symbols R) (ha : R a a') (hb : R b b') : R (superscripted a b) (superscripted a' b') := by
  unfold Untypeset.superscripted
  rw [hR.prime hb]
  split
  · exact hR.primed ha
  · exact hR.exponentiated ha hb

theorem overscripted (hR : Closeness symbols R) (ha : R a a') (hb : R b b') : R (overscripted a b) (overscripted a' b') := by
  unfold Untypeset.overscripted
  rw [hR.blank hb]
  split
  · exact ha
  · exact hR.append ha (hR.braced (by decide) hb)

theorem lookup (hR : Closeness symbols R) {key token : Latex} (h : symbols.operator? key = some token) : R token token :=
  hR.operator (key, token) (mem_of_lookup h)

theorem flatMap (hR : Closeness symbols R) {α β : Type} {S : α → β → Prop} {xs : List α} {ys : List β} {f : α → Latex}
    {g : β → Latex} (h : List.Forall₂ S xs ys) (hfg : ∀ x ∈ xs, ∀ y, S x y → R (f x) (g y)) :
    R (xs.flatMap f) (ys.flatMap g) := by
  induction h with
  | nil => exact hR.nil
  | cons hxy _ ih =>
    rw [List.flatMap_cons, List.flatMap_cons]
    exact hR.append (hfg _ List.mem_cons_self _ hxy) (ih fun x hx => hfg x (List.mem_cons_of_mem _ hx))

end Closeness

/-! ## Simulations -/

/-- related formulas, or a formula and a group that holds nothing but a related one -/
def Held (A : Formula → Formula → Prop) (f g : Formula) : Prop :=
  A f g ∨ g.kind = .container ∧ ∃ inner, g.parts = [inner] ∧ A f inner

/-- a group around an argument leaves no trace -/
theorem Held.latex {A : Formula → Formula → Prop} {R : Latex → Latex → Prop} {symbols : SymbolTable} {f g : Formula}
    (h : Held A f g) (hlatex : ∀ g, A f g → R (f.latex symbols) (g.latex symbols)) :
    R (f.latex symbols) (g.latex symbols) := by
  rcases h with h | ⟨hk, inner, hparts, h⟩
  · exact hlatex g h
  · rw [latex_plain (f := g) (by rw [hk]; rfl), hparts, rowLatex_singleton]
    exact hlatex inner h

/-- a relation between formulas that conversion turns into closeness -/
structure Simulation (symbols : SymbolTable) (A : Formula → Formula → Prop) (R : Latex → Latex → Prop) : Prop
    extends Indistinct A where
  close : Closeness symbols R
  shown : ∀ {f g}, A f g → f.kind.isLeaf = true → R f.shown g.shown
  variant : ∀ {f g}, A f g → f.facts.variant = g.facts.variant
  sqrt : ∀ {f g}, A f g → f.kind = .sqrt → List.Forall₂ A f.parts g.parts ∨
    ∃ box, g.parts = [box] ∧ box.kind = .container ∧ List.Forall₂ A f.parts box.parts
  misfit : ∀ {f g n}, A f g → f.kind.arity? = some n → f.parts.length ≠ n → List.Forall₂ A f.parts g.parts
  pair : ∀ {f g}, A f g → f.kind.arity? = some 2 → f.parts.length = 2 → f.kind ≠ .superscript → ∃ a b a' b',
    f.parts = [a, b] ∧ g.parts = [a', b'] ∧ Held A a a' ∧ Held A b b'
  superscript : ∀ {f g}, A f g → f.kind = .superscript → f.parts.length = 2 → ∃ a b a' b',
    f.parts = [a, b] ∧ g.parts = [a', b'] ∧ A a a' ∧ Held A b b'
  overscript : ∀ {f g}, A f g → f.kind = .over → ∀ a b a' b', f.parts = [a, b] → g.parts = [a', b'] →
    b.showsAny vectorMarks = b'.showsAny vectorMarks ∧ b.showsAny overlineMarks = b'.showsAny overlineMarks
  triple : ∀ {f g}, A f g → f.kind.arity? = some 3 → f.parts.length = 3 → ∃ a b c a' b' c',
    f.parts = [a, b, c] ∧ g.parts = [a', b', c'] ∧ Held A a a' ∧ Held A b b' ∧ Held A c c' ∧
      a.isIntegral = a'.isIntegral

namespace Simulation

variable {A : Formula → Formula → Prop} {R : Latex → Latex → Prop} {symbols : SymbolTable} {f g : Formula}
  {row other : List Formula}

theorem leaf (hA : Simulation symbols A R) (h : A f g) (hk : f.kind.isLeaf = true) :
    R (f.latex symbols) (g.latex symbols) := by
  have hkey := hA.key h hk
  have hraw := hA.raw h hk
  have hshown := hA.shown h hk
  have hkind := hA.kind h
  unfold Formula.shown at hshown
  cases hf : f.kind <;> rw [hf] at hk hkind hshown <;> rw [← hkind] at hshown <;> cases hk
  · rw [latex_identifier hf, latex_identifier hkind.symm]
    unfold Formula.identifierLatex
    have hkeys : R f.key g.key := hA.close.trim hshown
    rw [hkey] at hkeys
    rw [hkey, hA.variant h]
    split
    · rename_i hfun
      exact hA.close.named _ hfun
    · split
      · exact hA.close.braced (by decide) hkeys
      · exact hshown
  · rw [latex_number hf, latex_number hkind.symm]
    exact hshown
  · rw [latex_operator hf, latex_operator hkind.symm]
    unfold Formula.operatorLatex
    rw [hkey, hraw]
    split
    · exact hA.close.nil
    · split
      · exact hA.close.nil
      · cases hop : symbols.operator? g.key with
        | none => exact hshown
        | some token => exact hA.close.lookup hop
  · rw [latex_words hf, latex_words hkind.symm]
    unfold Formula.wordsLatex
    rw [hkey]
    split
    · exact hA.close.word "\\pi " (by decide)
    · exact hshown
  · rw [latex_bareText hf, latex_bareText hkind.symm]
    exact hshown

theorem head (hA : Simulation symbols A R) {head head' : Head} (h : head.Related A head') (sound : head.Sound symbols)
    (formula : ∀ f ∈ head.nodes, ∀ g, A f g → R (f.latex symbols) (g.latex symbols)) :
    R (head.latex symbols) (head'.latex symbols) := by
  cases h with
  | spelled => exact hA.close.named _ sound.1
  | single h =>
    refine formula _ ?_ _ h
    simp [Head.nodes]

theorem argument (hA : Simulation symbols A R) {argument argument' : Argument} (h : argument.Related A argument')
    (formula : ∀ f ∈ argument.nodes, ∀ g, A f g → R (f.latex symbols) (g.latex symbols))
    (row : ∀ other, List.Forall₂ A argument.nodes other → R (rowLatex symbols argument.nodes) (rowLatex symbols other)) :
    R (argument.latex symbols) (argument'.latex symbols) := by
  cases h with
  | absent => exact hA.close.nil
  | group h => exact row _ h
  | barred h =>
    apply hA.close.parenthesized
    exact hA.close.trim (row _ h)
  | enclosed h =>
    refine formula _ ?_ _ h
    simp [Argument.nodes]
  | @plain f g h =>
    have hlatex : R (f.latex symbols) (g.latex symbols) := formula f (by simp [Argument.nodes]) g h
    exact hA.close.parenthesized (hA.close.trim hlatex)

theorem segment (hA : Simulation symbols A R) {s t : Segment} (h : s.Related A t)
    (sound : ∀ run : Run, s = .run run → run.Sound symbols)
    (formula : ∀ f ∈ s.nodes, ∀ g, A f g → R (f.latex symbols) (g.latex symbols))
    (row : ∀ run : Run, s = .run run → ∀ other, List.Forall₂ A run.argument.nodes other →
      R (rowLatex symbols run.argument.nodes) (rowLatex symbols other)) :
    R (s.latex symbols) (t.latex symbols) := by
  cases h with
  | bar =>
    rw [Segment.latex_bar, Segment.latex_bar]
    split
    · exact hA.close.word "\\left|" (by decide)
    · exact hA.close.word "\\right|" (by decide)
  | single h =>
    rw [Segment.latex_single, Segment.latex_single]
    refine formula _ ?_ _ h
    simp [Segment.nodes]
  | @run run other h =>
    have hhead : R (run.head.latex symbols) (other.head.latex symbols) := by
      apply hA.head h.head (sound run rfl).head
      intro f hf
      apply formula f
      simp [Segment.nodes, Run.nodes, hf]
    have hargument : R (run.argument.latex symbols) (other.argument.latex symbols) := by
      refine hA.argument h.argument ?_ (row run rfl)
      intro f hf
      apply formula f
      simp [Segment.nodes, Run.nodes, hf]
    rw [Segment.latex_run, Segment.latex_run]
    exact hA.close.withPrime? h.prime (hA.close.append hhead hargument)

/-- the base of a superscript -/
theorem base (hA : Simulation symbols A R) (h : A f g) (whole : R (f.latex symbols) (g.latex symbols))
    (inner : ∀ other, List.Forall₂ A f.innerParts other → R (rowLatex symbols f.innerParts) (rowLatex symbols other)) :
    R (f.baseLatex symbols) (g.baseLatex symbols) := by
  unfold Formula.baseLatex
  rw [hA.isParenthesized h, hA.isCompound h]
  split
  · rename_i hparen
    rw [← hA.isParenthesized h] at hparen
    have hparts : List.Forall₂ A f.innerParts g.innerParts :=
      Indistinct.forall₂_innerParts (hA.list h (Formula.isList_of_isParenthesized hparen))
    exact hA.close.parenthesized (inner _ hparts)
  · split
    · exact hA.close.parenthesized whole
    · exact whole

/-- the sides of an equality -/
theorem sidesLatex (hA : Simulation symbols A R) (h : A f g) (hk : f.kind = .row)
    (row : ∀ row other, Formula.sizes row < f.size → List.Forall₂ A row other →
      R (rowLatex symbols row) (rowLatex symbols other)) :
    R (f.sidesLatex symbols) (g.sidesLatex symbols) := by
  have hparts := hA.list h (.inl hk)
  have hsides := hA.sides? h hk
  have hwhole := row f.parts g.parts (by rw [f.size_eq]; omega) hparts
  unfold Formula.sidesLatex
  cases hf : f.sides? with
  | none =>
    cases hg : g.sides? with
    | none => exact hwhole
    | some sides => rw [hf, hg] at hsides; exact hsides.elim
  | some sides =>
    cases hg : g.sides? with
    | none => rw [hf, hg] at hsides; exact hsides.elim
    | some others =>
      rw [hf, hg] at hsides
      obtain ⟨hl, hr⟩ := Formula.sizes_sides hf
      exact hA.close.append (row _ _ hl hsides.1)
        (hA.close.append (hA.close.word "=" (by decide)) (row _ _ hr hsides.2))

/-- a structure with an unexpected number of arguments -/
theorem unfitted (hA : Simulation symbols A R) (h : A f g) {n : Nat} (harity : f.kind.arity? = some n)
    (hn : f.parts.length ≠ n)
    (row : List.Forall₂ A f.parts g.parts → R (rowLatex symbols f.parts) (rowLatex symbols g.parts)) :
    R (f.latex symbols) (g.latex symbols) := by
  have hparts := hA.misfit h harity hn
  rw [latex_misfit harity hn, latex_misfit (by rwa [← hA.kind h]) (by rwa [← hparts.length_eq])]
  exact row hparts

/-- a structure with the expected number of arguments, if its parts and its slices have close LaTeX -/
theorem fitted (hA : Simulation symbols A R) (h : A f g) (hk : f.kind.isLeaf = false)
    (hlength : ∀ n, f.kind.arity? = some n → f.parts.length = n)
    (part : ∀ p ∈ f.parts, ∀ q, A p q → R (p.latex symbols) (q.latex symbols))
    (row : ∀ row other, Formula.sizes row < f.size → List.Forall₂ A row other →
      R (rowLatex symbols row) (rowLatex symbols other))
    (inner : ∀ p ∈ f.parts, ∀ other, List.Forall₂ A p.innerParts other →
      R (rowLatex symbols p.innerParts) (rowLatex symbols other)) :
    R (f.latex symbols) (g.latex symbols) := by
  have hkind := hA.kind h
  have hsize : Formula.sizes f.parts < f.size := by rw [f.size_eq]; omega
  have held : ∀ p ∈ f.parts, ∀ q, Held A p q → R (p.latex symbols) (q.latex symbols) := by
    intro p hp q hq
    exact hq.latex (part p hp)
  cases hf : f.kind <;> rw [hf] at hkind <;> try (rw [hf] at hk; cases hk)
  case ignored =>
    rw [latex_ignored hf, latex_ignored hkind.symm]
    exact hA.close.nil
  case math | style | container =>
    rw [latex_plain (f := f) (by rw [hf]; rfl), latex_plain (f := g) (by rw [← hkind]; rfl)]
    exact row _ _ hsize (hA.list h (.inr (by rw [hf]; rfl)))
  case row =>
    rw [latex_row hf, latex_row hkind.symm]
    exact hA.sidesLatex h hf row
  case sqrt =>
    rw [latex_sqrt hf, latex_sqrt hkind.symm]
    refine hA.close.braced (by decide) (hA.close.trim ?_)
    rcases hA.sqrt h hf with hparts | ⟨box, hbox, hboxKind, hparts⟩
    · exact row _ _ hsize hparts
    · rw [hbox, rowLatex_singleton, latex_plain (f := box) (by rw [hboxKind]; rfl)]
      exact row _ _ hsize hparts
  case root =>
    obtain ⟨a, b, a', b', hp, hp', ha, hb⟩ := hA.pair h (by rw [hf]; rfl) (hlength 2 (by rw [hf]; rfl)) (by simp [hf])
    rw [latex_root hf hp, latex_root hkind.symm hp']
    exact hA.close.rooted (held a (by simp [hp]) a' ha) (held b (by simp [hp]) b' hb)
  case fraction =>
    obtain ⟨a, b, a', b', hp, hp', ha, hb⟩ := hA.pair h (by rw [hf]; rfl) (hlength 2 (by rw [hf]; rfl)) (by simp [hf])
    rw [latex_fraction hf hp, latex_fraction hkind.symm hp']
    exact hA.close.append (hA.close.braced (by decide) (held a (by simp [hp]) a' ha))
      (hA.close.braced (by decide) (held b (by simp [hp]) b' hb))
  case superscript =>
    obtain ⟨a, b, a', b', hp, hp', ha, hb⟩ := hA.superscript h hf (hlength 2 (by rw [hf]; rfl))
    have hbase : a ∈ f.parts := by simp [hp]
    rw [latex_superscript hf hp, latex_superscript hkind.symm hp']
    exact hA.close.superscripted (hA.base ha (part a hbase a' ha) (inner a hbase)) (held b (by simp [hp]) b' hb)
  case subscript | under =>
    obtain ⟨a, b, a', b', hp, hp', ha, hb⟩ := hA.pair h (by rw [hf]; rfl) (hlength 2 (by rw [hf]; rfl)) (by simp [hf])
    rw [latex_script (by simp [hf]) hp, latex_script (by simp [← hkind]) hp']
    exact hA.close.append (held a (by simp [hp]) a' ha) (hA.close.braced (by decide) (held b (by simp [hp]) b' hb))
  case «over» =>
    obtain ⟨a, b, a', b', hp, hp', ha, hb⟩ := hA.pair h (by rw [hf]; rfl) (hlength 2 (by rw [hf]; rfl)) (by simp [hf])
    obtain ⟨hvector, hline⟩ := hA.overscript h hf a b a' b' hp hp'
    have hbase := held a (by simp [hp]) a' ha
    rw [latex_over hf hp, latex_over hkind.symm hp', hvector, hline, hA.type h]
    split
    · exact hA.close.braced (by decide) hbase
    · split
      · exact hA.close.braced (by decide) hbase
      · exact hA.close.overscripted hbase (held b (by simp [hp]) b' hb)
  case subsup | underover =>
    obtain ⟨a, b, c, a', b', c', hp, hp', ha, hb, hc, hintegral⟩ := hA.triple h (by rw [hf]; rfl) (hlength 3 (by rw [hf]; rfl))
    have hlower : R (Latex.braced "_" (b.latex symbols)) (Latex.braced "_" (b'.latex symbols)) :=
      hA.close.braced (by decide) (held b (by simp [hp]) b' hb)
    have hupper : R (Latex.braced "^" (c.latex symbols)) (Latex.braced "^" (c'.latex symbols)) :=
      hA.close.braced (by decide) (held c (by simp [hp]) c' hc)
    rw [latex_limits (by simp [hf]) hp, latex_limits (by simp [← hkind]) hp', hintegral]
    split
    · exact hA.close.append (hA.close.braced (by decide) (held b (by simp [hp]) b' hb)) hupper
    · exact hA.close.append (hA.close.append (held a (by simp [hp]) a' ha) hlower) hupper

/-- any structure, if its parts and its slices have close LaTeX -/
theorem node (hA : Simulation symbols A R) (h : A f g) (hk : f.kind.isLeaf = false)
    (part : ∀ p ∈ f.parts, ∀ q, A p q → R (p.latex symbols) (q.latex symbols))
    (row : ∀ row other, Formula.sizes row < f.size → List.Forall₂ A row other →
      R (rowLatex symbols row) (rowLatex symbols other))
    (inner : ∀ p ∈ f.parts, ∀ other, List.Forall₂ A p.innerParts other →
      R (rowLatex symbols p.innerParts) (rowLatex symbols other)) :
    R (f.latex symbols) (g.latex symbols) := by
  by_cases hfitted : ∀ n, f.kind.arity? = some n → f.parts.length = n
  · exact hA.fitted h hk hfitted part row inner
  · obtain ⟨n, hmisfit⟩ := not_forall.1 hfitted
    obtain ⟨harity, hn⟩ := Classical.not_imp.1 hmisfit
    refine hA.unfitted h harity hn (row _ _ ?_)
    rw [f.size_eq]
    omega

/-- related formulas have close LaTeX -/
private def Near (symbols : SymbolTable) (A : Formula → Formula → Prop) (R : Latex → Latex → Prop) (f : Formula) : Prop :=
  ∀ g, A f g → R (f.latex symbols) (g.latex symbols)

/-- related rows have close LaTeX -/
private def NearRow (symbols : SymbolTable) (A : Formula → Formula → Prop) (R : Latex → Latex → Prop)
    (row : List Formula) : Prop :=
  ∀ other, List.Forall₂ A row other → R (rowLatex symbols row) (rowLatex symbols other)

private theorem near_node (hA : Simulation symbols A R) {f : Formula}
    (formulas : ∀ p : Formula, p.size < f.size → Near symbols A R p)
    (rows : ∀ row, Formula.sizes row < f.size → NearRow symbols A R row) : Near symbols A R f := by
  intro g h
  by_cases hk : f.kind.isLeaf = true
  · exact hA.leaf h hk
  · simp only [Bool.not_eq_true] at hk
    refine hA.node h hk ?_ ?_ ?_
    · intro p hp
      exact formulas p (Formula.size_lt_of_mem_parts hp)
    · intro row other hsize
      exact rows row hsize other
    · intro p hp
      apply rows p.innerParts
      exact Nat.lt_trans p.sizes_innerParts_lt (Formula.size_lt_of_mem_parts hp)

private theorem near_row (hA : Simulation symbols A R) {row : List Formula}
    (formulas : ∀ f : Formula, f.size ≤ Formula.sizes row → Near symbols A R f)
    (rows : ∀ inner, Formula.sizes inner < Formula.sizes row → NearRow symbols A R inner) : NearRow symbols A R row := by
  intro other h
  rw [rowLatex_eq, rowLatex_eq]
  apply hA.close.flatMap (hA.segments h)
  intro s hs t hst
  refine hA.segment hst ?_ ?_ ?_
  · rintro run rfl
    exact run_sound hs
  · intro f hf
    exact formulas f (Formula.size_le_sizes (Segment.nodes_subset hs hf))
  · rintro run rfl
    exact rows run.argument.nodes (sizes_argument_lt hs)

/-- **formulas related by a simulation have close LaTeX** -/
theorem latex (hA : Simulation symbols A R) (h : A f g) : R (f.latex symbols) (g.latex symbols) :=
  (Formula.sizes_induction (fun _ => near_node hA) fun _ => near_row hA).1 f g h

/-- related rows have close LaTeX -/
theorem rows (hA : Simulation symbols A R) (h : List.Forall₂ A row other) :
    R (rowLatex symbols row) (rowLatex symbols other) :=
  (Formula.sizes_induction (fun _ => near_node hA) fun _ => near_row hA).2 row other h

end Simulation

end Untypeset
