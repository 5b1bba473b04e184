import Untypeset.Proofs.Formula.Closings
import Untypeset.Proofs.Latex.Sizing
import Untypeset.Proofs.Rendering.Anywhere

/-!
Equations. A row with the role of an equality is written side by side with a bare equals sign between; without the role it is one
row, in which an identifier before the equals sign looks across it for its argument. Both come to the same but for blanks
(`equality_split_agrees`): a row without bars is written part by part at a joint (`cutLatex_append`), also where a group is left
open before the joint and closed behind it, since both the group and what follows the joint fall apart in turn. An equals sign is
such a joint, and so is a closing parenthesis, unless it is an application mark itself (`equality_split_differs`).
-/

namespace Untypeset

open Untypeset.Latex Untypeset.Markup Untypeset.Rendering Untypeset.Symbol Untypeset.Text

variable {f x z : Formula} {row others group after : List Formula}

/-! ## Joints -/

/-- a sibling that takes nothing along from what follows, except for a prime that is written the same by itself -/
structure Formula.Releases (x z : Formula) : Prop where
  unapplied : x.isApplication = false
  identifier : x.kind = .identifier →
    z.letter? = none ∧ z.isApplication = false ∧ z.canBeArgument = false ∧ z.isPrime = false
  enclosed : x.isParenthesized = true → z.isPrime = true → Tight (x.latex .default)

/-- a place where a row without bars falls apart -/
structure Joint (row others : List Formula) : Prop where
  barless : ∀ f ∈ row ++ others, f.isBar = false
  overt : ∀ f ∈ row ++ others, f.Overt
  closings : ∀ f ∈ others, f.isFence ')' = true → f.isApplication = false
  releases : ∀ x ∈ row.getLast?, ∀ z ∈ others.head?, x.Releases z

namespace Joint

theorem of_suffix (h : Joint row others) (hsuffix : after <:+ row) : Joint after others where
  barless := by
    obtain ⟨before, rfl⟩ := hsuffix
    exact fun f hf => h.barless f (by rw [List.append_assoc]; exact List.mem_append_right before hf)
  overt := by
    obtain ⟨before, rfl⟩ := hsuffix
    exact fun f hf => h.overt f (by rw [List.append_assoc]; exact List.mem_append_right before hf)
  closings := h.closings
  releases x hx := h.releases x (getLast?_of_suffix hsuffix hx)

theorem of_prefix (h : Joint row (group ++ after)) : Joint row group where
  barless f hf := h.barless f (by rw [← List.append_assoc]; exact List.mem_append_left after hf)
  overt f hf := h.overt f (by rw [← List.append_assoc]; exact List.mem_append_left after hf)
  closings f hf := h.closings f (List.mem_append_left after hf)
  releases x hx z hz := h.releases x hx z (List.mem_head?_append_of_mem_head? hz)

/-- a row falls apart behind a closing parenthesis as well -/
theorem of_closing (h : Joint row (group ++ after)) {inner : List Formula} {closing : Formula}
    (hclosing : closing.isFence ')' = true) (hgroup : group = inner ++ [closing]) : Joint group after where
  barless f hf := h.barless f (List.mem_append_right row hf)
  overt f hf := h.overt f (List.mem_append_right row hf)
  closings f hf := h.closings f (List.mem_append_right group hf)
  releases := by
    intro x hx z _
    rw [hgroup, List.getLast?_concat, Option.mem_some_iff] at hx
    rw [← hx]
    constructor
    · exact h.closings closing (by simp [hgroup]) hclosing
    · exact fun hkind => absurd hkind (kind_ne_of_isFence hclosing)
    · intro henclosed
      rw [isParenthesized_of_closing hclosing] at henclosed
      cases henclosed

theorem complete (h : Joint row (z :: others)) : Complete row :=
  fun x hx => (h.releases x hx z rfl).unapplied

theorem severed {rest : List Formula} (h : Joint (f :: rest) (z :: others)) (hkind : f.kind = .identifier)
    (hx : x ∈ (f :: rest).getLast?) : Severed rest (z :: others) := by
  by_cases hother : x.kind = .identifier
  · refine .inr fun y hy => ?_
    rw [← Option.some.inj hy]
    exact ((h.releases x hx z rfl).identifier hother).1
  · exact severed_of_last hkind hx hother _

/-- a prime behind a joint is written directly behind the argument before it, whether it is taken along or not -/
theorem prime {rest : List Formula} {head : Head} {mark : Option Formula} {argument : Argument}
    (h : Joint (f :: rest) (z :: others)) (hkind : f.kind = .identifier) (hx : x ∈ (f :: rest).getLast?)
    (hrun : takeRun .default f rest = endRun head mark (argument, [])) :
    (takePrime (z :: others)).1 = none ∨ Tight (argument.latex .default) := by
  have hreleases := h.releases x hx z rfl
  by_cases hz : z.isPrime = true
  · have hother : x.kind ≠ .identifier := by
      intro hidentifier
      rw [(hreleases.identifier hidentifier).2.2.2] at hz
      cases hz
    have hovert : x.Overt := h.overt x (List.mem_append_left _ (List.mem_of_getLast? hx))
    exact .inr (tight_of_last hkind hrun hx hother hreleases.unapplied hovert fun hx => hreleases.enclosed hx hz)
  · exact .inl (by rw [takePrime_of_not (Bool.eq_false_iff.2 hz)])

end Joint

theorem hasBarPair_of_barless (h : ∀ f ∈ row, f.isBar = false) : hasBarPair row = false := by
  rw [hasBarPair, List.countP_eq_zero.2 fun f hf => by rw [h f hf]; exact Bool.false_ne_true]
  rfl

theorem rowLatex_of_barless (h : ∀ f ∈ row, f.isBar = false) : rowLatex .default row = cutLatex .default false row := by
  rw [rowLatex_eq_cutLatex, hasBarPair_of_barless h]

theorem takeApplied_of_other (f : Formula) (happlies : z.isApplication = false) (hargument : z.canBeArgument = false)
    (rest : List Formula) : takeApplied f (z :: rest) = (none, .absent, z :: rest) := by
  rw [takeApplied, if_neg (by rw [happlies]; exact Bool.false_ne_true),
    if_neg (by rw [hargument, Bool.and_false]; exact Bool.false_ne_true)]

/-- **a row is written part by part**: what the first part leaves open is an argument up to the parenthesis that closes it, or none,
and either way it falls apart at the joint -/
theorem cutLatex_append : ∀ row others : List Formula, Joint row others →
    cutLatex .default false (row ++ others) = cutLatex .default false row ++ cutLatex .default false others
  | [], others, _ => by rw [cutLatex_nil, List.nil_append, List.nil_append]
  | f :: rest, [], _ => by rw [cutLatex_nil, List.append_nil, List.append_nil]
  | f :: rest, z :: others, h => by
    have hsuffix : rest <:+ f :: rest := List.suffix_cons f rest
    by_cases hkind : f.kind = .identifier
    · obtain ⟨x, hx⟩ : ∃ x, x ∈ (f :: rest).getLast? := ⟨_, List.getLast?_eq_some_getLast (List.cons_ne_nil f rest)⟩
      have hlater : ∀ g ∈ z :: others, g.Overt := fun g hg => h.overt g (List.mem_append_right _ hg)
      have hnone : ∀ g ∈ ([] : List Formula), g.Overt := fun g hg => absurd hg List.not_mem_nil
      rw [List.cons_append, cutLatex_identifier hkind, cutLatex_identifier hkind]
      cases takeRun_continued .default f (h.complete.of_suffix hsuffix) with
      | bare head nodes alone taken =>
        obtain ⟨-, happlies, hargument, hprime⟩ := (h.releases x hx z rfl).identifier (kind_of_bare hkind nodes alone hx)
        rw [taken _ (h.severed hkind hx), takeApplied_of_other f happlies hargument, alone,
          runLatex_endRun false none hlater (.inl (by rw [takePrime_of_not hprime])),
          runLatex_endRun false none hnone (.inl rfl), cutLatex_nil, List.append_nil]
      | within run after alone taken =>
        obtain ⟨hafter, hshorter⟩ := suffix_of_takeRun alone
        rw [taken _ (h.severed hkind hx), alone, runLatex, runLatex,
          cutLatex_append after (z :: others) (h.of_suffix hafter), List.append_assoc]
      | through head mark argument alone taken =>
        rw [taken _ (h.severed hkind hx), alone, runLatex_endRun false mark hlater (h.prime hkind hx alone),
          runLatex_endRun false mark hnone (.inl rfl), cutLatex_nil, List.append_nil]
      | group head mark opening inner depth opens nodes alone taken =>
        have hunprimed (row : List Formula) : (takePrime (opening :: row)).1 = none := by
          rw [takePrime_of_not (isPrime_of_isFence opens (by decide))]
        have hshorter := length_opened_lt nodes
        have hopened : Joint (opening :: inner) (z :: others) := h.of_suffix ⟨_, nodes⟩
        rw [taken _ (h.severed hkind hx), alone,
          runLatex_endRun false mark (fun g hg => hopened.overt g (List.mem_append_left _ hg)) (.inl (hunprimed inner))]
        cases hgroup : takeGroup? depth (z :: others) with
        | none =>
          rw [closeArgument, runLatex_endRun false mark hopened.overt (.inl (hunprimed _)),
            cutLatex_append (opening :: inner) (z :: others) hopened, ← List.append_assoc]
        | some taken =>
          -- the group falls apart at the joint, and what follows the joint falls apart behind the group
          obtain ⟨group, after⟩ := taken
          obtain ⟨before, closing, hclosing, hend⟩ := last_of_takeGroup? hgroup
          have hsplit : group ++ after = z :: others := takeGroup?_append hgroup
          have hlength := congrArg List.length hsplit
          rw [← hsplit] at h hlater hopened ⊢
          have hrow := rowLatex_of_barless hopened.of_prefix.barless
          have htight : Tight ((Argument.group (opening :: inner ++ group)).latex .default) := by
            have hends : opening :: inner ++ group = opening :: inner ++ before ++ [closing] := by
              rw [hend, List.append_assoc]
            rw [Argument.latex, hrow]
            exact tight_cutLatex false hclosing (h.closings closing (by simp [hend]) hclosing)
              (hlater closing (by simp [hend])) hends
          rw [closeArgument, runLatex_endRun false mark (fun g hg => hlater g (List.mem_append_right group hg)) (.inr htight),
            cutLatex_append group after (h.of_closing hclosing hend), Argument.latex, Argument.latex, hrow,
            cutLatex_append (opening :: inner) group hopened.of_prefix]
          simp only [List.append_assoc, List.nil_append]
      | barred head mark bar inner opens nodes alone taken =>
        rw [h.barless bar (List.mem_append_left _ (by rw [← nodes]; simp))] at opens
        cases opens
    · have hbar : f.isBar = false := h.barless f List.mem_cons_self
      rw [List.cons_append, cutLatex_single hkind hbar, cutLatex_single hkind hbar,
        cutLatex_append rest (z :: others) (h.of_suffix hsuffix), List.append_assoc]
termination_by row others => row.length + others.length
decreasing_by
  all_goals simp only [List.length_cons, List.length_append] at *; omega

/-- a row falls apart before an equals sign, and behind it -/
theorem rowLatex_equation {left right : List Formula} {equals : Formula} (hequals : equals.isEquals = true)
    (hbars : ∀ f ∈ left ++ equals :: right, f.isBar = false) (hovert : ∀ f ∈ left ++ equals :: right, f.Overt)
    (hleft : Complete left) (happlies : equals.isApplication = false)
    (hclosings : ∀ f ∈ right, f.isFence ')' = true → f.isApplication = false) :
    rowLatex .default (left ++ equals :: right) = rowLatex .default left ++ [' ', '=', ' '] ++ rowLatex .default right := by
  obtain ⟨hkind, hkey⟩ := Formula.kind_of_isFence hequals
  have hother : equals.kind ≠ .identifier := kind_ne_of_isFence hequals
  have hfence {c : Char} (hc : c ≠ '=') : equals.isFence c = false := isFence_of_isFence hequals hc
  have hprime : equals.isPrime = false := isPrime_of_isFence hequals (by decide)
  have hjoint : Joint left (equals :: right) := by
    refine ⟨hbars, hovert, ?_, ?_⟩
    · rw [List.forall_mem_cons]
      refine ⟨fun hclosing => ?_, hclosings⟩
      rw [hfence (by decide)] at hclosing
      cases hclosing
    · intro x hx z hz
      rw [← Option.some.inj hz]
      refine ⟨hleft x hx, fun _ => ⟨if_neg hother, happlies, ?_, hprime⟩, fun _ hisPrime => ?_⟩
      · rw [Formula.canBeArgument, hfence (by decide), hkind]
        rfl
      · rw [hprime] at hisPrime
        cases hisPrime
  have hlatex : equals.latex .default = [' ', '=', ' '] :=
    (hovert equals (by simp)).latex_eq hequals (by decide) (by rw [operator?_default]; decide)
  have hsides := List.forall_mem_append.1 hbars
  rw [rowLatex_of_barless hbars, rowLatex_of_barless hsides.1, rowLatex_of_barless (List.forall_mem_cons.1 hsides.2).2,
    cutLatex_append left _ hjoint, cutLatex_single hother (hfence (by decide)), hlatex, List.append_assoc]

/-- a row without bars that has one equals sign, not at its start and not behind an application mark -/
structure IsEquation (row : List Formula) : Prop where
  barless : ∀ f ∈ row, f.isBar = false
  once : row.countP (·.isEquals) = 1
  inside : (row.takeWhile fun g : Formula => !g.isEquals).isEmpty = false
  complete : ∀ f ∈ (row.takeWhile fun g : Formula => !g.isEquals).getLast?, f.isApplication = false

instance (row : List Formula) : Decidable (IsEquation row) :=
  decidable_of_iff
    ((∀ f ∈ row, f.isBar = false) ∧ row.countP (·.isEquals) = 1 ∧ (row.takeWhile fun g : Formula => !g.isEquals).isEmpty = false ∧
      ∀ f ∈ (row.takeWhile fun g : Formula => !g.isEquals).getLast?, f.isApplication = false)
    ⟨fun h => ⟨h.1, h.2.1, h.2.2.1, h.2.2.2⟩, fun h => ⟨h.barless, h.once, h.inside, h.complete⟩⟩

/-- an equation falls apart into its sides and the equals sign between them -/
theorem IsEquation.sides (h : IsEquation f.parts) (hrole : f.facts.role = some "equality") :
    ∃ left equals right, f.sides? = some (left, right) ∧ f.parts = left ++ equals :: right ∧ equals.isEquals = true ∧
      Complete left ∧ (f.parts.dropWhile fun part => !part.isEquals) = equals :: right := by
  have hsides : f.sides? = some (f.parts.takeWhile fun part => !part.isEquals,
      (f.parts.dropWhile fun part => !part.isEquals).tail) := by
    have hinside := h.inside
    rw [Formula.sides?, hrole, h.once, if_pos (by simp)]
    cases hleft : f.parts.takeWhile fun part => !part.isEquals with
    | nil =>
      rw [hleft] at hinside
      cases hinside
    | cons first rest => rfl
  obtain ⟨equals, hequals, hparts⟩ := Formula.parts_of_sides hsides
  have hsplit := List.takeWhile_append_dropWhile (p := fun part : Formula => !part.isEquals) (l := f.parts)
  exact ⟨_, equals, _, hsides, hparts, hequals, h.complete, List.append_cancel_left (hsplit.trans hparts)⟩

/-! ## Rows with and without a role -/

/-- an element, and the same element with attributes that differ in the semantic role at most -/
inductive SameButRole : Node → Node → Prop
  | intro (name : String) {attributes others : List (String × String)} (children : List Node)
    (same : ∀ key, key ≠ "data-semantic-role" → others.lookup key = attributes.lookup key) :
    SameButRole (.element name attributes children) (.element name others children)

variable {shape : Shape} {split plain : Located}

/-- an element is of one kind whatever its semantic role -/
theorem SameButRole.kind {a b : Node} (h : SameButRole a b) (shape : Shape) : shape.kind b = shape.kind a := by
  obtain ⟨name, children, same⟩ := h
  cases shape
  · simp only [Shape.kind, Svg.kind, Node.nonempty?, Node.attr?, same "data-mml-node" (by decide)]
  · rfl
  · rfl

theorem SameButRole.children {a b : Node} (h : SameButRole a b) : b.children = a.children := by
  cases h
  rfl

/-- the parts of a row are the children that count -/
theorem partPlaces_row {place : Located} (h : shape.kind place.node = .row) :
    Formula.partPlaces shape place = countedChildren shape.kind place := by
  have hkind : shape.kind place.node ≠ .sqrt := by
    rw [h]
    decide
  rw [Formula.partPlaces, if_neg hkind]
  cases shape
  · rfl
  · have harguments : Chtml.arguments? place = none := by
      rw [Chtml.arguments?, show Chtml.kind place.node = .row from h]
    rw [Shape.children, Chtml.children, harguments]
    rfl
  · rfl

/-- a row has the same parts whatever its semantic role -/
theorem SameButRole.parts (h : SameButRole split.node plain.node) (hrow : shape.kind split.node = .row) :
    SameNodes (Formula.partPlaces shape plain) (Formula.partPlaces shape split) := by
  rw [SameNodes, partPlaces_row hrow, partPlaces_row ((h.kind shape).trans hrow), map_node_countedChildren,
    map_node_countedChildren, h.children]

/-- **The equality split agrees with the plain fold.** A row without bars that has one equals sign, not at its start and not behind
an application mark, comes to the same but for blanks with the role of an equality and without it, before and after its parentheses
are sized; unless the equals sign or a closing parenthesis behind it is an application mark itself. -/
theorem equality_split_agrees (shape : Shape) (hnodes : SameButRole split.node plain.node) (hrow : shape.kind split.node = .row)
    (hrole : split.node.attr? "data-semantic-role" = some "equality")
    (hplain : plain.node.attr? "data-semantic-role" ≠ some "equality")
    (hequation : IsEquation (Formula.read shape .default split).parts)
    (hmarks : ∀ part ∈ (Formula.read shape .default split).parts.dropWhile fun part => !part.isEquals,
      part.isEquals = true ∨ part.isFence ')' = true → part.isApplication = false) :
    squash (walkAt shape .default split).value = squash (walkAt shape .default plain).value ∧
      squash (convertAt shape .default split).value = squash (convertAt shape .default plain).value := by
  have hfacts : (Formula.read shape .default split).facts.role = some "equality" := by
    rw [Formula.facts_read]
    exact hrole
  obtain ⟨left, equals, right, hsides, hparts, hequals, hleft, hbehind⟩ := hequation.sides hfacts
  rw [hbehind, List.forall_mem_cons] at hmarks
  have hovert : ∀ part ∈ left ++ equals :: right, part.Overt := by
    rw [← hparts, Formula.parts_read, List.forall_mem_map]
    exact fun part _ => Formula.overt_read shape part
  have hequationLatex : rowLatex .default (left ++ equals :: right) =
      rowLatex .default left ++ [' ', '=', ' '] ++ rowLatex .default right :=
    rowLatex_equation hequals (hparts ▸ hequation.barless) hovert hleft (hmarks.1 (.inl hequals))
      fun part hpart hclosing => hmarks.2 part hpart (.inr hclosing)
  have hsplit : (walkAt shape .default split).value = rowLatex .default left ++ ['='] ++ rowLatex .default right := by
    have hlatex : (walkAt shape .default split).value = (Formula.read shape .default split).sidesLatex .default :=
      latex_row ((Formula.kind_read shape .default split).trans hrow)
    rw [hlatex, Formula.sidesLatex, hsides, List.append_assoc]
    rfl
  have hfold : (walkAt shape .default plain).value = rowLatex .default left ++ [' ', '=', ' '] ++ rowLatex .default right := by
    have hlatex : (walkAt shape .default plain).value = (Formula.read shape .default plain).sidesLatex .default :=
      latex_row ((Formula.kind_read shape .default plain).trans ((hnodes.kind shape).trans hrow))
    have hnone : (Formula.read shape .default plain).sides? = none := by
      rw [Formula.sides?, Formula.facts_read, if_neg]
      rw [Bool.and_eq_true, decide_eq_true_eq]
      exact fun h => hplain h.1
    rw [hlatex, Formula.sidesLatex, hnone, ← hequationLatex, ← hparts, Formula.parts_read, Formula.parts_read]
    exact rowLatex_congr shape .default (hnodes.parts hrow)
  have hsquash : squash [' ', '=', ' '] = squash ['='] := rfl
  constructor
  · rw [hsplit, hfold, squash_append, squash_append, squash_append, squash_append, hsquash]
  · rw [convertAt, convertAt, convertWalk, convertWalk, hsplit, hfold]
    exact (squash_sized_around (by decide +kernel) (by decide) _ _).symm

/-- a row of plain MathML with a role of its own; each leaf has a name, a role and a text -/
def roledRow (role : Option String) (leaves : List (String × Option String × String)) : Located :=
  .top (.element "mrow" (role.toList.map (("data-semantic-role", ·))) (leaves.map fun (name, role, text) =>
    .element name (role.toList.map (("data-semantic-role", ·))) [.text .plain text]))

theorem sameButRole_roledRow (role other : Option String) (leaves : List (String × Option String × String)) :
    SameButRole (roledRow role leaves).node (roledRow other leaves).node := by
  refine .intro "mrow" _ fun key hkey => ?_
  cases role <;> cases other <;> simp [hkey]

/-- an equation as the argument of a function -/
def equationArgument : List (String × Option String × String) :=
  [("mi", none, "f"), ("mo", none, "\u2061"), ("mo", none, "("), ("mi", none, "a"), ("mo", none, "="), ("mi", none, "b"),
    ("mo", none, ")")]

theorem equality_split_agrees_of_argument :
    (walkAt .mathml .default (roledRow (some "equality") equationArgument)).value = "f(a=b)".toList ∧
      squash (walkAt .mathml .default (roledRow none equationArgument)).value = "f(a=b)".toList ∧
      squash (convertAt .mathml .default (roledRow none equationArgument)).value = "f\\left(a=b\\right)".toList := by
  obtain ⟨hwalk, hconvert⟩ := equality_split_agrees .mathml (sameButRole_roledRow (some "equality") none equationArgument)
    (by decide +kernel) (by decide +kernel) (by decide +kernel) (by decide +kernel) (by decide +kernel)
  refine ⟨by decide +kernel, ?_, ?_⟩
  · rw [← hwalk]
    decide +kernel
  · rw [← hconvert]
    decide +kernel

/-- an equals sign that applies what is before it to what is behind it -/
def markedEquals : List (String × Option String × String) :=
  [("mi", none, "f"), ("mo", some "application", "="), ("mi", none, "x")]

/-- a function of an equation, up to a closing parenthesis that is an application mark -/
def markedClosing : List (String × Option String × String) :=
  [("mi", none, "f"), ("mo", none, "\u2061"), ("mo", none, "("), ("mi", none, "a"), ("mo", none, "="), ("mi", none, "g"),
    ("mo", some "application", ")"), ("mi", none, "x")]

/-- **what limits this**: without the role, an equals sign that is an application mark is not written, and a closing parenthesis that
is one ends a group; with the role, it applies the identifier before it -/
theorem equality_split_differs :
    (IsEquation (Formula.read .mathml .default (roledRow none markedEquals)).parts ∧
      (walkAt .mathml .default (roledRow (some "equality") markedEquals)).value = "f=x".toList ∧
      (walkAt .mathml .default (roledRow none markedEquals)).value = "f(x)".toList) ∧
    (IsEquation (Formula.read .mathml .default (roledRow none markedClosing)).parts ∧
      (walkAt .mathml .default (roledRow (some "equality") markedClosing)).value = "f(a=g(x)".toList ∧
      (walkAt .mathml .default (roledRow none markedClosing)).value = "f(a = gx".toList) := by
  decide +kernel

end Untypeset
