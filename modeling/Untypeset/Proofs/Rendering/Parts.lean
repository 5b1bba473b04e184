import Mathlib.Data.List.Pairwise
import Untypeset.Proofs.Rendering.Levels

/-!
When the parts of a structure are apart. Siblings always are. Boxes that are looked for by name are found each on its own, and
a box of one part may hold an element that has the name of another part and comes before the other part's own box: it shadows
that box, and is taken in its place. Parts are apart exactly where nothing is shadowed (`parts_apart_iff`). In a structure
with limits on both sides the base lies deeper than the upper limit, so that the base of a bar in this limit does shadow it
(`upper_limit_shadows_base`).
-/

namespace Untypeset.Rendering.Chtml

open Untypeset.Markup

variable {place outer found a b : Located} {name : String} {parts : List Located}

/-! ## Siblings -/

/-- children of one place, or of two places of one depth, are apart if one comes before the other -/
theorem apart_of_before (hlength : a.path.length = b.path.length) (h : a.Before b) : a.Apart b := by
  have hne : a.path ≠ b.path := by
    intro heq
    rw [Located.Before, heq] at h
    exact Std.Irrefl.irrefl (r := List.Shortlex (α := Nat) (· < ·)) _ h
  apply Located.apart_of_paths
  · intro hpath
    exact hne (hpath.eq_of_length hlength)
  · intro hpath
    exact hne (hpath.eq_of_length hlength.symm).symm

/-- neither the same nor one in the other -/
def Separate (a b : Located) : Prop :=
  a ≠ b ∧ a.Apart b

theorem separate_counted (place : Located) : (counted place).Pairwise Separate := by
  have hpairwise : (counted place).Pairwise Located.Before := place.children_pairwise.filter _
  refine hpairwise.imp_of_mem ?_
  intro a b ha hb h
  refine ⟨h.ne, apart_of_before ?_ h⟩
  rw [length_path_of_child (List.mem_filter.1 ha).1, length_path_of_child (List.mem_filter.1 hb).1]

/-- what holds a child of a place is the place or holds the place -/
theorem eq_or_mem_of_child_mem {child upper : Located} (hchild : child ∈ upper.children) (h : child ∈ outer.descendants) :
    upper = outer ∨ upper ∈ outer.descendants := by
  obtain ⟨between, hancestors, hbetween⟩ := Located.ancestors_of_mem_descendants h
  rw [Located.ancestors_of_mem_children hchild] at hancestors
  cases between with
  | nil => exact .inl (List.cons.inj hancestors).1
  | cons first rest =>
    right
    rw [(List.cons.inj hancestors).1]
    exact (hbetween first List.mem_cons_self).1

theorem Separate.symm (h : Separate a b) : Separate b a :=
  ⟨h.1.symm, h.2.symm⟩

/-- what is separate from a place is separate from its children -/
theorem Separate.child (h : Separate a b) {child : Located} (hchild : child ∈ b.children) : Separate a child := by
  refine ⟨?_, ?_, ?_⟩
  · rintro rfl
    exact h.2.1 (Located.mem_descendants_of_child hchild)
  · intro hmem
    exact h.2.1 (Located.mem_descendants_iff.2 ⟨child, hchild, .inr hmem⟩)
  · intro hmem
    rcases eq_or_mem_of_child_mem hchild hmem with heq | hmem
    · exact h.1 heq.symm
    · exact h.2.2 hmem

theorem separate_firstTwo? {places : List Located} (hplaces : places.Pairwise Separate) (h : firstTwo? places = some parts) :
    parts.Pairwise Separate := by
  unfold firstTwo? at h
  split at h
  · cases h
    rename_i base script rest
    exact hplaces.sublist (List.sublist_append_left [base, script] rest)
  · cases h

theorem separate_stacked? {places : List Located} (hplaces : places.Pairwise Separate) (h : stacked? places = some parts) :
    parts.Pairwise Separate := by
  unfold stacked? at h
  split at h
  · rename_i base scripts rest
    have hscripts : Separate base scripts := (List.pairwise_cons.1 hplaces).1 scripts List.mem_cons_self
    split at h
    · split at h
      · rename_i upper lower more hcounted
        cases h
        have hinside : ∀ script ∈ upper :: lower :: more, Separate base script := by
          intro script hscript
          rw [← hcounted] at hscript
          exact hscripts.child (List.mem_filter.1 hscript).1
        have hstack := separate_counted scripts
        rw [hcounted] at hstack
        have hupper : Separate upper lower := (List.pairwise_cons.1 hstack).1 lower List.mem_cons_self
        simp [hinside, hupper.symm]
      · cases h
    · cases h
  · cases h

/-! ## Boxes -/

/-- the names by which the boxes of a structure are looked for -/
def soughtNames : Kind → List String
  | .fraction => ["mjx-num", "mjx-den"]
  | .under => ["mjx-base", "mjx-under"]
  | .underover => ["mjx-base", "mjx-under", "mjx-over"]
  | .over => ["mjx-base", "mjx-over"]
  | .root => ["mjx-root", "mjx-sqrt"]
  | _ => []

/-- inside a part there is an element of a name that comes before all elements of this name outside of the part -/
def Shadows (place outer : Located) (name : String) : Prop :=
  ∃ inner ∈ outer.descendants, inner.node.isNamed name = true ∧
    ∀ other ∈ place.descendants, other.node.isNamed name = true → other ∉ outer.descendants → inner.Before other

/-- a name is shadowed where the search for it ends inside a part -/
theorem shadows_iff (houter : outer ∈ place.descendants) :
    Shadows place outer name ↔ ∃ found, shallowest? place name = some found ∧ found ∈ outer.descendants := by
  constructor
  · rintro ⟨inner, hinner, hnamed, hfirst⟩
    have hbelow : inner ∈ place.descendants := Located.mem_descendants_trans houter hinner
    cases hfound : shallowest? place name with
    | none =>
      have hnone := shallowest?_eq_none_iff.1 hfound inner hbelow
      rw [hnamed] at hnone
      cases hnone
    | some found =>
      refine ⟨found, rfl, ?_⟩
      obtain ⟨hmem, hname, hleast⟩ := shallowest?_eq_some_iff.1 hfound
      by_contra hout
      rcases hleast inner hbelow hnamed with rfl | hbefore
      · exact hout hinner
      · exact hbefore.asymm (hfirst found hmem hname hout)
  · rintro ⟨found, hfound, hmem⟩
    obtain ⟨-, hname, hleast⟩ := shallowest?_eq_some_iff.1 hfound
    refine ⟨found, hmem, hname, ?_⟩
    intro other hother hnamed hout
    rcases hleast other hother hnamed with rfl | hbefore
    · exact absurd hmem hout
    · exact hbefore

theorem not_mem_descendants_self (place : Located) : place ∉ place.descendants := by
  intro h
  exact (Located.before_of_mem_descendants h).ne rfl

/-- parts are apart if none is in another, whichever comes first -/
theorem pairwise_apart_iff : parts.Pairwise Located.Apart ↔ ∀ a ∈ parts, ∀ b ∈ parts, a ∉ b.descendants := by
  constructor
  · intro h a ha b hb
    by_cases heq : a = b
    · subst heq
      exact not_mem_descendants_self a
    · exact (h.forall ha hb heq).1
  · intro h
    exact List.pairwise_of_forall_mem_list fun a ha b hb => ⟨h a ha b hb, h b hb a ha⟩

/-- the boxes are those found for the names -/
theorem mem_boxes? {names : List String} (h : boxes? place names = some parts) :
    found ∈ parts ↔ ∃ name ∈ names, shallowest? place name = some found := by
  induction names generalizing parts with
  | nil =>
    cases h
    simp
  | cons name names ih =>
    obtain ⟨box, hbox, hrest⟩ := Option.bind_eq_some_iff.1 h
    obtain ⟨rest, htail, rfl⟩ := Option.map_eq_some_iff.1 hrest
    simp only [List.mem_cons, ih htail, exists_eq_or_imp, hbox, Option.some.injEq]
    exact or_congr_left eq_comm

theorem name_unique {node : Node} {other : String} (h : node.isNamed name = true) (h' : node.isNamed other = true) :
    name = other := by
  rw [Node.isNamed, beq_iff_eq] at h h'
  exact Option.some.inj (h.symm.trans h')

theorem isNamed_of_shallowest? (h : shallowest? place name = some found) : found.node.isNamed name = true :=
  (shallowest?_eq_some_iff.1 h).2.1

theorem mem_of_shallowest? (h : shallowest? place name = some found) : found ∈ place.descendants :=
  (shallowest?_eq_some_iff.1 h).1

theorem ne_of_boxes? {names : List String} (hnames : names.Nodup) (h : boxes? place names = some parts) :
    parts.Pairwise (· ≠ ·) := by
  induction names generalizing parts with
  | nil =>
    cases h
    exact .nil
  | cons name names ih =>
    obtain ⟨box, hbox, hrest⟩ := Option.bind_eq_some_iff.1 h
    obtain ⟨rest, htail, rfl⟩ := Option.map_eq_some_iff.1 hrest
    obtain ⟨hname, hnames⟩ := List.nodup_cons.1 hnames
    refine .cons ?_ (ih hnames htail)
    rintro _ hmem rfl
    obtain ⟨other, hother, hfound⟩ := (mem_boxes? htail).1 hmem
    rw [name_unique (isNamed_of_shallowest? hbox) (isNamed_of_shallowest? hfound)] at hname
    exact hname hother

/-- the parts are different, and they are apart exactly if none shadows one of the names -/
def ApartUnlessShadowed (place : Located) (names : List String) (parts : List Located) : Prop :=
  parts.Pairwise (· ≠ ·) ∧
    (parts.Pairwise Located.Apart ↔ ∀ outer ∈ parts, ∀ name ∈ names, ¬ Shadows place outer name)

theorem apartUnlessShadowed_of_separate (h : parts.Pairwise Separate) : ApartUnlessShadowed place [] parts := by
  refine ⟨h.imp fun hab => hab.1, ?_⟩
  simp [h.imp fun hab => hab.2]

theorem apartUnlessShadowed_boxes {names : List String} (hnames : names.Nodup) (h : boxes? place names = some parts) :
    ApartUnlessShadowed place names parts := by
  have hbelow : ∀ outer ∈ parts, outer ∈ place.descendants := by
    intro outer houter
    obtain ⟨name, -, hfound⟩ := (mem_boxes? h).1 houter
    exact mem_of_shallowest? hfound
  refine ⟨ne_of_boxes? hnames h, ?_⟩
  rw [pairwise_apart_iff]
  constructor
  · intro hapart outer houter name hname hshadows
    obtain ⟨found, hfound, hmem⟩ := (shadows_iff (hbelow outer houter)).1 hshadows
    exact hapart found ((mem_boxes? h).2 ⟨name, hname, hfound⟩) outer houter hmem
  · intro hclear a ha b hb hmem
    obtain ⟨name, hname, hfound⟩ := (mem_boxes? h).1 ha
    exact hclear b hb name hname ((shadows_iff (hbelow b hb)).2 ⟨a, hfound, hmem⟩)

theorem kind_of_isNamed_sqrt {node : Node} (h : node.isNamed "mjx-sqrt" = true) : kind node = .sqrt := by
  cases node with
  | text => cases h
  | element tag attributes nodes =>
    rw [Node.isNamed, beq_iff_eq] at h
    cases h
    rfl

/-- the parts of a root: what stands under the radical is apart from the index if the radical is -/
theorem apartUnlessShadowed_root {index box : Located} (hkind : kind place.node = .root)
    (hindex : shallowest? place "mjx-root" = some index) (hbox : radicalBox? place = some box) :
    ApartUnlessShadowed place ["mjx-root", "mjx-sqrt"] [box, index] := by
  have hnot : place.node.isNamed "mjx-sqrt" = false := by
    rw [Bool.eq_false_iff]
    intro hname
    rw [kind_of_isNamed_sqrt hname] at hkind
    cases hkind
  obtain ⟨radical, hradical, hfind⟩ := Option.bind_eq_some_iff.1 hbox
  rw [radical?, if_neg (by simp [hnot])] at hradical
  have hchild : box ∈ radical.children := List.mem_of_find?_eq_some hfind
  have hboxNamed : box.node.isNamed "mjx-box" = true := by
    simpa using List.find?_some hfind
  have hinside : box ∈ radical.descendants := Located.mem_descendants_of_child hchild
  have hboxBelow : box ∈ place.descendants := Located.mem_descendants_trans (mem_of_shallowest? hradical) hinside
  have hradicalOut : radical ∉ box.descendants := fun hmem =>
    not_mem_descendants_self box (Located.mem_descendants_trans hmem hinside)
  have hradicalIn : radical ∈ index.descendants ↔ box ∈ index.descendants := by
    constructor
    · intro hmem
      exact Located.mem_descendants_trans hmem hinside
    · intro hmem
      rcases eq_or_mem_of_child_mem hchild hmem with rfl | hmem
      · exact absurd (name_unique (isNamed_of_shallowest? hradical) (isNamed_of_shallowest? hindex)) (by decide)
      · exact hmem
  refine ⟨?_, ?_⟩
  · rw [List.pairwise_pair]
    rintro rfl
    exact absurd (name_unique hboxNamed (isNamed_of_shallowest? hindex)) (by decide)
  · rw [pairwise_apart_iff]
    simp only [List.forall_mem_cons, List.not_mem_nil, false_imp_iff, implies_true, and_true,
      shadows_iff hboxBelow, shadows_iff (mem_of_shallowest? hindex), hindex, hradical, Option.some.injEq, exists_eq_left',
      not_mem_descendants_self, not_false_eq_true, true_and, hradicalOut, hradicalIn]
    exact and_comm

theorem apartUnlessShadowed_arguments (h : arguments? place = some parts) :
    ApartUnlessShadowed place (soughtNames (kind place.node)) parts := by
  unfold arguments? at h
  split at h <;> rename_i hkind <;> try rw [hkind]
  · exact apartUnlessShadowed_boxes (by decide) h
  · exact apartUnlessShadowed_of_separate (separate_firstTwo? (separate_counted place) h)
  · exact apartUnlessShadowed_of_separate (separate_firstTwo? (separate_counted place) h)
  · exact apartUnlessShadowed_of_separate (separate_stacked? (separate_counted place) h)
  · exact apartUnlessShadowed_boxes (by decide) h
  · exact apartUnlessShadowed_boxes (by decide) h
  · exact apartUnlessShadowed_boxes (by decide) h
  · obtain ⟨index, hindex, hrest⟩ := Option.bind_eq_some_iff.1 h
    obtain ⟨box, hbox, rfl⟩ := Option.map_eq_some_iff.1 hrest
    exact apartUnlessShadowed_root hkind hindex hbox
  · cases h

/-- **parts are apart unless one shadows another**: the structural children of a styled box are different places, and none
lies in another exactly if, where the boxes of a structure are looked for by name and all found, no part holds an element of
such a name that comes, level by level, before all those outside of the part -/
theorem parts_apart_iff (place : Located) :
    (children place).Pairwise (· ≠ ·) ∧
      ((children place).Pairwise Located.Apart ↔
        ((arguments? place).isSome = true → ∀ outer ∈ children place, ∀ name ∈ soughtNames (kind place.node),
          ¬ Shadows place outer name)) := by
  unfold children
  cases hargs : arguments? place with
  | none =>
    have hcounted := separate_counted place
    refine ⟨hcounted.imp fun hab => hab.1, ?_⟩
    simp [hcounted.imp fun hab => hab.2]
  | some parts =>
    have hparts := apartUnlessShadowed_arguments hargs
    exact ⟨hparts.1, by simpa using hparts.2⟩

/-! ## A base that is shadowed -/

/-- a glyph in an element of its own -/
def glyphIn (name code : String) : Node :=
  .element name [] [.element "mjx-c" [("class", "mjx-c" ++ code)] []]

/-- an n with a bar over it -/
def barred : Node :=
  .element "mjx-mover" [] [.element "mjx-over" [] [glyphIn "mjx-mo" "2C9"], .element "mjx-base" [] [glyphIn "mjx-mi" "6E"]]

/-- a sum from i up to a barred n: the upper limit stands over a table of the base and the lower limit -/
def sumToBarred : Node :=
  .element "mjx-munderover" [] [.element "mjx-over" [] [barred],
    .element "mjx-box" [] [.element "mjx-munder" [] [
      .element "mjx-row" [] [.element "mjx-base" [] [glyphIn "mjx-mo" "2211"]],
      .element "mjx-row" [] [.element "mjx-under" [] [glyphIn "mjx-mi" "69"]]]]]

/-- the upper limit of the sum -/
def upperLimit : Located :=
  ⟨.element "mjx-over" [] [barred], [(0, sumToBarred)]⟩

/-- the base of the bar -/
def baseOfBar : Located :=
  ⟨.element "mjx-base" [] [glyphIn "mjx-mi" "6E"], [(1, barred), (0, upperLimit.node), (0, sumToBarred)]⟩

theorem children_sumToBarred : ∃ under, children (Located.top sumToBarred) = [baseOfBar, under, upperLimit] := by
  refine ⟨?_, ?_⟩
  rotate_left
  · simp [children, arguments?, Located.top, boxes?, shallowest?, elementsOf, sumToBarred, barred, searchLevels?,
      Located.children, Located.siblings, Node.children, Node.isElement, List.find?, Node.isNamed, Node.name?, glyphIn,
      upperLimit, baseOfBar]
    rfl

/-- the base of the bar is taken for the base of the sum, and it lies in the upper limit -/
theorem upper_limit_shadows_base : ¬ (children (Located.top sumToBarred)).Pairwise Located.Apart := by
  obtain ⟨under, hchildren⟩ := children_sumToBarred
  have hinside : baseOfBar ∈ upperLimit.descendants := by
    simp [upperLimit, baseOfBar, Located.descendants, Located.subtrees, Located.subtree, Node.children, barred, glyphIn]
  rw [hchildren, pairwise_apart_iff]
  intro hapart
  exact hapart baseOfBar (by simp) upperLimit (by simp) hinside

end Untypeset.Rendering.Chtml
