import Mathlib.Data.List.Nodup
import Mathlib.Data.List.Shortlex
import Untypeset.Markup.Located

/-!
Places by their paths. What stands below a place has a path that goes on from there (`path_of_mem_descendants`) and has the place
among the elements around it (`ancestors_of_mem_descendants`). One place comes before another if its path is shorter, or as
long and smaller where the two part first: the order in which the levels of a tree are read. Places whose paths part are
apart: neither holds the other.
-/

namespace Untypeset.Markup

namespace Located

variable {place below a b : Located}

/-! ## Below a place -/

theorem subtree_eq (place : Located) : subtree place.trail place.node = place :: place.descendants := by
  obtain ⟨node, trail⟩ := place
  cases node <;> rfl

theorem subtrees_eq (parent : Node) (trail : List (Nat × Node)) (index : Nat) (nodes : List Node) :
    subtrees parent trail index nodes =
      (siblings parent trail index nodes).flatMap fun sibling => sibling :: sibling.descendants := by
  induction nodes generalizing index with
  | nil => rfl
  | cons node rest ih =>
    rw [subtrees, siblings, List.flatMap_cons, ih, ← subtree_eq]

/-- what stands below a place are its children, each followed by what stands below it -/
theorem descendants_eq (place : Located) :
    place.descendants = place.children.flatMap fun child => child :: child.descendants :=
  subtrees_eq ..

theorem mem_descendants_iff :
    below ∈ place.descendants ↔ ∃ child ∈ place.children, below = child ∨ below ∈ child.descendants := by
  rw [descendants_eq, List.mem_flatMap]
  simp only [List.mem_cons]

theorem mem_descendants_of_child (h : below ∈ place.children) : below ∈ place.descendants :=
  mem_descendants_iff.2 ⟨below, h, .inl rfl⟩

theorem exists_of_mem_siblings {parent : Node} {trail : List (Nat × Node)} {index : Nat} {nodes : List Node}
    (h : place ∈ siblings parent trail index nodes) : ∃ i, index ≤ i ∧ place.trail = (i, parent) :: trail := by
  induction nodes generalizing index with
  | nil => cases h
  | cons node rest ih =>
    rcases List.mem_cons.1 h with rfl | h
    · exact ⟨index, Nat.le_refl _, rfl⟩
    · obtain ⟨i, hi, htrail⟩ := ih h
      exact ⟨i, by omega, htrail⟩

theorem trail_of_mem_children (h : below ∈ place.children) : ∃ i, below.trail = (i, place.node) :: place.trail := by
  obtain ⟨i, -, htrail⟩ := exists_of_mem_siblings h
  exact ⟨i, htrail⟩

/-- what holds of the children and is passed on from a place to what stands below it holds of everything below -/
theorem forall_mem_descendants {P : Located → Located → Prop} (child : ∀ {place below}, below ∈ place.children → P place below)
    (trans : ∀ {place upper below}, upper ∈ place.children → below ∈ upper.descendants → P upper below → P place below)
    (place : Located) :
    ∀ below ∈ place.descendants, P place below := by
  intro below h
  obtain ⟨upper, hupper, rfl | hbelow⟩ := mem_descendants_iff.1 h
  · exact child hupper
  · exact trans hupper hbelow (forall_mem_descendants child trans upper below hbelow)
termination_by place.node.size
decreasing_by exact children_lt hupper

theorem mem_descendants_trans (hupper : a ∈ place.descendants) (h : below ∈ a.descendants) : below ∈ place.descendants := by
  refine forall_mem_descendants (P := fun place upper => ∀ below ∈ upper.descendants, below ∈ place.descendants) ?_ ?_ place a
    hupper below h
  · intro place upper hchild below hbelow
    exact mem_descendants_iff.2 ⟨upper, hchild, .inr hbelow⟩
  · intro place child upper hchild _ hP below hbelow
    exact mem_descendants_iff.2 ⟨child, hchild, .inr (hP below hbelow)⟩

/-! ## Paths -/

theorem path_of_trail {i : Nat} {node : Node} (h : below.trail = (i, node) :: place.trail) : below.path = place.path ++ [i] := by
  rw [path, path, h, List.map_cons, List.reverse_cons]

theorem path_of_mem_children (h : below ∈ place.children) : ∃ i, below.path = place.path ++ [i] := by
  obtain ⟨i, htrail⟩ := trail_of_mem_children h
  exact ⟨i, path_of_trail htrail⟩

theorem path_of_mem_descendants (h : below ∈ place.descendants) : ∃ i rest, below.path = place.path ++ i :: rest := by
  refine forall_mem_descendants (P := fun place below => ∃ i rest, below.path = place.path ++ i :: rest) ?_ ?_ place below h
  · intro place child hchild
    obtain ⟨i, hpath⟩ := path_of_mem_children hchild
    exact ⟨i, [], hpath⟩
  · rintro place child below hchild - ⟨j, rest, hbelow⟩
    obtain ⟨i, hpath⟩ := path_of_mem_children hchild
    exact ⟨i, j :: rest, by rw [hbelow, hpath, List.append_assoc, List.singleton_append]⟩

theorem ancestors_of_mem_children (h : below ∈ place.children) : below.ancestors = place :: place.ancestors := by
  obtain ⟨i, htrail⟩ := trail_of_mem_children h
  rw [ancestors, htrail]
  rfl

/-- the elements around what stands below a place: some between the two, the place, and those around it -/
theorem ancestors_of_mem_descendants (h : below ∈ place.descendants) :
    ∃ between, below.ancestors = between ++ place :: place.ancestors ∧
      ∀ upper ∈ between, upper ∈ place.descendants ∧ below ∈ upper.descendants := by
  refine forall_mem_descendants (P := fun place below => ∃ between, below.ancestors = between ++ place :: place.ancestors ∧
    ∀ upper ∈ between, upper ∈ place.descendants ∧ below ∈ upper.descendants) ?_ ?_ place below h
  · intro place child hchild
    exact ⟨[], ancestors_of_mem_children hchild, nofun⟩
  · rintro place child below hchild hinside ⟨between, hancestors, hbetween⟩
    refine ⟨between ++ [child], ?_, ?_⟩
    · rw [hancestors, ancestors_of_mem_children hchild, List.append_assoc, List.singleton_append]
    · intro upper hupper
      rcases List.mem_append.1 hupper with hupper | hupper
      · obtain ⟨habove, hbelow⟩ := hbetween upper hupper
        exact ⟨mem_descendants_iff.2 ⟨child, hchild, .inr habove⟩, hbelow⟩
      · rw [List.mem_singleton.1 hupper]
        exact ⟨mem_descendants_of_child hchild, hinside⟩

/-! ## The order of levels -/

/-- one place comes before another where a tree is read level by level -/
def Before (a b : Located) : Prop :=
  List.Shortlex (· < ·) a.path b.path

theorem Before.asymm (h : Before a b) : ¬ Before b a :=
  Std.Asymm.asymm (r := List.Shortlex (α := Nat) (· < ·)) _ _ h

theorem Before.ne (h : Before a b) : a ≠ b := by
  rintro rfl
  exact h.asymm h

theorem before_of_length (h : a.path.length < b.path.length) : Before a b :=
  List.Shortlex.of_length_lt h

theorem before_of_mem_descendants (h : below ∈ place.descendants) : Before place below := by
  obtain ⟨i, rest, hpath⟩ := path_of_mem_descendants h
  apply before_of_length
  rw [hpath]
  simp

theorem siblings_pairwise (parent : Node) (trail : List (Nat × Node)) (index : Nat) (nodes : List Node) :
    (siblings parent trail index nodes).Pairwise Before := by
  induction nodes generalizing index with
  | nil => exact .nil
  | cons node rest ih =>
    refine .cons ?_ (ih _)
    intro sibling hsibling
    obtain ⟨i, hi, htrail⟩ := exists_of_mem_siblings hsibling
    rw [Before, path, path, htrail, List.map_cons, List.map_cons, List.reverse_cons, List.reverse_cons]
    apply List.Shortlex.append_left
    exact (List.shortlex_singleton_iff _ _).2 hi

theorem children_pairwise (place : Located) : place.children.Pairwise Before :=
  siblings_pairwise ..

theorem lex_append {s t : List Nat} (h : List.Lex (· < ·) s t) (hlength : s.length = t.length) (u v : List Nat) :
    List.Lex (· < ·) (s ++ u) (t ++ v) := by
  induction h with
  | nil => cases hlength
  | cons _ ih => exact .cons (ih (Nat.succ.inj hlength))
  | rel hr => exact .rel hr

/-- what is below comes in the order of what is above -/
theorem Before.children (h : Before a b) (hlength : a.path.length = b.path.length) {x y : Located} (hx : x ∈ a.children)
    (hy : y ∈ b.children) : Before x y := by
  obtain ⟨i, hi⟩ := path_of_mem_children hx
  obtain ⟨j, hj⟩ := path_of_mem_children hy
  apply List.Shortlex.of_lex
  · rw [hi, hj, List.length_append, List.length_append, hlength]
    rfl
  · rw [hi, hj]
    exact lex_append ((List.shortlex_iff_lex hlength).1 h) hlength _ _

/-! ## No path twice -/

theorem prefix_of_mem_subtree (h : below ∈ place :: place.descendants) : place.path <+: below.path := by
  rcases List.mem_cons.1 h with rfl | h
  · exact List.prefix_refl _
  · obtain ⟨i, rest, hpath⟩ := path_of_mem_descendants h
    exact ⟨_, hpath.symm⟩

/-- what stands below two children has different paths -/
theorem disjoint_paths {child other : Located} (hchild : child ∈ place.children) (hother : other ∈ place.children)
    (h : Before child other) :
    List.Disjoint ((child :: child.descendants).map path) ((other :: other.descendants).map path) := by
  intro p hp hq
  obtain ⟨below, hbelow, rfl⟩ := List.mem_map.1 hp
  obtain ⟨beside, hbeside, hpath⟩ := List.mem_map.1 hq
  obtain ⟨i, hi⟩ := path_of_mem_children hchild
  obtain ⟨j, hj⟩ := path_of_mem_children hother
  have hlength : child.path.length = other.path.length := by
    rw [hi, hj, List.length_append, List.length_append]
    rfl
  have hsame : child.path = other.path :=
    List.IsPrefix.eq_of_length
      (List.prefix_of_prefix_length_le (prefix_of_mem_subtree hbelow) (hpath ▸ prefix_of_mem_subtree hbeside) hlength.le)
      hlength
  rw [Before, hsame] at h
  exact Std.Irrefl.irrefl (r := List.Shortlex (α := Nat) (· < ·)) _ h

/-- a place and what stands below it have different paths -/
theorem nodup_paths (place : Located) : ((place :: place.descendants).map path).Nodup := by
  rw [List.map_cons, List.nodup_cons]
  constructor
  · intro h
    obtain ⟨below, hbelow, hpath⟩ := List.mem_map.1 h
    obtain ⟨i, rest, hlonger⟩ := path_of_mem_descendants hbelow
    have hlength := congrArg List.length (hlonger.symm.trans hpath)
    simp at hlength
  · rw [descendants_eq, List.map_flatMap, List.nodup_flatMap]
    constructor
    · intro child hchild
      exact nodup_paths child
    · exact (children_pairwise place).imp_of_mem fun hchild hother h => disjoint_paths hchild hother h
termination_by place.node.size
decreasing_by exact children_lt hchild

/-! ## Places apart -/

/-- neither of two places holds the other -/
def Apart (a b : Located) : Prop :=
  a ∉ b.descendants ∧ b ∉ a.descendants

theorem Apart.symm (h : Apart a b) : Apart b a :=
  ⟨h.2, h.1⟩

instance : Std.Symm Apart where
  symm _ _ h := h.symm

/-- two places are apart if neither path goes on from the other -/
theorem apart_of_paths (hab : ¬ a.path <+: b.path) (hba : ¬ b.path <+: a.path) : Apart a b := by
  constructor
  · intro h
    obtain ⟨i, rest, hpath⟩ := path_of_mem_descendants h
    exact hba ⟨_, hpath.symm⟩
  · intro h
    obtain ⟨i, rest, hpath⟩ := path_of_mem_descendants h
    exact hab ⟨_, hpath.symm⟩

end Located

end Untypeset.Markup
