import Mathlib.Data.List.TakeWhile
import Untypeset.Markup.Parse
import Untypeset.Markup.Select
import Untypeset.Proofs.Markup.Nodes
import Untypeset.Proofs.Text.Case

/-!
The elements of a document and the tags that they are written as. Every element that is read has an opening tag among the tokens:
it has the name of the tag and its attributes, the values of these in their stored spelling (`hasTag_of_parse`). Tags are read
in lower case, so no name in a document has a capital ASCII letter (`folded_of_parse`), and selectors, which overlook the case
of such letters, find there what has exactly the name they give.
-/

namespace Untypeset.Markup

open Untypeset.Text

/-- whether a name has no capital ASCII letters -/
def IsFolded (name : String) : Prop :=
  foldedName name = name.toList

theorem isFolded_lowerCase (s : List Char) : IsFolded (String.ofList (lowerCase s)) := by
  rw [IsFolded, foldedName, String.toList_ofList, map_toLower_lowerCase]

/-! ## Tokens -/

/-- whether no name in a tag has a capital ASCII letter -/
def Token.IsFolded : Token → Prop
  | .opening name attributes _ => Markup.IsFolded name ∧ ∀ entry ∈ attributes, Markup.IsFolded entry.1
  | .text _ | .closing _ | .special .. | .fault _ => True

/-- whether this holds of all tokens -/
def AllFolded (tokens : List Token) : Prop :=
  ∀ token ∈ tokens, token.IsFolded

theorem AllFolded.nil : AllFolded [] :=
  nofun

theorem AllFolded.single {token : Token} (h : token.IsFolded) : AllFolded [token] :=
  List.forall_mem_singleton.2 h

theorem AllFolded.append {a b : List Token} (ha : AllFolded a) (hb : AllFolded b) : AllFolded (a ++ b) :=
  List.forall_mem_append.2 ⟨ha, hb⟩

/-- the names of attributes are read in lower case -/
theorem folded_takeAttributes (before : Char) (s : List Char) : ∀ entry ∈ (takeAttributes before s).1, IsFolded entry.1 := by
  fun_induction takeAttributes before s with
  | case1 => exact nofun
  | case2 before c rest _ name _ _ _ _ _ _ _ entries last hrest ih =>
    rw [hrest] at ih
    exact List.forall_mem_cons.2 ⟨isFolded_lowerCase _, ih⟩
  | case3 => exact List.forall_mem_singleton.2 (isFolded_lowerCase _)
  | case4 => exact nofun

/-- no attribute is made up where several have one name -/
theorem mergeAttributes_subset (entries : List (String × String)) : mergeAttributes entries ⊆ entries := by
  suffices hfold : ∀ merged all, merged ⊆ all → entries ⊆ all → entries.foldl _ merged ⊆ all from
    hfold [] entries (List.nil_subset _) (List.Subset.refl _)
  induction entries with
  | nil => exact fun _ _ hmerged _ => hmerged
  | cons entry rest ih =>
    intro merged all hmerged hall
    obtain ⟨hentry, hrest⟩ := List.cons_subset.1 hall
    refine ih _ all ?_ hrest
    intro kept hkept
    dsimp only at hkept
    split at hkept
    · obtain ⟨old, hold, rfl⟩ := List.mem_map.1 hkept
      split
      · exact hentry
      · exact hmerged hold
    · rcases List.mem_append.1 hkept with hkept | hkept
      · exact hmerged hkept
      · rw [List.mem_singleton.1 hkept]
        exact hentry

theorem folded_readAttributes {entries : List (String × List Char)} (h : ∀ entry ∈ entries, IsFolded entry.1) :
    ∀ entry ∈ readAttributes entries, IsFolded entry.1 := by
  intro entry hentry
  obtain ⟨read, hread, rfl⟩ := List.mem_map.1 (mergeAttributes_subset _ hentry)
  exact h read hread

variable {s : List Char} {taken : Taken (List Token)}

theorem folded_takeOpening (h : takeOpening? s = some taken) : AllFolded taken.1 := by
  unfold takeOpening? at h
  obtain ⟨found, hfound, rfl⟩ := Option.map_eq_some_iff.1 h
  split
  · exact .single trivial
  · have hopening (closed : Bool) : Token.IsFolded (.opening (String.ofList (lowerCase (s.takeWhile isTagChar)))
        (readAttributes (takeAttributes (charBefore '<' s (skipGap (s.dropWhile isTagChar)))
          (skipGap (s.dropWhile isTagChar))).1) closed) :=
      ⟨isFolded_lowerCase _, folded_readAttributes (folded_takeAttributes _ _)⟩
    split at hfound
    · cases hfound
    · cases hfound
      exact .single (hopening false)
    · cases hfound
      exact .single (hopening true)
    · split at hfound
      · cases hfound
      · cases hfound
        exact .single trivial

theorem folded_takeClosing (h : takeClosing? s = some taken) : AllFolded taken.1 := by
  unfold takeClosing? at h
  split at h
  · cases h
  · split at h
    · cases h
      exact .single trivial
    · split at h
      · cases h
        exact .single trivial
      · split at h
        · cases h
          exact .nil
        · cases h
          exact .single trivial

theorem folded_sectionToken (body : List Char) : (sectionToken body).IsFolded := by
  unfold sectionToken
  split <;> trivial

theorem folded_takeSection (h : takeSection? s = some taken) : AllFolded taken.1 := by
  have hended (brackets : Nat) {taken : Taken (List Token)}
      (h : ((splitAtEnd? (endsSection? brackets) s).map fun found => ([sectionToken found.1], found.2)) = some taken) :
      AllFolded taken.1 := by
    obtain ⟨found, -, rfl⟩ := Option.map_eq_some_iff.1 h
    exact .single (folded_sectionToken _)
  unfold takeSection? at h
  dsimp only at h
  split at h
  · cases h
  · split at h
    · cases h
      exact .single trivial
    · split at h
      · cases h
      · split at h
        · exact hended 2 h
        · split at h
          · exact hended 1 h
          · cases h
            exact .single trivial

theorem folded_takeDeclaration (h : takeDeclaration? s = some taken) : AllFolded taken.1 := by
  unfold takeDeclaration? at h
  split at h
  · obtain ⟨found, -, rfl⟩ := Option.map_eq_some_iff.1 h
    exact .single trivial
  · exact folded_takeSection h
  · split at h
    all_goals
      obtain ⟨found, -, rfl⟩ := Option.map_eq_some_iff.1 h
      exact .single trivial

theorem folded_takeMarkup (h : takeMarkup? s = some taken) : AllFolded taken.1 := by
  unfold takeMarkup? at h
  split at h
  · cases h
  · exact folded_takeClosing h
  · obtain ⟨found, -, rfl⟩ := Option.map_eq_some_iff.1 h
    exact .single trivial
  · exact folded_takeDeclaration h
  · split at h
    · exact folded_takeOpening h
    · cases h
      exact .single trivial

theorem folded_takeBroken (s : List Char) : AllFolded (takeBroken s).1 := by
  unfold takeBroken
  split
  · exact .single trivial
  · split <;> exact .single trivial

theorem folded_decimalToken (digits : List Char) : (decimalToken digits).IsFolded := by
  unfold decimalToken
  split <;> trivial

theorem folded_takeNumber {token : Token} {rest : List Char} (h : takeNumber? s = some (token, rest)) : token.IsFolded := by
  unfold takeNumber? at h
  obtain ⟨hnumber, -⟩ := Option.filter_eq_some_iff.1 h
  split at hnumber
  · split at hnumber
    · cases hnumber
      exact folded_decimalToken _
    · split at hnumber
      · cases hnumber
        trivial
      · cases hnumber
  · cases hnumber

theorem folded_scanReference (final : Bool) (s : List Char) : AllFolded (scanReference final s).tokens := by
  unfold scanReference
  split
  · exact .nil
  · split
    · rename_i hnumber
      exact .single (folded_takeNumber hnumber)
    · split
      · exact .single trivial
      · exact .nil
  · split
    · split
      · exact .single trivial
      · split <;> exact .nil
    · exact .single trivial

theorem folded_textTokens (content : List Char) : AllFolded (textTokens content) := by
  unfold textTokens
  split
  · exact .nil
  · exact .single trivial

theorem folded_scanRaw (name : String) (s : List Char) : AllFolded (scanRaw name s).tokens := by
  unfold scanRaw
  split
  · exact .nil
  · split
    · exact (folded_textTokens _).append (.single trivial)
    · exact .single trivial

theorem folded_scanMarkup (final : Bool) (s : List Char) : AllFolded (scanMarkup final s).tokens := by
  unfold scanMarkup
  split
  · exact .nil
  · exact folded_scanReference final _
  · split
    · rename_i htaken
      exact folded_takeMarkup htaken
    · split
      · exact folded_takeBroken _
      · exact .nil
  · exact .single trivial

theorem folded_scanStart (final : Bool) (raw : Option String) (s : List Char) : AllFolded (scanStart final raw s).tokens := by
  cases raw with
  | none => exact folded_scanMarkup final s
  | some name => exact folded_scanRaw name s

theorem folded_scan (final : Bool) (raw : Option String) (s : List Char) : AllFolded (scan final raw s).tokens := by
  fun_induction scan final raw s with
  | case1 raw s _ _ _ ih => exact (folded_scanStart final raw s).append ih
  | case2 raw s => exact folded_scanStart final raw s

/-- tags are read in lower case -/
theorem folded_tokens (s : List Char) : AllFolded (tokens s) := by
  refine ((folded_scan _ _ _).append (folded_scan _ _ _)).append ?_
  split
  · exact .nil
  · exact folded_textTokens _

/-! ### Plain text -/

theorem scan_nil (final : Bool) : scan final none [] = ⟨[], [], true, none⟩ := by
  rw [scan, scanStart, scanMarkup]
  rfl

theorem scanMarkup_of_plain (final : Bool) {c : Char} {rest : List Char} (h : ∀ d ∈ c :: rest, d ≠ '<' ∧ d ≠ '&') :
    scanMarkup final (c :: rest) = ⟨[.text (c :: rest)], [], false, none⟩ := by
  have hplain : ∀ d ∈ c :: rest, (d != '<' && d != '&') = true := fun d hd => by simp [h d hd]
  unfold scanMarkup
  split
  · rename_i heq
    cases heq
  · rename_i heq
    cases heq
    exact absurd rfl (h '&' List.mem_cons_self).2
  · rename_i heq
    cases heq
    exact absurd rfl (h '<' List.mem_cons_self).1
  · dsimp only
    rw [List.takeWhile_eq_self_iff.2 hplain, List.dropWhile_eq_nil_iff.2 hplain]

/-- text without markup is one token -/
theorem tokens_of_plain {s : List Char} (h : ∀ c ∈ s, c ≠ '<' ∧ c ≠ '&') : tokens s = textTokens s := by
  cases s with
  | nil =>
    rw [tokens, scan_nil, scan_nil]
    rfl
  | cons c rest =>
    have hscan : scan false none (c :: rest) = ⟨[.text (c :: rest)], [], true, none⟩ := by
      rw [scan, scanStart, scanMarkup_of_plain false h]
      simp [scan_nil]
    rw [tokens, hscan]
    dsimp only
    rw [scan_nil]
    rfl

/-! ## Elements -/

/-- whether an element has a tag of which `P` holds: its name, and its attributes before their values were stored -/
def Node.HasTag (P : String → List (String × String) → Prop) : Node → Prop
  | .element name attributes _ =>
    ∃ written, P name written ∧ attributes = written.map fun entry => (entry.1, storedValue name entry.1 entry.2)
  | .text .. => True

variable {P : String → List (String × String) → Prop} {node : Node} {builder : Builder}

theorem hasTag_text (kind : TextKind) (content : String) : (Node.text kind content).Everywhere (·.HasTag P) := by
  intro node hnode
  rw [Node.nodes] at hnode
  rw [List.mem_singleton.1 hnode]
  trivial

theorem hasTag_ofParts {name : String} {attributes : List (String × String)} {children : List Node} (htag : P name attributes)
    (hchildren : ∀ child ∈ children, child.Everywhere (·.HasTag P)) :
    (Node.ofParts name attributes children).Everywhere (·.HasTag P) := by
  intro node hnode
  rcases List.mem_cons.1 hnode with rfl | hnode
  · exact ⟨attributes, htag, rfl⟩
  · obtain ⟨child, hchild, hnode⟩ := Node.mem_nodesOf_iff.1 hnode
    exact hchildren child hchild node hnode

namespace Builder

/-- whether `P` holds of the tags of all elements of a tree being built, of open and of finished ones -/
structure HasTags (P : String → List (String × String) → Prop) (builder : Builder) : Prop where
  stack : ∀ inner ∈ builder.stack, P inner.name inner.attributes ∧ ∀ child ∈ inner.children, child.Everywhere (·.HasTag P)
  done : ∀ node ∈ builder.done, node.Everywhere (·.HasTag P)

theorem HasTags.start : HasTags P start :=
  ⟨nofun, nofun⟩

theorem HasTags.add (h : builder.HasTags P) (hnode : node.Everywhere (·.HasTag P)) : (builder.add node).HasTags P := by
  unfold Builder.add
  split
  · exact ⟨h.stack, List.forall_mem_cons.2 ⟨hnode, h.done⟩⟩
  · rename_i inner outer hstack
    have hopen := h.stack
    rw [hstack] at hopen
    obtain ⟨⟨htag, hchildren⟩, houter⟩ := List.forall_mem_cons.1 hopen
    exact ⟨List.forall_mem_cons.2 ⟨⟨htag, List.forall_mem_cons.2 ⟨hnode, hchildren⟩⟩, houter⟩, h.done⟩

theorem HasTags.addText (h : builder.HasTags P) (kind : TextKind) (content : List Char) :
    (builder.addText kind content).HasTags P :=
  h.add (hasTag_text _ _)

theorem HasTags.flush (h : builder.HasTags P) : builder.flush.HasTags P := by
  unfold Builder.flush
  split
  · exact h
  · have hbare : HasTags P { builder with pending := none } := ⟨h.stack, h.done⟩
    exact hbare.addText _ _

theorem HasTags.closeInner (h : builder.HasTags P) : builder.closeInner.HasTags P := by
  unfold Builder.closeInner
  split
  · exact h
  · rename_i inner outer hstack
    have hopen := h.stack
    rw [hstack] at hopen
    obtain ⟨⟨htag, hchildren⟩, houter⟩ := List.forall_mem_cons.1 hopen
    refine HasTags.add ⟨houter, h.done⟩ (hasTag_ofParts htag ?_)
    intro child hchild
    exact hchildren child (List.mem_reverse.1 hchild)

theorem HasTags.closeMany (h : builder.HasTags P) (count : Nat) : (Builder.closeMany count builder).HasTags P := by
  induction count generalizing builder with
  | zero => exact h
  | succ count ih => exact ih h.closeInner

theorem HasTags.closeTag (h : builder.HasTags P) (name : String) : (builder.closeTag name).HasTags P := by
  unfold Builder.closeTag Builder.close
  split
  · exact ⟨h.stack, h.done⟩
  · split
    · exact h.flush
    · exact h.flush.closeMany _

theorem HasTags.openTag (h : builder.HasTags P) {name : String} {attributes : List (String × String)} (htag : P name attributes)
    (closed : Bool) : (builder.openTag name attributes closed).HasTags P := by
  have hempty : (Node.ofParts name attributes []).Everywhere (·.HasTag P) := hasTag_ofParts htag nofun
  have hfilled := h.flush.add hempty
  unfold Builder.openTag
  dsimp only
  split
  · exact hfilled
  · split
    · exact ⟨hfilled.stack, hfilled.done⟩
    · exact ⟨List.forall_mem_cons.2 ⟨⟨htag, nofun⟩, h.flush.stack⟩, h.flush.done⟩

/-- **one token**: a new element has the tag of the token -/
theorem HasTags.step (h : builder.HasTags P) {token : Token}
    (htoken : ∀ name attributes closed, token = .opening name attributes closed → P name attributes) :
    (builder.step token).HasTags P := by
  cases token with
  | text => exact ⟨h.stack, h.done⟩
  | opening name attributes closed => exact h.openTag (htoken name attributes closed rfl) closed
  | closing name => exact h.closeTag name
  | special kind content => exact h.flush.addText kind content
  | fault => exact h

theorem HasTags.nodes (h : builder.HasTags P) : ∀ node ∈ builder.nodes, node.Everywhere (·.HasTag P) := by
  intro node hnode
  exact (h.flush.closeMany _).done node (List.mem_reverse.1 hnode)

theorem HasTags.foldl (h : builder.HasTags P) {tokens : List Token}
    (htokens : ∀ name attributes closed, .opening name attributes closed ∈ tokens → P name attributes) :
    (tokens.foldl Builder.step builder).HasTags P := by
  induction tokens generalizing builder with
  | nil => exact h
  | cons token rest ih =>
    refine ih (h.step ?_) fun name attributes closed hmem => htokens name attributes closed (List.mem_cons_of_mem _ hmem)
    rintro name attributes closed rfl
    exact htokens name attributes closed List.mem_cons_self

end Builder

/-- **every element of a document has its opening tag** among the tokens that it was read from -/
theorem hasTag_of_parse {s : String} {document : Node} (h : parse s = .ok document) :
    ∀ node ∈ Node.nodesOf document.children,
      node.HasTag fun name attributes => ∃ closed, .opening name attributes closed ∈ tokens s.toList := by
  unfold parse at h
  split at h
  · cases h
  · cases h
    intro node hnode
    obtain ⟨top, htop, hnode⟩ := Node.mem_nodesOf_iff.1 hnode
    exact (Builder.HasTags.start.foldl fun name attributes closed hmem => ⟨closed, hmem⟩).nodes top htop node hnode

/-- there is no element in blank text -/
theorem visible_of_isElement {s : String} {document : Node} (h : parse s = .ok document)
    (hnode : node ∈ Node.nodesOf document.children) (helement : node.isElement = true) : allBlank s.toList = false := by
  have htag := hasTag_of_parse h node hnode
  cases node with
  | text => cases helement
  | element name attributes children =>
    obtain ⟨written, ⟨closed, hmem⟩, -⟩ := htag
    rw [Bool.eq_false_iff]
    intro hblank
    have hplain : ∀ c ∈ s.toList, c ≠ '<' ∧ c ≠ '&' := by
      intro c hc
      have hblank := List.all_eq_true.1 hblank c hc
      constructor
      · rintro rfl
        cases hblank
      · rintro rfl
        cases hblank
    rw [tokens_of_plain hplain, textTokens] at hmem
    split at hmem
    · cases hmem
    · cases List.mem_singleton.1 hmem

/-- whether neither the name of an element nor those of its attributes have capital ASCII letters -/
def Node.IsFolded : Node → Prop
  | .element name attributes _ => Markup.IsFolded name ∧ ∀ entry ∈ attributes, Markup.IsFolded entry.1
  | .text .. => True

/-- names are in lower case everywhere in a document -/
theorem folded_of_parse {s : String} {document : Node} (h : parse s = .ok document) :
    ∀ node ∈ Node.nodesOf document.children, node.IsFolded := by
  intro node hnode
  have htag := hasTag_of_parse h node hnode
  cases node with
  | text => trivial
  | element name attributes children =>
    obtain ⟨written, ⟨closed, hmem⟩, rfl⟩ := htag
    obtain ⟨hname, hkeys⟩ := folded_tokens s.toList _ hmem
    refine ⟨hname, ?_⟩
    intro entry hentry
    obtain ⟨original, horiginal, rfl⟩ := List.mem_map.1 hentry
    exact hkeys original horiginal

/-! ## Selection -/

/-- selection by name finds what has the name -/
theorem matchesName_eq_isNamed (h : node.IsFolded) (name : String) : node.matchesName name = node.isNamed name := by
  cases node with
  | text => rfl
  | element actual attributes children =>
    have hname : foldedName actual = actual.toList := h.1
    rw [Node.matchesName, Node.isNamed]
    dsimp only [Node.name?]
    rw [hname, Bool.eq_iff_iff, decide_eq_true_iff, beq_iff_eq, String.toList_inj, Option.some_inj]

/-- selection by attribute finds what has the attribute -/
theorem matchedValue?_eq_attr? (h : node.IsFolded) (key : String) : node.matchedValue? key = node.attr? key := by
  cases node with
  | text => rfl
  | element name attributes children =>
    have hkeys := h.2
    rw [Node.matchedValue?, Node.attr?]
    clear h
    induction attributes with
    | nil => rfl
    | cons entry rest ih =>
      obtain ⟨hentry, hrest⟩ := List.forall_mem_cons.1 hkeys
      have hfolded : foldedName entry.1 = entry.1.toList := hentry
      rw [List.lookup_cons, ← ih hrest]
      by_cases hkey : key = entry.1
      · rw [List.find?_cons_of_pos (by simp [hkey, hfolded]), hkey, beq_self_eq_true]
        rfl
      · have hother : foldedName entry.1 ≠ key.toList := by
          rw [hfolded]
          exact fun heq => hkey (String.toList_inj.1 heq).symm
        rw [List.find?_cons_of_neg (by simp [hother]), beq_false_of_ne hkey]

end Untypeset.Markup
