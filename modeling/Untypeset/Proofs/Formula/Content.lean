import Untypeset.Proofs.Formula.Stable
import Untypeset.Proofs.Symbol.Canonical
import Untypeset.Proofs.Text.Case
import Untypeset.Proofs.Text.Hex

/-!
The leaves of a formula by their places, and properties of what a leaf shows. A leaf shows its text or the tokens of its
glyphs; a sign such as a backslash gets into a token only with the code of its glyph or with an entry of the table
(`sign_mem_glyphToken`). So a property that the tables have, and every source without certain signs, holds of each leaf that
does not bring one in (`Unsigned.leaf`).
-/

namespace Untypeset

open Untypeset.Markup Untypeset.Rendering Untypeset.Symbol Untypeset.Text

namespace Formula

/-- the places of the leaves of a formula from left to right -/
def leafPlaces (shape : Shape) (place : Located) : List Located :=
  if (shape.kind place.node).isLeaf then [place]
  else if shape.kind place.node = .ignored then []
  else (partPlaces shape place).attach.flatMap fun part => leafPlaces shape part.1
termination_by place.node.size
decreasing_by exact partPlaces_lt part.2

theorem leafPlaces_eq (shape : Shape) (place : Located) :
    leafPlaces shape place =
      if (shape.kind place.node).isLeaf then [place]
      else if shape.kind place.node = .ignored then []
      else (partPlaces shape place).flatMap (leafPlaces shape) := by
  rw [leafPlaces]
  simp

theorem isLeaf_of_mem_leafPlaces {shape : Shape} {place leaf : Located} (h : leaf ∈ leafPlaces shape place) :
    (shape.kind leaf.node).isLeaf = true := by
  rw [leafPlaces_eq] at h
  split at h
  · rename_i hleaf
    rw [List.mem_singleton.1 h]
    exact hleaf
  · split at h
    · cases h
    · obtain ⟨part, hpart, hmem⟩ := List.mem_flatMap.1 h
      have := partPlaces_lt hpart
      exact isLeaf_of_mem_leafPlaces hmem
termination_by place.node.size

theorem kind_read (shape : Shape) (symbols : SymbolTable) (place : Located) :
    (read shape symbols place).kind = shape.kind place.node := by
  rw [kind, facts_read]
  rfl

theorem leaves_read (shape : Shape) (symbols : SymbolTable) (place : Located) :
    (read shape symbols place).leaves = (leafPlaces shape place).map (read shape symbols) := by
  rw [leafPlaces_eq]
  have hkind := kind_read shape symbols place
  by_cases hleaf : (shape.kind place.node).isLeaf = true
  · rw [if_pos hleaf, leaves_of_isLeaf (by rw [hkind]; exact hleaf)]
    rfl
  · rw [if_neg hleaf]
    by_cases hi : shape.kind place.node = .ignored
    · rw [if_pos hi, read_eq, leaves, if_neg (by simpa [factsAt] using hleaf), if_pos (by simpa [factsAt] using hi)]
      rfl
    · rw [if_neg hi, leaves_of_structure (by rw [hkind]; simpa using hleaf) (by rw [hkind]; exact hi), parts_read,
        List.map_flatMap, List.flatMap_map]
      apply List.flatMap_congr
      intro part hpart
      have := partPlaces_lt hpart
      exact leaves_read shape symbols part
termination_by place.node.size

end Formula

/-! ## Nodes -/

namespace Formula

mutual

/-- the nodes of a formula that its conversion can come to: none inside a leaf or in what is ignored -/
def nodes : Formula → List Formula
  | .node facts parts =>
    .node facts parts :: (if facts.kind.isLeaf || facts.kind = .ignored then [] else nodesOf parts)

/-- the nodes of several formulas -/
def nodesOf : List Formula → List Formula
  | [] => []
  | f :: rest => nodes f ++ nodesOf rest

end

theorem nodesOf_eq (row : List Formula) : nodesOf row = row.flatMap nodes := by
  induction row with
  | nil => rfl
  | cons f rest ih => rw [nodesOf, ih, List.flatMap_cons]

theorem mem_nodes (f : Formula) : f ∈ f.nodes := by
  cases f
  exact List.mem_cons_self

/-- a leaf has no other nodes, and neither has what is ignored -/
theorem nodes_of_end {f : Formula} (h : f.kind.isLeaf = true ∨ f.kind = .ignored) : f.nodes = [f] := by
  obtain ⟨facts, parts⟩ := f
  have hinside : (facts.kind.isLeaf || decide (facts.kind = .ignored)) = true := by
    rw [Bool.or_eq_true, decide_eq_true_eq]
    exact h
  rw [nodes, if_pos hinside]

theorem nodes_of_structure {f : Formula} (h : f.kind.isLeaf = false) (hi : f.kind ≠ .ignored) :
    f.nodes = f :: f.parts.flatMap nodes := by
  obtain ⟨facts, parts⟩ := f
  have hinside : ¬ (facts.kind.isLeaf || decide (facts.kind = .ignored)) = true := by
    rw [Bool.or_eq_true, decide_eq_true_eq, not_or]
    exact ⟨by rw [show facts.kind.isLeaf = false from h]; decide, hi⟩
  rw [nodes, if_neg hinside, nodesOf_eq, parts_node]

theorem nodes_subset_of_mem_parts {f part : Formula} (h : f.kind.isLeaf = false) (hi : f.kind ≠ .ignored)
    (hpart : part ∈ f.parts) : part.nodes ⊆ f.nodes := by
  intro g hg
  rw [nodes_of_structure h hi]
  exact List.mem_cons_of_mem f (List.mem_flatMap.2 ⟨part, hpart, hg⟩)

theorem nodes_subset_of_isParenthesized {f part : Formula} (h : f.isParenthesized = true) (hpart : part ∈ f.parts) :
    part.nodes ⊆ f.nodes :=
  nodes_subset_of_mem_parts (isLeaf_of_isParenthesized h) (counts_of_isParenthesized h) hpart

/-- the leaves of a formula are those of its nodes that are leaves -/
theorem mem_leaves_of_mem_nodes {f g : Formula} (hg : g ∈ f.nodes) (hk : g.kind.isLeaf = true) : g ∈ f.leaves := by
  by_cases hleaf : f.kind.isLeaf = true
  · rw [nodes_of_end (.inl hleaf)] at hg
    rw [leaves_of_isLeaf hleaf]
    exact hg
  · simp only [Bool.not_eq_true] at hleaf
    by_cases hi : f.kind = .ignored
    · rw [nodes_of_end (.inr hi)] at hg
      rw [List.mem_singleton.1 hg, hleaf] at hk
      cases hk
    · rw [nodes_of_structure hleaf hi] at hg
      rcases List.mem_cons.1 hg with rfl | hg
      · rw [hleaf] at hk
        cases hk
      · obtain ⟨part, hpart, hmem⟩ := List.mem_flatMap.1 hg
        have := size_lt_of_mem_parts hpart
        rw [leaves_of_structure hleaf hi]
        exact List.mem_flatMap.2 ⟨part, hpart, mem_leaves_of_mem_nodes hmem hk⟩
termination_by f.size

/-- the nodes of a formula that was read were read themselves -/
theorem exists_read_of_mem_nodes {shape : Shape} {symbols : SymbolTable} {place : Located} {g : Formula}
    (hg : g ∈ (read shape symbols place).nodes) : ∃ below, g = read shape symbols below := by
  rw [read_eq, nodes] at hg
  rcases List.mem_cons.1 hg with rfl | hg
  · exact ⟨place, (read_eq shape symbols place).symm⟩
  · split at hg
    · cases hg
    · rw [nodesOf_eq, List.flatMap_map] at hg
      obtain ⟨part, hpart, hmem⟩ := List.mem_flatMap.1 hg
      have := partPlaces_lt hpart
      exact exists_read_of_mem_nodes hmem
termination_by place.node.size

end Formula

/-! ## What a leaf brings in -/

/-- a glyph that is read to a number has the token of the number, and a bare one its own character -/
theorem glyphToken_of_readCode? {shape : Shape} {symbols : SymbolTable} {code : List Char} {n : Nat}
    (hread : readCode? code = some n) : Formula.glyphToken shape symbols code =
      if shape.keepsAsciiBare && n < 0x80 then [Char.ofNat n] else symbols.codePointToken n := by
  rw [Formula.glyphToken, hread]
  by_cases hbare : (shape.keepsAsciiBare && decide (n < 0x80)) = true
  · rw [if_pos hbare, Option.filter_some, if_pos hbare]
  · rw [if_neg hbare, Option.filter_some, if_neg hbare]
    exact codeToken_of_readCode? symbols hread

theorem glyphToken_of_unreadable {shape : Shape} {symbols : SymbolTable} {code : List Char} (hread : readCode? code = none) :
    Formula.glyphToken shape symbols code = unreadableToken code := by
  rw [Formula.glyphToken, hread]
  exact codeToken_of_unreadable symbols hread

/-- a text with an entry is a single character beyond ASCII, and the entry is the one under its number -/
theorem exists_of_textSymbol? {shape : Shape} {symbols : SymbolTable} {text : List Char} {token : Latex}
    (h : Formula.textSymbol? shape symbols text = some token) :
    ∃ c, text = [c] ∧ 0x7F < c.toNat ∧ symbols.glyph? c.toNat = some token := by
  unfold Formula.textSymbol? at h
  split at h
  · rename_i c
    split at h
    · rename_i hbeyond
      rw [Bool.and_eq_true, decide_eq_true_eq] at hbeyond
      rw [charToken?_singleton] at h
      exact ⟨c, rfl, hbeyond.2, h⟩
    · cases h
  · cases h

/-- the characters that a glyph code brings in: the one it names, or its own where it cannot be read -/
def codeChars (code : List Char) : List Char :=
  match readCode? code with
  | some n => (charOfCode? n).toList
  | none => code

/-- the characters that a leaf brings in before any table is consulted -/
def broughtIn (shape : Shape) (node : Node) : List Char :=
  if node.trimmed.isEmpty then (shape.glyphCodes node).flatMap codeChars else node.trimmed

theorem rawText_subset (shape : Shape) (node : Node) : Formula.rawText shape node ⊆ broughtIn shape node := by
  intro c hc
  unfold Formula.rawText at hc
  unfold broughtIn
  split
  · rename_i hempty
    rw [if_pos hempty] at hc
    obtain ⟨code, hcode, hchar⟩ := List.mem_filterMap.1 hc
    obtain ⟨n, hn, hc⟩ := Option.bind_eq_some_iff.1 hchar
    exact List.mem_flatMap.2 ⟨code, hcode, by simp [codeChars, hn, hc]⟩
  · rename_i hfull
    rwa [if_neg hfull] at hc

/-- an ASCII character that no token of a glyph has by itself: the code of a glyph without a token of its own is written
with letters, digits and the four characters excepted here -/
def isSign (c : Char) : Bool :=
  c.toNat < 0x80 && !isAsciiLetter c && !isHexDigit c && !(['[', ']', '+', ' '].contains c)

variable {sign : Char}

theorem not_mem_of_isSign (hs : isSign sign = true) :
    sign.toNat < 0x80 ∧ isAsciiLetter sign = false ∧ isHexDigit sign = false ∧ sign ∉ ['[', ']', '+', ' '] := by
  simp only [isSign, Bool.and_eq_true, decide_eq_true_eq, Bool.not_eq_true', List.contains_eq_mem,
    decide_eq_false_iff_not] at hs
  obtain ⟨⟨⟨hascii, hletter⟩, hhex⟩, hframe⟩ := hs
  exact ⟨hascii, hletter, hhex, hframe⟩

theorem sign_mem_unreadableToken (hs : isSign sign = true) {code : List Char} (h : sign ∈ unreadableToken code) :
    sign ∈ code := by
  obtain ⟨hascii, hletter, -, hframe⟩ := not_mem_of_isSign hs
  have hu : sign ≠ 'U' := by
    rintro rfl
    cases hletter
  have hbracket : "[U+".toList = ['[', 'U', '+'] := String.toList_ofList
  rw [unreadableToken, hbracket] at h
  have hcode : sign ∈ upperCase (trim code) := by
    simp only [List.mem_append, List.mem_cons, List.not_mem_nil, or_false, not_or] at h hframe
    obtain ⟨hopen, hclose, hplus, -⟩ := hframe
    simpa [hopen, hclose, hplus, hu] using h
  exact mem_trim (of_mem_upperCase hascii hletter hcode)

theorem sign_not_mem_codeKey (hs : isSign sign = true) (n : Nat) : sign ∉ codeKey n := by
  obtain ⟨-, hletter, hhex, hframe⟩ := not_mem_of_isSign hs
  intro h
  simp only [codeKey, padZeros, List.mem_cons, List.mem_append] at h
  rcases h with rfl | rfl | h | h
  · cases hletter
  · exact hframe (by decide)
  · rw [List.eq_of_mem_replicate h] at hhex
    cases hhex
  · rw [isHexDigit_of_mem h] at hhex
    cases hhex

theorem sign_mem_literalToken (hs : isSign sign = true) {n : Nat} (h : sign ∈ literalToken n) :
    charOfCode? n = some sign := by
  obtain ⟨-, -, -, hframe⟩ := not_mem_of_isSign hs
  rw [literalToken_eq] at h
  split at h
  · simp only [List.mem_append, List.mem_cons, List.not_mem_nil, or_false] at h hframe
    have := sign_not_mem_codeKey hs n
    tauto
  · rename_i c hc
    have hchar : sign = c := by
      split at h
      · exact List.mem_singleton.1 h
      · simp only [List.mem_cons, List.not_mem_nil, or_false] at h hframe
        tauto
    rw [hchar]
    exact hc

/-- a sign in the token of a glyph comes from the code of the glyph or, with the whole token, from the table -/
theorem sign_mem_glyphToken (hs : isSign sign = true) {shape : Shape} {symbols : SymbolTable} {code : List Char}
    (h : sign ∈ Formula.glyphToken shape symbols code) :
    sign ∈ codeChars code ∨ ∃ n, symbols.glyph? n = some (Formula.glyphToken shape symbols code) := by
  unfold codeChars
  cases hread : readCode? code with
  | none =>
    rw [glyphToken_of_unreadable hread] at h
    exact .inl (sign_mem_unreadableToken hs h)
  | some n =>
    rw [glyphToken_of_readCode? hread] at h ⊢
    dsimp only
    split at h
    · rename_i hbare
      simp only [Bool.and_eq_true, decide_eq_true_eq] at hbare
      have hn : (Char.ofNat n).toNat = n := toNat_ofNat (.inl (by omega))
      have hchar := charOfCode?_toNat (Char.ofNat n)
      rw [hn] at hchar
      left
      rw [List.mem_singleton.1 h, hchar]
      exact List.mem_singleton_self _
    · rename_i hbare
      rw [if_neg hbare]
      unfold SymbolTable.codePointToken at h ⊢
      cases hglyph : symbols.glyph? n with
      | none =>
        left
        rw [hglyph] at h
        rw [sign_mem_literalToken hs h]
        exact List.mem_singleton_self _
      | some token => exact .inr ⟨n, hglyph⟩

/-! ## Properties of what a leaf shows -/

namespace Compositional

variable {symbols : SymbolTable} {P : Latex → Prop} {s : Latex}

theorem joinGlyphs (hP : Compositional symbols P) (separated : ∀ {s}, P s → P (Latex.separated s)) {tokens : List Latex}
    (h : ∀ t ∈ tokens, P t) : P (Latex.joinGlyphs tokens) := by
  induction tokens with
  | nil => exact hP.nil
  | cons token rest ih =>
    have htoken : P token := h token List.mem_cons_self
    by_cases hrest : rest = []
    · subst hrest
      exact htoken
    · rw [Latex.joinGlyphs_cons hrest]
      exact hP.append (separated htoken) (ih fun t ht => h t (List.mem_cons_of_mem token ht))

theorem functionOr (hP : Compositional symbols P) (hs : P s) : P (symbols.functionOr s) := by
  unfold SymbolTable.functionOr
  split
  · rename_i hfun
    rw [← functionMacro_trim]
    exact hP.named _ hfun
  · exact hs

/-- what a leaf shows has the property if its text has it, or the token of each of its glyphs -/
theorem content (hP : Compositional symbols P) (separated : ∀ {s}, P s → P (Latex.separated s))
    (hglyphs : ∀ entry ∈ symbols.glyphs, P entry.2) {shape : Shape} {node : Node}
    (htext : node.trimmed ≠ [] → P node.trimmed)
    (hcodes : node.trimmed = [] → ∀ code ∈ shape.glyphCodes node, P (Formula.glyphToken shape symbols code)) :
    P (Formula.content shape symbols node) := by
  unfold Formula.content
  split
  · rename_i hempty
    unfold Formula.glyphContent
    split
    · exact hP.nil
    · refine hP.functionOr (hP.joinGlyphs separated fun token htoken => ?_)
      obtain ⟨code, hcode, rfl⟩ := List.mem_map.1 htoken
      exact hcodes (List.isEmpty_iff.1 hempty) code hcode
  · rename_i hfull
    have hne : node.trimmed ≠ [] := by
      intro h
      exact hfull (List.isEmpty_iff.2 h)
    unfold Formula.textContent
    cases hsymbol : Formula.textSymbol? shape symbols node.trimmed with
    | none => exact hP.functionOr (htext hne)
    | some token =>
      obtain ⟨c, -, -, hglyph⟩ := exists_of_textSymbol? hsymbol
      exact hglyphs (c.toNat, token) (mem_of_lookup hglyph)

end Compositional

theorem Stable.separated {symbols : SymbolTable} {P : Latex → Prop} (hP : Stable symbols P) (hspace : P [' ']) {s : Latex}
    (hs : P s) : P (Latex.separated s) := by
  unfold Latex.separated
  dsimp only
  split
  · exact hP.append (hP.trimEnd hs) hspace
  · exact hP.trimEnd hs

/-- a compositional property that the tables have, and that every source without certain signs has -/
structure Unsigned (symbols : SymbolTable) (signs : List Char) (P : Latex → Prop) : Prop where
  compositional : Compositional symbols P
  separated : ∀ {s}, P s → P (Latex.separated s)
  operator : ∀ entry ∈ symbols.operators, P entry.2
  glyph : ∀ entry ∈ symbols.glyphs, P entry.2
  isSign : ∀ sign ∈ signs, isSign sign = true
  plain : ∀ {s}, (∀ sign ∈ signs, sign ∉ s) → P s

namespace Unsigned

variable {symbols : SymbolTable} {signs : List Char} {P : Latex → Prop} {shape : Shape}

theorem content (hP : Unsigned symbols signs P) {node : Node} (h : ∀ sign ∈ signs, sign ∉ broughtIn shape node) :
    P (Formula.content shape symbols node) := by
  refine hP.compositional.content hP.separated hP.glyph (fun hne => hP.plain ?_) fun hempty code hcode => ?_
  · rwa [broughtIn, if_neg (by simpa using hne)] at h
  · rw [broughtIn, if_pos (by simp [hempty])] at h
    by_cases hentry : ∃ n, symbols.glyph? n = some (Formula.glyphToken shape symbols code)
    · obtain ⟨n, hn⟩ := hentry
      exact hP.glyph (n, _) (mem_of_lookup hn)
    · apply hP.plain
      intro sign hsign hmem
      have hcodeChars := (sign_mem_glyphToken (hP.isSign sign hsign) hmem).resolve_right hentry
      exact h sign hsign (List.mem_flatMap.2 ⟨code, hcode, hcodeChars⟩)

theorem leaf (hP : Unsigned symbols signs P) {place : Located} (hk : (shape.kind place.node).isLeaf = true)
    (h : ∀ sign ∈ signs, sign ∉ broughtIn shape place.node) : P ((Formula.read shape symbols place).latex symbols) := by
  refine hP.compositional.leaf hP.operator (by rw [Formula.kind_read]; exact hk) ?_
  rw [Formula.shown, Formula.facts_read]
  split
  · exact hP.plain fun sign hsign hmem => h sign hsign (rawText_subset shape place.node hmem)
  · exact hP.content h

end Unsigned

end Untypeset
