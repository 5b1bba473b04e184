import Untypeset.Proofs.Formula.Simulation
import Untypeset.Proofs.Rendering.Characters
import Untypeset.Proofs.Rendering.Leaves
import Untypeset.Proofs.Rendering.Plain

/-!
Encodings of expressions as glyphs, compared with plain MathML. An encoding is read back if kinds, marks and arguments of
every expression are found in it, an argument perhaps in a container of its own, if it shows the characters of the expression,
radical signs apart, and if a base is drawn as an integral sign where it is written as one (`Encodes`). Where leaves come out
close, formulas read from the two markups are related by a simulation (`Twin.simulation`).
-/

namespace Untypeset

open Untypeset.Latex Untypeset.Markup Untypeset.Rendering Untypeset.Symbol Untypeset.Text

/-! ## Encodings -/

/-- a container with nothing in it but these nodes -/
structure Wraps (shape : Shape) (inner : List Node) (node : Node) : Prop where
  kind : shape.kind node = .container
  parts : ∀ trail, (Formula.partPlaces shape ⟨node, trail⟩).map (·.node) = inner

/-- a node shows the characters of an expression; among those of a structure there may be radical signs, in any order -/
structure Shows (shape : Shape) (Fit : Expression → Prop) (e : Expression) (node : Node) (cs : List Char) : Prop where
  glyphs : ShowsGlyphs shape node cs
  perm : ∀ p : Char → Bool, p Expression.radicalSign = false → (cs.filter p).Perm (e.text.filter p)
  leaf : e.isLeaf = true → Fit e → cs = e.text

/-- a node lays out an argument: as it is, or in a container of its own -/
def LaysOut (shape : Shape) (encode : Expression → Node) (e : Expression) (node : Node) : Prop :=
  node = encode e ∨ Wraps shape [encode e] node

/-- the attributes of a node that a conversion looks at -/
def attributesRead : List String :=
  ["data-semantic-role", "data-semantic-type", "mathvariant"]

/-- an encoding that is read back -/
structure Encodes (shape : Shape) (encode : Expression → Node) (Fit : Expression → Prop) : Prop where
  byGlyphs : shape ≠ .mathml
  kind : ∀ e, shape.kind (encode e) = e.kind
  attr : ∀ e, ∀ name ∈ attributesRead, (encode e).attr? name = e.marks.attributes.lookup name
  shows : ∀ e, ∃ cs, Shows shape Fit e (encode e) cs
  list : ∀ {kind} marks items, kind ≠ .sqrt →
    ∀ trail, (Formula.partPlaces shape ⟨encode (.list kind marks items), trail⟩).map (·.node) = items.map encode
  radicand : ∀ marks items, ∃ nodes,
    (∀ trail, (Formula.partPlaces shape ⟨encode (.list .sqrt marks items), trail⟩).map (·.node) = nodes) ∧
      (nodes = items.map encode ∨ ∃ box, nodes = [box] ∧ Wraps shape (items.map encode) box)
  pair : ∀ kind marks first second, ∃ x y,
    (∀ trail, (Formula.partPlaces shape ⟨encode (.pair kind marks first second), trail⟩).map (·.node) = [x, y]) ∧
      LaysOut shape encode first x ∧ LaysOut shape encode second y ∧ (kind = .superscript → x = encode first) ∧
        (kind = .overscript → ∃ cs, Shows shape Fit second y cs)
  triple : ∀ kind marks base lower upper, ∃ x y z,
    (∀ trail, (Formula.partPlaces shape ⟨encode (.triple kind marks base lower upper), trail⟩).map (·.node) = [x, y, z]) ∧
      LaysOut shape encode base x ∧ LaysOut shape encode lower y ∧ LaysOut shape encode upper z ∧
        ∃ cs, Shows shape Fit base x cs ∧ ((Expression.triple kind marks base lower upper).Everywhere Fit →
          base.isLeaf = true ∨ (DrawsIntegral shape cs ↔ WritesIntegral base.text))

/-- the expressions for which leaves come out close -/
structure Suits (shape : Shape) (R : Latex → Latex → Prop) (Fit : Expression → Prop) : Prop where
  solid : ∀ {e}, e.isLeaf = true → Fit e → Solid e.text
  close : ∀ {e}, e.isLeaf = true → Fit e → R (Formula.textContent .mathml .default e.text) (glyphsLatex shape e.text)
  padded : ∀ {e}, e.isLeaf = true → Fit e →
    Padded (Formula.textContent .mathml .default e.text) (glyphsLatex shape e.text)

/-! ## Facts about an expression in both markups -/

namespace Expression

theorem kind_isLeaf (e : Expression) : e.kind.isLeaf = e.isLeaf := by
  cases e with
  | leaf kind | list kind | pair kind | triple kind => cases kind <;> rfl

/-- an expression whose kind takes two arguments has two -/
theorem exists_pair (e : Expression) (h : e.kind.arity? = some 2) :
    ∃ kind marks first second, e = pair kind marks first second := by
  cases e with
  | pair kind marks first second => exact ⟨kind, marks, first, second, rfl⟩
  | leaf kind | list kind | triple kind => cases kind <;> cases h

/-- an expression whose kind takes three arguments has three -/
theorem exists_triple (e : Expression) (h : e.kind.arity? = some 3) :
    ∃ kind marks base lower upper, e = triple kind marks base lower upper := by
  cases e with
  | triple kind marks base lower upper => exact ⟨kind, marks, base, lower, upper, rfl⟩
  | leaf kind | list kind | pair kind => cases kind <;> cases h

theorem showsText {e : Expression} (h : Solid e.text) : ShowsText e.mathml e.text :=
  ⟨trimmed_mathml h, h⟩

mutual

/-- what holds of the characters of all leaves holds of the characters of an expression -/
theorem forall_mem_text {Q : Char → Prop} (e : Expression)
    (h : ∀ s ∈ subexpressions e, s.isLeaf = true → ∀ c ∈ s.text, Q c) : ∀ c ∈ e.text, Q c := by
  cases e with
  | leaf kind marks glyphs => exact h _ (mem_subexpressions _) rfl
  | list kind marks items =>
    rw [text]
    refine forall_mem_texts items fun s hs => h s ?_
    rw [subexpressions]
    exact List.mem_cons_of_mem _ hs
  | pair kind marks first second =>
    have part (e : Expression) (he : e ∈ (pair kind marks first second).parts) :=
      fun s (hs : s ∈ subexpressions e) => h s (subexpressions_part he hs)
    rw [text]
    intro c hc
    rcases List.mem_append.1 hc with hc | hc
    · exact forall_mem_text first (part first (by simp [parts])) c hc
    · exact forall_mem_text second (part second (by simp [parts])) c hc
  | triple kind marks base lower upper =>
    have part (e : Expression) (he : e ∈ (triple kind marks base lower upper).parts) :=
      fun s (hs : s ∈ subexpressions e) => h s (subexpressions_part he hs)
    rw [text]
    intro c hc
    rcases List.mem_append.1 hc with hc | hc
    · rcases List.mem_append.1 hc with hc | hc
      · exact forall_mem_text base (part base (by simp [parts])) c hc
      · exact forall_mem_text lower (part lower (by simp [parts])) c hc
    · exact forall_mem_text upper (part upper (by simp [parts])) c hc

theorem forall_mem_texts {Q : Char → Prop} (es : List Expression)
    (h : ∀ s ∈ subexpressionsOf es, s.isLeaf = true → ∀ c ∈ s.text, Q c) : ∀ c ∈ texts es, Q c := by
  cases es with
  | nil => intro c hc; cases hc
  | cons e rest =>
    rw [texts]
    intro c hc
    rcases List.mem_append.1 hc with hc | hc
    · exact forall_mem_text e (fun s hs => h s (List.mem_append_left _ hs)) c hc
    · exact forall_mem_texts rest (fun s hs => h s (List.mem_append_right _ hs)) c hc

end

end Expression

namespace Suits

variable {shape : Shape} {R : Latex → Latex → Prop} {Fit : Expression → Prop} {e : Expression}

theorem solid_text (hS : Suits shape R Fit) (h : e.Everywhere Fit) : Solid e.text :=
  Expression.forall_mem_text e fun s hs hleaf => hS.solid hleaf (h s hs)

end Suits

/-! ## Characters shown by a node -/

theorem shownToken_radicalSign {shape : Shape} (hshape : shape ≠ .mathml) :
    shownToken shape Expression.radicalSign = [] := by
  have htoken : tokenOf Expression.radicalSign = [] := by
    rw [tokenOf, SymbolTable.codePointToken, glyph?_default]
    decide
  rwa [shownToken_eq_nil_iff hshape]

namespace Shows

variable {shape : Shape} {Fit : Expression → Prop} {e : Expression} {node : Node} {cs : List Char}

/-- the characters that a node shows are those of the text, or radical signs -/
theorem mem (h : Shows shape Fit e node cs) {c : Char} (hc : c ∈ cs) : c = Expression.radicalSign ∨ c ∈ e.text := by
  by_cases hsign : c = Expression.radicalSign
  · exact .inl hsign
  · have hmem : c ∈ cs.filter (· ≠ Expression.radicalSign) := List.mem_filter.2 ⟨hc, by simpa using hsign⟩
    exact .inr (List.mem_filter.1 ((h.perm _ (by simp)).mem_iff.1 hmem)).1

theorem solid (h : Shows shape Fit e node cs) (htext : Solid e.text) : Solid cs := by
  intro c hc
  rcases h.mem hc with rfl | hc
  · rfl
  · exact htext c hc

/-- a base without a backslash is drawn and written as an integral sign alike, unless silent characters go with the sign -/
theorem drawsIntegral_iff (h : Shows shape Fit e node cs) (hshape : shape ≠ .mathml) (htext : Solid e.text)
    (hback : '\\' ∉ e.text) (hloud : loud tokenOf e.text = ['∫'] → e.text = ['∫']) :
    DrawsIntegral shape cs ↔ WritesIntegral e.text := by
  have hback' : '\\' ∉ cs := by
    intro hc
    rcases h.mem hc with heq | hc
    · exact absurd heq (by decide)
    · exact hback hc
  have hsilent : tokenOf Expression.radicalSign = [] := (shownToken_eq_nil_iff hshape _).1 (shownToken_radicalSign hshape)
  exact drawsIntegral_iff_writesIntegral hshape htext hback hloud (h.solid htext) hback' (h.perm _ (by simp [hsilent]))

end Shows

/-! ## Twins -/

/-- formulas that were read from one expression, the first from plain MathML and the second from an encoding -/
def Twin (shape : Shape) (encode : Expression → Node) (Fit : Expression → Prop) (f g : Formula) : Prop :=
  ∃ e : Expression, e.Everywhere Fit ∧ Reads .mathml e.mathml f ∧ Reads shape (encode e) g

namespace Twin

variable {shape : Shape} {encode : Expression → Node} {Fit : Expression → Prop} {R : Latex → Latex → Prop} {f g : Formula}
  {e : Expression} {node : Node}

theorem kind_mathml (h : Reads .mathml e.mathml f) : f.kind = e.kind := by
  rw [h.kind]
  exact e.kind_mathml

theorem kind_encoded (hE : Encodes shape encode Fit) (h : Reads shape (encode e) g) : g.kind = e.kind := by
  rw [h.kind, hE.kind]

theorem isLeaf_of_kind (h : Reads .mathml e.mathml f) (hk : f.kind.isLeaf = true) : e.isLeaf = true := by
  rwa [kind_mathml h, e.kind_isLeaf] at hk

/-- what a leaf shows as text -/
theorem content_text (hS : Suits shape R Fit) (hleaf : e.isLeaf = true) (hfit : Fit e) (h : Reads .mathml e.mathml f) :
    f.facts.content = Formula.textContent .mathml .default e.text ∧ f.facts.raw = e.text := by
  have hshows := Expression.showsText (hS.solid hleaf hfit)
  exact ⟨by rw [h.content, hshows.content], by rw [h.raw, hshows.raw]⟩

/-- what a leaf shows as glyphs -/
theorem content_glyphs {cs : List Char} (hshows : Shows shape Fit e node cs) (hleaf : e.isLeaf = true) (hfit : Fit e)
    (h : Reads shape node g) : g.facts.content = glyphsLatex shape e.text ∧ g.facts.raw = e.text := by
  have hcs := hshows.leaf hleaf hfit
  subst hcs
  exact ⟨by rw [h.content, hshows.glyphs.content]; rfl, by rw [h.raw, hshows.glyphs.raw]⟩

/-- neighbours look at the same key of a leaf -/
theorem key_eq (hS : Suits shape R Fit) {cs : List Char} (hshows : Shows shape Fit e node cs) (hleaf : e.isLeaf = true)
    (hfit : Fit e) (hf : Reads .mathml e.mathml f) (hg : Reads shape node g) : f.key = g.key := by
  rw [Formula.key, Formula.key, (content_text hS hleaf hfit hf).1, (content_glyphs hshows hleaf hfit hg).1]
  exact (hS.padded hleaf hfit).trim_eq

theorem raw_eq (hS : Suits shape R Fit) {cs : List Char} (hshows : Shows shape Fit e node cs) (hleaf : e.isLeaf = true)
    (hfit : Fit e) (hf : Reads .mathml e.mathml f) (hg : Reads shape node g) : f.facts.raw = g.facts.raw := by
  rw [(content_text hS hleaf hfit hf).2, (content_glyphs hshows hleaf hfit hg).2]

/-! ### Parts -/

theorem forall₂_of_items {items : List Expression} {fs gs : List Formula} (hfit : ∀ e ∈ items, e.Everywhere Fit)
    (hf : List.Forall₂ (Reads .mathml) (items.map Expression.mathml) fs)
    (hg : List.Forall₂ (Reads shape) (items.map encode) gs) : List.Forall₂ (Twin shape encode Fit) fs gs := by
  induction items generalizing fs gs with
  | nil =>
    cases hf
    cases hg
    exact .nil
  | cons e rest ih =>
    cases hf with
    | cons hf hfs =>
      cases hg with
      | cons hg hgs =>
        exact .cons ⟨e, hfit e List.mem_cons_self, hf, hg⟩ (ih (fun e he => hfit e (List.mem_cons_of_mem _ he)) hfs hgs)

theorem held (hfit : e.Everywhere Fit) (hf : Reads .mathml e.mathml f) (hnode : LaysOut shape encode e node)
    (hg : Reads shape node g) : Held (Twin shape encode Fit) f g := by
  rcases hnode with rfl | hwraps
  · exact .inl ⟨e, hfit, hf, hg⟩
  · have hparts := hg.parts hwraps.parts
    generalize hgs : g.parts = gs at hparts
    cases hparts with
    | cons hinner hnil =>
      cases hnil
      exact .inr ⟨by rw [hg.kind, hwraps.kind], _, hgs, e, hfit, hf, hinner⟩

/-- a structure of MathML has the arguments of its expression -/
theorem parts_mathml (hleaf : e.isLeaf = false) (h : Reads .mathml e.mathml f) :
    List.Forall₂ (Reads .mathml) (e.parts.map Expression.mathml) f.parts :=
  h.parts fun trail => Expression.partPlaces_mathml hleaf trail

theorem parts_list (hE : Encodes shape encode Fit) {kind : ListKind} {marks : Marks} {items : List Expression}
    (hsqrt : kind ≠ .sqrt) (hfit : (Expression.list kind marks items).Everywhere Fit)
    (hf : Reads .mathml (Expression.list kind marks items).mathml f)
    (hg : Reads shape (encode (.list kind marks items)) g) : List.Forall₂ (Twin shape encode Fit) f.parts g.parts :=
  forall₂_of_items (fun _ he => hfit.part he) (parts_mathml rfl hf) (hg.parts (hE.list marks items hsqrt))

/-! ### What structures look for in an argument -/

/-- code points other than that of a radical sign are shown by both or by neither -/
theorem showsAny_eq {cs : List Char} {marks : List Nat} (hmarks : marks.contains Expression.radicalSign.toNat = false)
    (hsolid : Solid e.text) (hshows : Shows shape Fit e node cs) (hf : Reads .mathml e.mathml f) (hg : Reads shape node g) :
    f.showsAny marks = g.showsAny marks := by
  have hany := any_eq_of_filter_perm (hshows.perm (fun c => marks.contains c.toNat) hmarks)
  rw [Formula.showsAny, Formula.showsAny, hf.points, hg.points, (Expression.showsText hsolid).points, hshows.glyphs.points,
    List.any_map, List.any_map]
  exact hany.symm

/-- the test for an integral sign has the same result -/
theorem isIntegral_eq (hE : Encodes shape encode Fit) (hS : Suits shape R Fit) (hfit : e.Everywhere Fit) {cs : List Char}
    (hshows : Shows shape Fit e node cs) (hsign : e.isLeaf = true ∨ (DrawsIntegral shape cs ↔ WritesIntegral e.text))
    (hf : Reads .mathml e.mathml f) (hg : Reads shape node g) : f.isIntegral = g.isIntegral := by
  rcases hsign with hleaf | hsign
  · rw [Formula.isIntegral, Formula.isIntegral, key_eq hS hshows hleaf hfit.here hf hg,
      raw_eq hS hshows hleaf hfit.here hf hg]
  · have hsolid := hS.solid_text hfit
    rw [Bool.eq_iff_iff, (Expression.showsText hsolid).isIntegral hf,
      hshows.glyphs.isIntegral hg hE.byGlyphs (hshows.solid hsolid), hsign]

/-! ### The simulation -/

theorem marks_eq (hE : Encodes shape encode Fit) {name : String} (hname : name ∈ attributesRead) :
    e.mathml.attr? name = (encode e).attr? name := by
  rw [Expression.attr?_mathml, hE.attr e name hname]

theorem indistinct (hE : Encodes shape encode Fit) (hS : Suits shape R Fit) : Indistinct (Twin shape encode Fit) where
  kind := by
    rintro f g ⟨e, -, hf, hg⟩
    rw [kind_mathml hf, kind_encoded hE hg]
  role := by
    rintro f g ⟨e, -, hf, hg⟩
    rw [hf.role, hg.role, marks_eq hE (by simp [attributesRead])]
  type := by
    rintro f g ⟨e, -, hf, hg⟩
    rw [hf.type, hg.type, marks_eq hE (by simp [attributesRead])]
  key := by
    rintro f g ⟨e, hfit, hf, hg⟩ hk
    obtain ⟨cs, hshows⟩ := hE.shows e
    exact key_eq hS hshows (isLeaf_of_kind hf hk) hfit.here hf hg
  raw := by
    rintro f g ⟨e, hfit, hf, hg⟩ hk
    obtain ⟨cs, hshows⟩ := hE.shows e
    exact raw_eq hS hshows (isLeaf_of_kind hf hk) hfit.here hf hg
  list := by
    rintro f g ⟨e, hfit, hf, hg⟩ hk
    rw [kind_mathml hf] at hk
    cases e with
    | list kind marks items =>
      refine parts_list hE ?_ hfit hf hg
      rintro rfl
      simp [Expression.kind, ListKind.kind, Kind.isPlain] at hk
    | leaf kind | pair kind | triple kind => cases kind <;> simp [Expression.kind, LeafKind.kind, PairKind.kind,
        TripleKind.kind, Kind.isPlain] at hk

theorem sqrt_parts (hE : Encodes shape encode Fit) {marks : Marks} {items : List Expression}
    (hfit : (Expression.list .sqrt marks items).Everywhere Fit)
    (hf : Reads .mathml (Expression.list .sqrt marks items).mathml f) (hg : Reads shape (encode (.list .sqrt marks items)) g) :
    List.Forall₂ (Twin shape encode Fit) f.parts g.parts ∨
      ∃ box, g.parts = [box] ∧ box.kind = .container ∧ List.Forall₂ (Twin shape encode Fit) f.parts box.parts := by
  have hitems : ∀ item ∈ items, item.Everywhere Fit := by
    intro _ hitem
    exact hfit.part hitem
  have hparts := parts_mathml rfl hf
  obtain ⟨nodes, hnodes, hcases⟩ := hE.radicand marks items
  have hread := hg.parts hnodes
  rcases hcases with rfl | ⟨box, rfl, hwraps⟩
  · exact .inl (forall₂_of_items hitems hparts hread)
  · generalize hgs : g.parts = gs at hread ⊢
    cases hread with
    | cons hbox hnil =>
      cases hnil
      exact .inr ⟨_, rfl, by rw [hbox.kind, hwraps.kind],
        forall₂_of_items hitems hparts (hbox.parts hwraps.parts)⟩

theorem pair_parts (hE : Encodes shape encode Fit) {kind : PairKind} {marks : Marks} {first second : Expression}
    (hf : Reads .mathml (Expression.pair kind marks first second).mathml f)
    (hg : Reads shape (encode (.pair kind marks first second)) g) : ∃ a b a' b' x y,
      f.parts = [a, b] ∧ g.parts = [a', b'] ∧ Reads .mathml first.mathml a ∧ Reads .mathml second.mathml b ∧
        Reads shape x a' ∧ Reads shape y b' ∧ LaysOut shape encode first x ∧ LaysOut shape encode second y ∧
          (kind = .superscript → x = encode first) ∧ (kind = .overscript → ∃ cs, Shows shape Fit second y cs) := by
  obtain ⟨x, y, hnodes, hx, hy, hspecial⟩ := hE.pair kind marks first second
  obtain ⟨a, b, hparts, ha, hb⟩ := pair_of_forall₂ (parts_mathml rfl hf)
  obtain ⟨a', b', hparts', ha', hb'⟩ := pair_of_forall₂ (hg.parts hnodes)
  exact ⟨a, b, a', b', x, y, hparts, hparts', ha, hb, ha', hb', hx, hy, hspecial⟩

/-- the base of a superscript stands in no container of its own -/
theorem superscript_parts (hE : Encodes shape encode Fit) (h : Twin shape encode Fit f g) (hk : f.kind = .superscript) :
    ∃ a b a' b', f.parts = [a, b] ∧ g.parts = [a', b'] ∧ Twin shape encode Fit a a' ∧ Held (Twin shape encode Fit) b b' := by
  obtain ⟨e, hfit, hf, hg⟩ := h
  rw [kind_mathml hf] at hk
  obtain ⟨kind, marks, base, script, rfl⟩ := e.exists_pair (by rw [hk]; rfl)
  obtain ⟨a, b, a', b', x, y, hparts, hparts', ha, hb, ha', hb', -, hy, hbase, -⟩ := pair_parts hE hf hg
  have hkind : kind = .superscript := by cases kind <;> first | rfl | cases hk
  rw [hbase hkind] at ha'
  exact ⟨a, b, a', b', hparts, hparts', ⟨base, hfit.part (by simp [Expression.parts]), ha, ha'⟩,
    held (hfit.part (by simp [Expression.parts])) hb hy hb'⟩

/-- what stands over a base shows the same arrows and lines -/
theorem overscript_showsAny (hE : Encodes shape encode Fit) (hS : Suits shape R Fit) (h : Twin shape encode Fit f g)
    (hk : f.kind = .over) {a b a' b' : Formula} (hparts : f.parts = [a, b]) (hparts' : g.parts = [a', b']) :
    b.showsAny vectorMarks = b'.showsAny vectorMarks ∧ b.showsAny overlineMarks = b'.showsAny overlineMarks := by
  obtain ⟨e, hfit, hf, hg⟩ := h
  rw [kind_mathml hf] at hk
  obtain ⟨kind, marks, base, script, rfl⟩ := e.exists_pair (by rw [hk]; rfl)
  obtain ⟨_, _, _, _, x, y, hp, hp', -, hb, -, hb', -, -, -, hover⟩ := pair_parts hE hf hg
  rw [hparts] at hp
  rw [hparts'] at hp'
  cases hp
  cases hp'
  obtain ⟨cs, hshows⟩ := hover (by cases kind <;> first | rfl | cases hk)
  have hsolid : Solid script.text := hS.solid_text (hfit.part (by simp [Expression.parts]))
  exact ⟨showsAny_eq (by decide) hsolid hshows hb hb', showsAny_eq (by decide) hsolid hshows hb hb'⟩

/-- a base with two limits is an integral sign in both -/
theorem triple_parts (hE : Encodes shape encode Fit) (hS : Suits shape R Fit) (h : Twin shape encode Fit f g)
    (hk : f.kind.arity? = some 3) : ∃ a b c a' b' c', f.parts = [a, b, c] ∧ g.parts = [a', b', c'] ∧
      Held (Twin shape encode Fit) a a' ∧ Held (Twin shape encode Fit) b b' ∧ Held (Twin shape encode Fit) c c' ∧
        a.isIntegral = a'.isIntegral := by
  obtain ⟨e, hfit, hf, hg⟩ := h
  rw [kind_mathml hf] at hk
  obtain ⟨kind, marks, base, lower, upper, rfl⟩ := e.exists_triple hk
  obtain ⟨x, y, z, hnodes, hx, hy, hz, cs, hshows, hsign⟩ := hE.triple kind marks base lower upper
  obtain ⟨a, b, c, hparts, ha, hb, hc⟩ := triple_of_forall₂ (parts_mathml rfl hf)
  obtain ⟨a', b', c', hparts', ha', hb', hc'⟩ := triple_of_forall₂ (hg.parts hnodes)
  have hbase : base.Everywhere Fit := hfit.part (by simp [Expression.parts])
  have hlower : lower.Everywhere Fit := hfit.part (by simp [Expression.parts])
  have hupper : upper.Everywhere Fit := hfit.part (by simp [Expression.parts])
  exact ⟨a, b, c, a', b', c', hparts, hparts', held hbase ha hx ha', held hlower hb hy hb', held hupper hc hz hc',
    isIntegral_eq hE hS hbase hshows (hsign hfit) ha ha'⟩

/-- the MathML of a structure holds as many arguments as its kind takes -/
theorem length_parts {n : Nat} (hf : Reads .mathml e.mathml f) (hk : f.kind.arity? = some n) : f.parts.length = n := by
  rw [kind_mathml hf] at hk
  cases e with
  | pair kind marks first second =>
    obtain ⟨a, b, hparts, -⟩ := pair_of_forall₂ (parts_mathml rfl hf)
    cases kind <;> cases hk <;> rw [hparts] <;> rfl
  | triple kind marks base lower upper =>
    obtain ⟨a, b, c, hparts, -⟩ := triple_of_forall₂ (parts_mathml rfl hf)
    cases kind <;> cases hk <;> rw [hparts] <;> rfl
  | leaf kind | list kind => cases kind <;> cases hk

/-- **formulas read from one expression in two markups are related by a simulation** -/
theorem simulation (hR : Closeness .default R) (hE : Encodes shape encode Fit) (hS : Suits shape R Fit) :
    Simulation .default (Twin shape encode Fit) R where
  toIndistinct := indistinct hE hS
  close := hR
  shown := by
    rintro f g ⟨e, hfit, hf, hg⟩ hk
    have hleaf := isLeaf_of_kind hf hk
    obtain ⟨cs, hshows⟩ := hE.shows e
    rw [Formula.shown, Formula.shown, if_neg (by rw [kind_mathml hf]; exact e.kind_ne_bareText),
      if_neg (by rw [kind_encoded hE hg]; exact e.kind_ne_bareText), (content_text hS hleaf hfit.here hf).1,
      (content_glyphs hshows hleaf hfit.here hg).1]
    exact hS.close hleaf hfit.here
  variant := by
    rintro f g ⟨e, -, hf, hg⟩
    rw [hf.variant, hg.variant, marks_eq hE (by simp [attributesRead])]
  sqrt := by
    rintro f g ⟨e, hfit, hf, hg⟩ hk
    rw [kind_mathml hf] at hk
    cases e with
    | list kind marks items =>
      cases kind with
      | sqrt => exact sqrt_parts hE hfit hf hg
      | row | style => cases hk
    | leaf kind | pair kind | triple kind => cases kind <;> cases hk
  misfit := by
    rintro f g n ⟨e, -, hf, -⟩ hk hn
    exact absurd (length_parts hf hk) hn
  pair := by
    rintro f g ⟨e, hfit, hf, hg⟩ hk - -
    rw [kind_mathml hf] at hk
    obtain ⟨kind, marks, first, second, rfl⟩ := e.exists_pair hk
    obtain ⟨a, b, a', b', x, y, hparts, hparts', ha, hb, ha', hb', hx, hy, -⟩ := pair_parts hE hf hg
    exact ⟨a, b, a', b', hparts, hparts', held (hfit.part (by simp [Expression.parts])) ha hx ha',
      held (hfit.part (by simp [Expression.parts])) hb hy hb'⟩
  superscript := by
    intro f g h hk _
    exact superscript_parts hE h hk
  overscript := by
    intro f g h hk a b a' b' hparts hparts'
    exact overscript_showsAny hE hS h hk hparts hparts'
  triple := by
    intro f g h hk _
    exact triple_parts hE hS h hk

/-- the rows under two roots have close LaTeX -/
theorem rootLatex (hR : Closeness .default R) (hE : Encodes shape encode Fit) (hS : Suits shape R Fit) {es : List Expression}
    (hfit : ∀ e ∈ es, e.Everywhere Fit) {root : Node} (hkind : shape.kind root = .math)
    (hparts : ∀ trail, (Formula.partPlaces shape ⟨root, trail⟩).map (·.node) = es.map encode)
    (hf : Reads .mathml (Expression.mathmlRoot es) f) (hg : Reads shape root g) :
    R (f.latex .default) (g.latex .default) := by
  have hmath : f.kind = .math := hf.kind
  have hplaces (trail : List (Nat × Node)) :
      (Formula.partPlaces .mathml ⟨Expression.mathmlRoot es, trail⟩).map (·.node) = es.map Expression.mathml := by
    rw [Formula.partPlaces_mathml, map_node_countedChildren]
    change (Expression.mathmls es).filter _ = _
    rw [Expression.mathmls_eq, Expression.filter_mathmls]
  rw [latex_plain (by rw [hmath]; rfl), latex_plain (by rw [hg.kind, hkind]; rfl)]
  exact (simulation hR hE hS).rows (forall₂_of_items hfit (hf.parts hplaces) (hg.parts hparts))

end Twin

end Untypeset
