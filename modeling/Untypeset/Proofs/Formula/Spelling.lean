import Mathlib.Data.List.Forall2
import Mathlib.Data.List.Infix
import Mathlib.Data.List.MinMax
import Untypeset.Proofs.Formula.Content

/-!
Function names that are spelled letter by letter. The letters of a row are read from the left; where some block of them spells
a function name, the longest such block becomes the macro of the function, and any other letter stays as it is (`tokenised`).
A conversion gets there by another way: it extends the letters as long as a name starts like them, keeps the last complete
name that it met, and falls back on it where the letters go astray. What carries the proof is that no name can be missed by
that, since a name that goes on behind some letters starts with them (`longestName_cases`).

Results:
- `rowLatex_letters`: a row of letters is converted to its tokens;
- `spelled_names_leftmost_longest`: so is a row of identifiers in plain MathML, and no letter is lost or used twice.
-/

namespace Untypeset

open Untypeset.Markup Untypeset.Rendering Untypeset.Symbol Untypeset.Text

/-! ## Tokens of a word -/

namespace Latex

/-- whether a block of letters spells a function name, whatever their case -/
def spells (functions : List Latex) (block : List Char) : Bool :=
  2 ≤ block.length && functions.contains (block.map Char.toLower)

/-- the longest block at the start of some letters that spells a function name -/
def longestBlock? (functions : List Latex) (letters : List Char) : Option (List Char) :=
  (letters.inits.filter (spells functions)).argmax List.length

variable {functions : List Latex} {letters block : List Char}

theorem longestBlock?_eq_none_iff :
    longestBlock? functions letters = none ↔ ∀ block, block <+: letters → spells functions block = false := by
  simp [longestBlock?, List.argmax_eq_none, List.filter_eq_nil_iff, List.mem_inits]

theorem longestBlock?_eq_some_iff :
    longestBlock? functions letters = some block ↔
      block <+: letters ∧ spells functions block = true ∧
        ∀ other, other <+: letters → spells functions other = true → other.length ≤ block.length := by
  constructor
  · intro h
    have hmem := List.argmax_mem (f := List.length) h
    rw [List.mem_filter, List.mem_inits] at hmem
    refine ⟨hmem.1, hmem.2, fun other hother hspells => ?_⟩
    exact List.le_of_mem_argmax (List.mem_filter.2 ⟨(List.mem_inits _ _).2 hother, hspells⟩) h
  · rintro ⟨hstarts, hspells, hlongest⟩
    cases h : longestBlock? functions letters with
    | none =>
      rw [longestBlock?_eq_none_iff.1 h block hstarts] at hspells
      cases hspells
    | some found =>
      -- two prefixes of one length are the same
      have hfound := List.argmax_mem (f := List.length) h
      rw [List.mem_filter, List.mem_inits] at hfound
      have hle : block.length ≤ found.length :=
        List.le_of_mem_argmax (List.mem_filter.2 ⟨(List.mem_inits _ _).2 hstarts, hspells⟩) h
      have hsame : found <+: block := List.prefix_of_prefix_length_le hfound.1 hstarts (hlongest found hfound.1 hfound.2)
      rw [hsame.eq_of_length_le hle]

theorem two_le_length_of_longestBlock? (h : longestBlock? functions letters = some block) : 2 ≤ block.length := by
  have hspells := (longestBlock?_eq_some_iff.1 h).2.1
  rw [spells, Bool.and_eq_true, decide_eq_true_eq] at hspells
  exact hspells.1

/-- letters read from the left: the longest block that spells a function name becomes a backslash, the name in lower case and
a space, any other letter stands for itself -/
def tokenised (functions : List Latex) : List Char → Latex
  | [] => []
  | c :: rest =>
    match _h : longestBlock? functions (c :: rest) with
    | some block => '\\' :: block.map Char.toLower ++ ' ' :: tokenised functions ((c :: rest).drop block.length)
    | none => c :: tokenised functions rest
termination_by letters => letters.length
decreasing_by
  · have := two_le_length_of_longestBlock? _h
    simp only [List.length_drop, List.length_cons]
    omega
  · simp

theorem tokenised_of_none {c : Char} {rest : List Char} (h : longestBlock? functions (c :: rest) = none) :
    tokenised functions (c :: rest) = c :: tokenised functions rest := by
  rw [tokenised]
  split
  · rename_i block hblock
    rw [h] at hblock
    cases hblock
  · rfl

theorem tokenised_of_some (h : longestBlock? functions letters = some block) :
    tokenised functions letters =
      '\\' :: block.map Char.toLower ++ ' ' :: tokenised functions (letters.drop block.length) := by
  cases letters with
  | nil =>
    have hlength := two_le_length_of_longestBlock? h
    rw [List.prefix_nil.1 (longestBlock?_eq_some_iff.1 h).1] at hlength
    cases hlength
  | cons c rest =>
    rw [tokenised]
    split
    · rename_i found hfound
      rw [h] at hfound
      cases hfound
      rfl
    · rename_i hnone
      rw [h] at hnone
      cases hnone

/-- a small letter is a letter, and stays small -/
theorem toLower_letter {c : Char} (h : isAsciiLetter c = true) :
    isAsciiLetter c.toLower = true ∧ c.toLower.toLower = c.toLower := by
  have all : ∀ n < 0x80, isAsciiLetter (Char.ofNat n) = true →
      isAsciiLetter (Char.ofNat n).toLower = true ∧ (Char.ofNat n).toLower.toLower = (Char.ofNat n).toLower := by decide
  exact forall_ascii (P := fun c => isAsciiLetter c = true → isAsciiLetter c.toLower = true ∧ c.toLower.toLower = c.toLower)
    all (ascii_of_letter h) h

/-- no letter is lost, and none is used twice -/
theorem letters_tokenised (h : ∀ c ∈ letters, isAsciiLetter c = true) :
    ((tokenised functions letters).filter isAsciiLetter).map Char.toLower = letters.map Char.toLower := by
  fun_induction tokenised functions letters with
  | case1 => rfl
  | case2 c rest block hblock ih =>
    obtain ⟨tail, htail⟩ := (longestBlock?_eq_some_iff.1 hblock).1
    rw [← htail] at h ih ⊢
    rw [List.drop_left] at ih ⊢
    have hblockLetters : ∀ d ∈ block.map Char.toLower, isAsciiLetter d = true ∧ d.toLower = d := by
      intro d hd
      obtain ⟨e, he, rfl⟩ := List.mem_map.1 hd
      exact toLower_letter (h e (List.mem_append_left _ he))
    have hname : ('\\' :: block.map Char.toLower).filter isAsciiLetter = block.map Char.toLower := by
      rw [List.filter_cons_of_neg (by decide), List.filter_eq_self]
      exact fun d hd => (hblockLetters d hd).1
    have hsmall : (block.map Char.toLower).map Char.toLower = block.map Char.toLower :=
      (List.map_congr_left fun d hd => (hblockLetters d hd).2).trans (List.map_id _)
    rw [List.filter_append, hname, List.filter_cons_of_neg (by decide), List.map_append, hsmall,
      ih fun d hd => h d (List.mem_append_right _ hd), List.map_append]
  | case3 c rest hnone ih =>
    rw [List.filter_cons_of_pos (h c List.mem_cons_self), List.map_cons, ih fun d hd => h d (List.mem_cons_of_mem c hd),
      List.map_cons]

end Latex

/-! ## Names among letters -/

variable {symbols : SymbolTable} {letters : List Char}

theorem lowerCaseAfter_letters (before : List Char) (h : ∀ c ∈ letters, isAsciiLetter c = true) :
    lowerCaseAfter before letters = letters.map Char.toLower := by
  induction letters generalizing before with
  | nil => rfl
  | cons c rest ih =>
    have hc := h c List.mem_cons_self
    have hsigma : c ≠ 'Σ' := by
      rintro rfl
      exact absurd hc (by decide)
    rw [lowerCaseAfter, if_neg hsigma, lowerChar_ascii (ascii_of_letter hc), ih _ fun d hd => h d (List.mem_cons_of_mem c hd)]
    rfl

theorem solid_letters (h : ∀ c ∈ letters, isAsciiLetter c = true) : Solid letters := by
  intro c hc
  refine Bool.eq_false_iff.2 fun hblank => ?_
  have hletter := h c hc
  rw [not_letter_of_blank hblank] at hletter
  cases hletter

theorem lowerCase_letters (h : ∀ c ∈ letters, isAsciiLetter c = true) : lowerCase letters = letters.map Char.toLower :=
  lowerCaseAfter_letters [] h

/-- where every name has two letters, those that are names are those that spell one -/
theorem isFunction_letters (hnames : ∀ name ∈ symbols.functions, 2 ≤ name.length)
    (h : ∀ c ∈ letters, isAsciiLetter c = true) :
    symbols.isFunction letters = Latex.spells symbols.functions letters := by
  rw [SymbolTable.isFunction, trim_of_solid (solid_letters h), lowerCase_letters h, Latex.spells, Bool.eq_iff_iff,
    Bool.and_eq_true, Bool.and_eq_true, List.contains_iff_mem, decide_eq_true_eq]
  refine and_congr_left fun hmem => ?_
  have hlength := hnames _ hmem
  rw [List.length_map] at hlength
  cases letters with
  | nil => cases hlength
  | cons => exact iff_of_true rfl hlength

/-- where no name starts like some letters, none goes on behind them -/
theorem length_lt_of_astray {start block : List Char} (h : ∀ c ∈ letters, isAsciiLetter c = true) (hne : start ≠ [])
    (hstart : start <+: letters) (hastray : ¬ symbols.startsFunction start = true) (hblock : block <+: letters)
    (hspells : Latex.spells symbols.functions block = true) : block.length < start.length := by
  by_contra hle
  have hstarts : start <+: block := List.prefix_of_prefix_length_le hstart hblock (by omega)
  rw [Latex.spells, Bool.and_eq_true, List.contains_iff_mem] at hspells
  rw [SymbolTable.startsFunction, Bool.and_eq_true, List.any_eq_true, lowerCase_letters fun c hc => h c (hstart.subset hc)]
    at hastray
  refine hastray ⟨by simpa using hne, _, hspells.2, ?_⟩
  rw [List.isPrefixOf_iff_prefix]
  exact hstarts.map _

namespace Formula

/-- a leaf that shows one ASCII letter and nothing else, as an identifier without a role, a type or a variant -/
structure IsLetter (c : Char) (f : Formula) : Prop where
  kind : f.kind = .identifier
  content : f.facts.content = [c]
  role : f.facts.role = none
  type : f.facts.type = none
  variant : f.facts.variant = none
  letter : isAsciiLetter c = true

namespace IsLetter

variable {c : Char} {f : Formula}

theorem key (h : f.IsLetter c) : f.key = [c] := by
  rw [Formula.key, h.content]
  exact trim_of_solid (solid_letters (by simpa using h.letter))

theorem letter? (h : f.IsLetter c) : f.letter? = some c := by
  rw [Formula.letter?, if_pos h.kind, h.key]
  exact if_pos (isLetter_of_isAsciiLetter h.letter)

theorem takesArgument (h : f.IsLetter c) : f.takesArgument = false := by
  simp [Formula.takesArgument, h.role, h.type]

theorem latex (h : f.IsLetter c) (hnames : ∀ name ∈ symbols.functions, 2 ≤ name.length) : f.latex symbols = [c] := by
  have hname : symbols.isFunction [c] = false := by
    rw [isFunction_letters hnames (by simpa using h.letter)]
    rfl
  rw [latex_identifier h.kind, identifierLatex, h.key, hname, h.variant, h.content]
  rfl

end IsLetter

end Formula

variable {row : List Formula}

theorem letters_of_row (h : List.Forall₂ Formula.IsLetter letters row) : ∀ c ∈ letters, isAsciiLetter c = true := by
  induction h with
  | nil => exact nofun
  | cons hf _ ih => exact List.forall_mem_cons.2 ⟨hf.letter, ih⟩

/-- extending the letters `name` finds the longest name that goes on behind them, and what was found before where there is
none -/
theorem longestName_cases (best : Option (Latex × Nat)) (hnames : ∀ name ∈ symbols.functions, 2 ≤ name.length) {name : Latex}
    (hrow : List.Forall₂ Formula.IsLetter letters row) (hname : ∀ c ∈ name, isAsciiLetter c = true) :
    (∃ block, longestName symbols name name.length best row = some (block, block.length) ∧ block <+: name ++ letters ∧
        Latex.spells symbols.functions block = true ∧
        ∀ other, other <+: name ++ letters → Latex.spells symbols.functions other = true → other.length ≤ block.length) ∨
      longestName symbols name name.length best row = best ∧
        ∀ other, other <+: name ++ letters → Latex.spells symbols.functions other = true → other.length ≤ name.length := by
  induction hrow generalizing name best with
  | nil =>
    refine .inr ⟨rfl, fun other hother _ => ?_⟩
    rw [List.append_nil] at hother
    exact hother.length_le
  | @cons c f letters row hf hrow ih =>
    have hextended : ∀ d ∈ name ++ [c], isAsciiLetter d = true :=
      List.forall_mem_append.2 ⟨hname, List.forall_mem_singleton.2 hf.letter⟩
    have hlength : (name ++ [c]).length = name.length + 1 := List.length_append
    have hsplit : name ++ c :: letters = name ++ [c] ++ letters := by simp
    rw [longestName, hf.letter?]
    dsimp only
    rw [hsplit, ← hlength]
    split
    · -- some name starts with the letters read so far, which may be complete themselves
      rcases ih _ hextended with hlonger | ⟨hbest, hshort⟩
      · exact .inl hlonger
      · rw [hbest, isFunction_letters hnames hextended]
        split
        · rename_i hcomplete
          exact .inl ⟨name ++ [c], rfl, List.prefix_append _ _, hcomplete, hshort⟩
        · rename_i hincomplete
          refine .inr ⟨rfl, fun other hother hspells => ?_⟩
          have hle := hshort other hother hspells
          by_contra hlt
          have hsame : other = name ++ [c] := by
            refine (List.prefix_of_prefix_length_le hother (List.prefix_append _ _) hle).eq_of_length ?_
            omega
          rw [hsame] at hspells
          exact hincomplete hspells
    · rename_i hastray
      refine .inr ⟨rfl, fun other hother hspells => ?_⟩
      have hletters : ∀ d ∈ name ++ [c] ++ letters, isAsciiLetter d = true :=
        List.forall_mem_append.2 ⟨hextended, letters_of_row hrow⟩
      have hlt := length_lt_of_astray hletters (by simp) (List.prefix_append _ _) hastray hother hspells
      omega

/-- what the siblings from a letter on spell is the longest block -/
theorem spelledName?_letters (hnames : ∀ name ∈ symbols.functions, 2 ≤ name.length) {c : Char} {f : Formula}
    (hf : f.IsLetter c) (hrow : List.Forall₂ Formula.IsLetter letters row) :
    spelledName? symbols f row =
      (Latex.longestBlock? symbols.functions (c :: letters)).map fun block => (block, block.length) := by
  have hc : ∀ d ∈ [c], isAsciiLetter d = true := List.forall_mem_singleton.2 hf.letter
  have hnone : (∀ other, other <+: c :: letters → Latex.spells symbols.functions other = true → other.length ≤ 1) →
      Latex.longestBlock? symbols.functions (c :: letters) = none := by
    intro hshort
    refine Latex.longestBlock?_eq_none_iff.2 fun block hblock => Bool.eq_false_iff.2 fun hspells => ?_
    have htwo := hspells
    rw [Latex.spells, Bool.and_eq_true, decide_eq_true_eq] at htwo
    have := hshort block hblock hspells
    omega
  rw [spelledName?, hf.key]
  dsimp only
  split
  · rcases longestName_cases none hnames hrow hc with ⟨block, hlongest, hstarts, hspells, hmax⟩ | ⟨hbest, hshort⟩
    · have hblock : Latex.longestBlock? symbols.functions (c :: letters) = some block :=
        Latex.longestBlock?_eq_some_iff.2 ⟨hstarts, hspells, hmax⟩
      rw [hblock]
      exact hlongest
    · rw [hnone hshort]
      exact hbest
  · rename_i hastray
    have hletters : ∀ d ∈ c :: letters, isAsciiLetter d = true := List.forall_mem_cons.2 ⟨hf.letter, letters_of_row hrow⟩
    rw [hnone fun other hother hspells => ?_]
    · rfl
    exact Nat.le_of_lt (length_lt_of_astray hletters (by simp) (List.prefix_append [c] letters) hastray hother hspells)

/-! ## Rows of letters -/

/-- a letter takes no argument among letters -/
theorem takeApplied_letters {c : Char} {f : Formula} (hf : f.IsLetter c) (hrow : List.Forall₂ Formula.IsLetter letters row) :
    takeApplied f row = (none, .absent, row) := by
  cases hrow with
  | nil => rfl
  | cons hnext _ => simp [takeApplied, Formula.isApplication, hnext.kind, hf.takesArgument]

/-- and no prime -/
theorem takePrime_letters (hrow : List.Forall₂ Formula.IsLetter letters row) : takePrime row = (none, row) := by
  cases hrow with
  | nil => rfl
  | cons hnext _ => simp [takePrime, Formula.isPrime, hnext.kind]

theorem takeRun_letters {c : Char} {f : Formula} {head : Head} {after : List Formula} (hf : f.IsLetter c)
    (hhead : takeHead symbols f row = (head, after)) (hafter : List.Forall₂ Formula.IsLetter letters after) :
    takeRun symbols f row = (⟨head, none, .absent, none⟩, after) := by
  rw [takeRun, hhead]
  dsimp only
  rw [takeApplied_letters hf hafter]
  dsimp only
  rw [takePrime_letters hafter]

theorem latex_bareRun (head : Head) :
    (Segment.run ⟨head, none, .absent, none⟩).latex symbols = head.latex symbols := by
  rw [Segment.latex_run]
  exact List.append_nil _

/-- **a row of letters is converted to its tokens**, whether or not bars come in pairs in it -/
theorem cut_letters (hnames : ∀ name ∈ symbols.functions, 2 ≤ name.length) (paired : Bool)
    (hrow : List.Forall₂ Formula.IsLetter letters row) :
    (cut symbols paired row).flatMap (Segment.latex symbols) = Latex.tokenised symbols.functions letters := by
  fun_induction cut symbols paired row generalizing letters with
  | case1 =>
    cases hrow
    rw [Latex.tokenised]
    rfl
  | case2 f rest _ ih =>
    obtain ⟨c, letters, hf, hrest, rfl⟩ := List.forall₂_cons_right_iff.1 hrow
    have hspelled := spelledName?_letters hnames hf hrest
    cases hblock : Latex.longestBlock? symbols.functions (c :: letters) with
    | none =>
      have hrun : takeRun symbols f rest = (⟨.single f, none, .absent, none⟩, rest) := by
        refine takeRun_letters hf ?_ hrest
        rw [takeHead, hspelled, hblock]
        rfl
      rw [hrun] at ih ⊢
      rw [List.flatMap_cons, latex_bareRun, Head.latex, hf.latex hnames, ih hrest, Latex.tokenised_of_none hblock]
      rfl
    | some block =>
      have hdrop : List.Forall₂ Formula.IsLetter (letters.drop (block.length - 1)) (rest.drop (block.length - 1)) :=
        List.forall₂_drop _ hrest
      have hrun : takeRun symbols f rest =
          (⟨.spelled block f (rest.take (block.length - 1)), none, .absent, none⟩, rest.drop (block.length - 1)) := by
        refine takeRun_letters hf ?_ hdrop
        rw [takeHead, hspelled, hblock]
        rfl
      have hlength := Latex.two_le_length_of_longestBlock? hblock
      have hletters : ∀ d ∈ block, isAsciiLetter d = true := by
        intro d hd
        exact letters_of_row hrow d ((Latex.longestBlock?_eq_some_iff.1 hblock).1.subset hd)
      have hafter : (c :: letters).drop block.length = letters.drop (block.length - 1) := by
        rw [show block.length = block.length - 1 + 1 by omega, List.drop_succ_cons, Nat.add_sub_cancel]
      rw [hrun] at ih ⊢
      rw [List.flatMap_cons, latex_bareRun, Head.latex, Latex.functionMacro, trim_of_solid (solid_letters hletters),
        lowerCase_letters hletters, ih hdrop, Latex.tokenised_of_some hblock, hafter]
      simp
  | case3 f rest hkind | case4 f rest hkind =>
    obtain ⟨c, letters, hf, -, rfl⟩ := List.forall₂_cons_right_iff.1 hrow
    exact absurd hf.kind hkind

theorem rowLatex_letters (hnames : ∀ name ∈ symbols.functions, 2 ≤ name.length)
    (hrow : List.Forall₂ Formula.IsLetter letters row) :
    rowLatex symbols row = Latex.tokenised symbols.functions letters := by
  rw [rowLatex_eq, segments, cut_letters hnames _ hrow]

/-! ## Letters in plain MathML -/

/-- an identifier of plain MathML that shows one ASCII letter and has no attributes -/
structure Markup.Node.ShowsLetter (c : Char) (node : Node) : Prop where
  kind : MathML.kind node = .identifier
  bare : ∀ name, node.attr? name = none
  text : node.trimmed = [c]
  letter : isAsciiLetter c = true

theorem Markup.Node.ShowsLetter.isLetter {c : Char} {place : Located} (h : place.node.ShowsLetter c)
    (hnames : ∀ name ∈ symbols.functions, 2 ≤ name.length) : (Formula.read .mathml symbols place).IsLetter c where
  kind := by
    rw [Formula.kind_read]
    exact h.kind
  content := by
    have hname : symbols.isFunction [c] = false := by
      rw [isFunction_letters hnames (by simpa using h.letter)]
      rfl
    have hascii : ¬ 0x7F < c.toNat := by
      have := ascii_of_letter h.letter
      omega
    have htrim : trim [c] = [c] := trim_of_solid (solid_letters (by simpa using h.letter))
    rw [Formula.facts_read, Formula.factsAt, Formula.content, h.text, Formula.textContent, Formula.textSymbol?]
    simp [SymbolTable.functionOr, hascii, htrim, hname]
  role := by
    rw [Formula.facts_read]
    exact h.bare _
  type := by
    rw [Formula.facts_read]
    exact h.bare _
  variant := by
    rw [Formula.facts_read]
    exact h.bare _
  letter := h.letter

/-- **split function names are put together by leftmost-longest match**: identifiers of one letter each are converted to the
tokens of their letters, which are all there, each once -/
theorem spelled_names_leftmost_longest {symbols : SymbolTable} (hnames : ∀ name ∈ symbols.functions, 2 ≤ name.length)
    {letters : List Char} {places : List Located}
    (hplaces : List.Forall₂ (fun c (place : Located) => place.node.ShowsLetter c) letters places) :
    rowLatex symbols (places.map (Formula.read .mathml symbols)) = Latex.tokenised symbols.functions letters ∧
      ((rowLatex symbols (places.map (Formula.read .mathml symbols))).filter isAsciiLetter).map Char.toLower =
        letters.map Char.toLower := by
  have hrow : List.Forall₂ Formula.IsLetter letters (places.map (Formula.read .mathml symbols)) := by
    rw [List.forall₂_map_right_iff]
    exact hplaces.imp fun _ _ h => h.isLetter hnames
  have hlatex := rowLatex_letters hnames hrow
  refine ⟨hlatex, ?_⟩
  rw [hlatex]
  exact Latex.letters_tokenised (letters_of_row hrow)

/-- an identifier for each letter -/
def identifiers (letters : List Char) : List Located :=
  letters.map fun c => .top (.element "mi" [] [.text .plain (String.ofList [c])])

theorem showsLetter_identifiers (h : ∀ c ∈ letters, isAsciiLetter c = true) :
    List.Forall₂ (fun c (place : Located) => place.node.ShowsLetter c) letters (identifiers letters) := by
  rw [identifiers, List.forall₂_map_right_iff, List.forall₂_same]
  intro c hc
  refine ⟨rfl, fun _ => rfl, ?_, h c hc⟩
  have hcontent : (Node.element "mi" [] [.text .plain (String.ofList [c])]).content = [c] :=
    (List.append_nil _).trans String.toList_ofList
  rw [Node.trimmed, Located.top, hcontent]
  exact trim_of_solid (solid_letters (by simpa using h c hc))

/-- a name that is broken off, one that is overshot, and two of which the first goes on to no name with the second -/
theorem spelled_names_leftmost_longest_of_overshot :
    (∀ name ∈ SymbolTable.default.functions, 2 ≤ name.length) ∧
      rowLatex .default ((identifiers "arcxsINflimsup".toList).map (Formula.read .mathml .default)) =
        "arcx\\sin f\\lim \\sup ".toList ∧
      Latex.tokenised SymbolTable.default.functions "arcxsINflimsup".toList = "arcx\\sin f\\lim \\sup ".toList := by
  have hnames : ∀ name ∈ SymbolTable.default.functions, 2 ≤ name.length := by decide +kernel
  have hletters : ∀ c ∈ "arcxsINflimsup".toList, isAsciiLetter c = true := List.all_eq_true.1 (by decide +kernel)
  have htokens : Latex.tokenised SymbolTable.default.functions "arcxsINflimsup".toList =
      "arcx\\sin f\\lim \\sup ".toList := by decide +kernel
  exact ⟨hnames, (spelled_names_leftmost_longest hnames (showsLetter_identifiers hletters)).1.trans htokens, htokens⟩

end Untypeset
