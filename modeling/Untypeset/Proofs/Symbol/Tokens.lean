import Untypeset.Proofs.Symbol.Canonical
import Untypeset.Proofs.Symbol.Spelled
import Untypeset.Proofs.Text.Case
import Untypeset.Proofs.Text.Squash

/-!
The tokens of the default table. A character without an entry stands for itself; no token is the name of a function, and
none but that of the integral sign can be taken for it.
-/

namespace Untypeset.Symbol

open Untypeset.Text

/-- the token of a character -/
def tokenOf (c : Char) : Latex :=
  SymbolTable.default.codePointToken c.toNat

/-- the same character with or without a space behind it -/
def IsLiteral (c : Char) (token : Latex) : Prop :=
  token = [c] ∨ token = [c, ' ']

theorem trimEnd_of_isLiteral {c : Char} {token : Latex} (hc : isBlank c = false) (h : IsLiteral c token) :
    trimEnd token = [c] := by
  rcases h with rfl | rfl
  · exact trimEnd_of_solid (by simpa [Solid] using hc)
  · rw [trimEnd_cons, if_neg (by simp [hc])]
    rfl

theorem trim_of_isLiteral {c : Char} {token : Latex} (hc : isBlank c = false) (h : IsLiteral c token) :
    trim token = [c] := by
  rcases h with rfl | rfl
  · exact trim_of_solid (by simpa [Solid] using hc)
  · rw [trim_cons_solid hc]
    rfl

/-- a character has an entry in the table, or its token is the character, mostly with a space behind it -/
theorem tokenOf_cases (c : Char) :
    (c.toNat, tokenOf c) ∈ spelledGlyphs ∨
      SymbolTable.default.glyph? c.toNat = none ∧ IsLiteral c (tokenOf c) := by
  rw [tokenOf, SymbolTable.codePointToken, glyph?_default]
  cases h : spelledGlyphs.lookup c.toNat with
  | some token =>
    rw [Option.getD_some]
    exact .inl (mem_of_lookup h)
  | none =>
    right
    refine ⟨rfl, ?_⟩
    rw [Option.getD_none, literalToken_eq, charOfCode?_toNat]
    dsimp only
    split
    · exact .inl rfl
    · exact .inr rfl

/-- every ASCII character has a token that is not empty -/
theorem tokenOf_ne_nil {c : Char} (h : c.toNat < 0x80) : tokenOf c ≠ [] := by
  have hentries : ∀ entry ∈ spelledGlyphs, entry.1 < 0x80 → entry.2 ≠ [] := by decide +kernel
  rcases tokenOf_cases c with hentry | ⟨-, hliteral⟩
  · exact hentries _ hentry h
  · rcases hliteral with htoken | htoken <;> rw [htoken] <;> simp

/-! ## Functions -/

/-- one character is lowered to one character, apart from the dotted capital that is lowered to two -/
theorem lowerCase_singleton (c : Char) :
    (lowerCase [c]).length = 1 ∨ ∃ entry ∈ lowerExpansions, lowerCase [c] = entry.2.map Char.ofNat := by
  rw [lowerCase, lowerCaseAfter, lowerCaseAfter, List.append_nil]
  split
  · exact .inl rfl
  · unfold lowerChar
    split
    · exact .inl rfl
    · unfold mapCase
      split
      · rename_i codes hcodes
        exact .inr ⟨(c.toNat, codes), mem_of_lookup hcodes, rfl⟩
      · split <;> exact .inl rfl

/-- no function has a name of a single character -/
theorem isFunction_singleton (c : Char) : SymbolTable.default.isFunction [c] = false := by
  have hlong : ∀ name ∈ spelledFunctions.1, name.length ≠ 1 := by decide
  have hexpansions : ∀ entry ∈ lowerExpansions, entry.2.map Char.ofNat ∉ spelledFunctions.1 := by decide
  rw [Bool.eq_false_iff]
  intro h
  have hmem := mem_of_isFunction h
  by_cases hc : isBlank c = true
  · rw [trim_cons_blank hc] at hmem
    exact absurd hmem (by decide)
  · rw [trim_of_solid (by simpa [Solid] using hc)] at hmem
    rcases lowerCase_singleton c with hlen | ⟨entry, hentry, heq⟩
    · exact hlong _ hmem hlen
    · rw [heq] at hmem
      exact hexpansions entry hentry hmem

theorem functionOr_singleton (c : Char) : SymbolTable.default.functionOr [c] = [c] := by
  have htrim : trim [c] = [] ∨ trim [c] = [c] := by
    by_cases hc : isBlank c = true
    · exact .inl (trim_cons_blank hc [])
    · exact .inr (trim_of_solid (by simpa [Solid] using hc))
  rw [SymbolTable.functionOr]
  rcases htrim with h | h
  · rw [h]
    rfl
  · rw [h, isFunction_singleton]
    rfl

/-- the signs other than letters that tokens of more than one character start with -/
def tokenSigns : List Char :=
  ['\\', '^', '_', '\x7b', '|']

/-- no function has a name that starts with such a sign -/
theorem isFunction_of_sign {c : Char} {s : Latex} (hc : c ∈ tokenSigns) :
    SymbolTable.default.isFunction (c :: s) = false := by
  have hsigns : ∀ c ∈ tokenSigns, isBlank c = false ∧ c ≠ 'Σ' ∧ lowerChar c = [c] :=
    List.all_iff_forall_prop.1 (by decide)
  have hnames : ∀ name ∈ spelledFunctions.1, name.head?.any tokenSigns.contains = false := by decide
  obtain ⟨hsolid, hsigma, hlower⟩ := hsigns c hc
  rw [Bool.eq_false_iff]
  intro h
  have hmem := mem_of_isFunction h
  rw [trim_cons_solid hsolid, lowerCase, lowerCaseAfter, if_neg hsigma, hlower] at hmem
  have hstart : tokenSigns.contains c = false := hnames _ hmem
  rw [List.contains_iff_mem.2 hc] at hstart
  cases hstart

/-- no more than one character, or a start with a sign -/
def startsPlainly : Latex → Bool
  | [] | [_] => true
  | c :: _ => tokenSigns.contains c

/-- no token in the table is the name of a function -/
theorem isFunction_of_entry {entry : Nat × Latex} (h : entry ∈ spelledGlyphs) :
    SymbolTable.default.isFunction (trim entry.2) = false := by
  have hstarts : ∀ entry ∈ spelledGlyphs, startsPlainly (trim entry.2) = true := by decide +kernel
  have hstart := hstarts entry h
  revert hstart
  rcases trim entry.2 with _ | ⟨c, _ | ⟨d, s⟩⟩
  · exact fun _ => rfl
  · exact fun _ => isFunction_singleton c
  · exact fun hsign => isFunction_of_sign (List.contains_iff_mem.1 hsign)

/-- no token is the name of a function -/
theorem isFunction_tokenOf {c : Char} (hc : isBlank c = false) : SymbolTable.default.isFunction (trim (tokenOf c)) = false := by
  rcases tokenOf_cases c with h | ⟨-, h⟩
  · exact isFunction_of_entry h
  · rw [trim_of_isLiteral hc h, isFunction_singleton]

theorem functionOr_tokenOf {c : Char} (hc : isBlank c = false) :
    SymbolTable.default.functionOr (tokenOf c) = tokenOf c := by
  rw [SymbolTable.functionOr, isFunction_tokenOf hc]
  rfl

/-! ## The integral sign -/

/-- the control word of the integral sign -/
def integralWord : Latex := ['\\', 'i', 'n', 't']

/-- what makes the token of a character tell it from the integral sign -/
structure Settled (c : Char) (token : Latex) : Prop where
  start : trimStart token = token
  word : trimEnd token = integralWord ↔ c = '∫'
  sign : '∫' ∉ token

instance (c : Char) (token : Latex) : Decidable (Settled c token) :=
  decidable_of_iff
    (trimStart token = token ∧ (trimEnd token = integralWord ↔ c = '∫') ∧ '∫' ∉ token)
    ⟨fun h => ⟨h.1, h.2.1, h.2.2⟩, fun h => ⟨h.start, h.word, h.sign⟩⟩

theorem settled_of_isLiteral {c : Char} {token : Latex} (hc : isBlank c = false) (hsign : c ≠ '∫') (h : IsLiteral c token) :
    Settled c token where
  start := by rcases h with rfl | rfl <;> simp [trimStart, hc]
  word := by simp [trimEnd_of_isLiteral hc h, integralWord, hsign]
  sign := by
    have hspace : '∫' ≠ ' ' := by decide
    rcases h with rfl | rfl <;> simp [Ne.symm hsign, hspace]

theorem settled_tokenOf {c : Char} (hc : isBlank c = false) : Settled c (tokenOf c) := by
  have hentries : ∀ entry ∈ spelledGlyphs, entry.1 ≠ 0x20 → Settled (Char.ofNat entry.1) entry.2 := by decide +kernel
  have hsign : SymbolTable.default.glyph? '∫'.toNat ≠ none := by
    rw [glyph?_default]
    decide
  rcases tokenOf_cases c with h | ⟨hnone, h⟩
  · have hspace : c.toNat ≠ 0x20 := by
      intro heq
      rw [Char.toNat_inj.1 (show c.toNat = ' '.toNat from heq)] at hc
      cases hc
    have := hentries _ h hspace
    rwa [Char.ofNat_toNat] at this
  · have hne : c ≠ '∫' := by
      rintro rfl
      exact hsign hnone
    exact settled_of_isLiteral hc hne h

/-- only the token of a backslash is a backslash -/
theorem trimEnd_tokenOf_ne {c : Char} (hc : isBlank c = false) (hback : c ≠ '\\') : trimEnd (tokenOf c) ≠ ['\\'] := by
  have hentries : ∀ entry ∈ spelledGlyphs, trimEnd entry.2 = ['\\'] → entry.1 = 0x5C := by decide +kernel
  rcases tokenOf_cases c with h | ⟨-, h⟩
  · intro heq
    exact hback (Char.toNat_inj.1 (hentries _ h heq))
  · simpa [trimEnd_of_isLiteral hc h] using hback

end Untypeset.Symbol
