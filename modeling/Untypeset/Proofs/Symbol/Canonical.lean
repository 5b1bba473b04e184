import Untypeset.Proofs.Symbol.GlyphCode
import Untypeset.Symbol.Table

/-!
Glyph codes have one canonical key (`canonical_key`). The key is built in two ways, from the digits of a code and from the number
of a code point; the first is the key of the number that the digits denote (`canonicalKey?_text`). So a dictionary with textual
keys has one entry for every spelling of a number and for the code point with this number, and it is the entry that the table
lists under the number (`glyphOfKey?_codeKey`, `glyphOfKey?_eq_lookup`). A number without an entry has its literal token, however
large it is.
-/

namespace Untypeset.Symbol

open Untypeset.Text Untypeset.Latex

variable (symbols : SymbolTable) {n : Nat}

theorem canonicalKey?_isSome_iff (raw : Latex) :
    (canonicalKey? raw).isSome = true ↔ ∃ spelling : CodeSpelling, spelling.text = raw := by
  rw [Option.isSome_iff_exists]
  constructor
  · rintro ⟨key, hkey⟩
    obtain ⟨spelling, htext, -⟩ := exists_of_canonicalKey? hkey
    exact ⟨spelling, htext⟩
  · rintro ⟨spelling, rfl⟩
    exact ⟨_, canonicalKey?_text spelling⟩

/-! ## Entries under textual keys -/

/-- the entry under the key of a number is the one that the table lists under the number -/
theorem glyphOfKey?_codeKey (n : Nat) : symbols.glyphOfKey? (codeKey n) = symbols.glyph? n := by
  rw [SymbolTable.glyphOfKey?, keyNumber_codeKey, if_pos rfl]

theorem glyphOfKey?_of_forall_ne {key : Latex} (h : ∀ n, codeKey n ≠ key) : symbols.glyphOfKey? key = none :=
  if_neg (h _)

theorem glyphsOfKeys_cons_codeKey (n : Nat) (token : Latex) (entries : List (Latex × Latex)) :
    glyphsOfKeys ((codeKey n, token) :: entries) = (n, token) :: glyphsOfKeys entries := by
  simp [glyphsOfKeys, readCode?_codeKey]

/-- an entry under another key than a canonical one is not taken over -/
theorem glyphsOfKeys_cons_of_forall_ne {key : Latex} (h : ∀ n, codeKey n ≠ key) (token : Latex)
    (entries : List (Latex × Latex)) : glyphsOfKeys ((key, token) :: entries) = glyphsOfKeys entries := by
  cases hread : readCode? key <;> simp [glyphsOfKeys, hread, h]

/-- each entry is found by the number whose key it stands under -/
theorem lookup_glyphsOfKeys (entries : List (Latex × Latex)) (n : Nat) :
    (glyphsOfKeys entries).lookup n = entries.lookup (codeKey n) := by
  induction entries with
  | nil => rfl
  | cons entry entries ih =>
    obtain ⟨key, token⟩ := entry
    by_cases hkey : ∃ m, codeKey m = key
    · obtain ⟨m, rfl⟩ := hkey
      have hsame : (codeKey n == codeKey m) = (n == m) := by
        rw [Bool.eq_iff_iff, beq_iff_eq, beq_iff_eq, codeKey_inj]
      rw [glyphsOfKeys_cons_codeKey, List.lookup_cons, List.lookup_cons, ih, hsame]
    · rw [not_exists] at hkey
      rw [glyphsOfKeys_cons_of_forall_ne hkey, ih, List.lookup_cons, beq_false_of_ne (hkey n)]

/-- every table of glyphs is given by textual keys, the canonical ones -/
theorem glyphsOfKeys_map_codeKey (glyphs : List (Nat × Latex)) :
    glyphsOfKeys (glyphs.map fun glyph => (codeKey glyph.1, glyph.2)) = glyphs := by
  rw [glyphsOfKeys, List.filterMap_map]
  simp [readCode?_codeKey]

/-- **a table is a dictionary with textual keys**, those of its numbers -/
theorem glyphOfKey?_eq_lookup (key : Latex) :
    symbols.glyphOfKey? key = (symbols.glyphs.map fun glyph => (codeKey glyph.1, glyph.2)).lookup key := by
  by_cases hkey : ∃ n, codeKey n = key
  · obtain ⟨n, rfl⟩ := hkey
    rw [glyphOfKey?_codeKey, SymbolTable.glyph?, ← lookup_glyphsOfKeys, glyphsOfKeys_map_codeKey]
  · rw [not_exists] at hkey
    rw [glyphOfKey?_of_forall_ne symbols hkey, eq_comm, List.lookup_eq_none_iff]
    intro entry hentry
    obtain ⟨glyph, -, rfl⟩ := List.mem_map.1 hentry
    exact bne_iff_ne.2 (Ne.symm (hkey glyph.1))

/-- **a dictionary with textual keys is read as it stands**, as far as its keys are those of numbers -/
theorem glyphOfKey?_glyphsOfKeys (entries : List (Latex × Latex)) (n : Nat) :
    { symbols with glyphs := glyphsOfKeys entries }.glyphOfKey? (codeKey n) = entries.lookup (codeKey n) := by
  rw [glyphOfKey?_codeKey, SymbolTable.glyph?, lookup_glyphsOfKeys]

/-- the entry of a character is the one that the table lists under its number -/
theorem charToken?_singleton (c : Char) : symbols.charToken? [c] = symbols.glyph? c.toNat :=
  glyphOfKey?_codeKey symbols c.toNat

/-! ## Tokens -/

/-- the token of a number without an entry -/
def literalToken (code : Nat) : Latex :=
  CodePoint.toText (literalPoints (codeKey code) code)

/-- the token of a number: its entry, or its literal token -/
def SymbolTable.codePointToken (symbols : SymbolTable) (code : Nat) : Latex :=
  (symbols.glyph? code).getD (literalToken code)

theorem literalToken_eq (n : Nat) : literalToken n =
    match charOfCode? n with
    | none => '[' :: codeKey n ++ [']']
    | some c => if isCombining n then [c] else [c, ' '] := by
  rw [literalToken, literalPoints, charOfCode?]
  cases CodePoint.ofCode? n with
  | none => exact CodePoint.toText_ofText _
  | some p =>
    have hspace : (CodePoint.ofChar ' ').shown = ' ' := CodePoint.shown_ofChar ' '
    rw [Option.map_some]
    dsimp only
    split
    · rfl
    · rw [CodePoint.toText, List.map_cons, List.map_singleton, hspace]

/-- a spelling stands for the entry of its number's key, or for the number by itself -/
theorem tokenPoints_text (spelling : CodeSpelling) : symbols.tokenPoints spelling.text =
    ((symbols.glyphOfKey? (codeKey spelling.number)).map CodePoint.ofText).getD
      (literalPoints (codeKey spelling.number) spelling.number) := by
  rw [SymbolTable.tokenPoints, canonicalKey?_text]
  dsimp only
  cases h : symbols.glyphOfKey? (codeKey spelling.number) with
  | some token => rfl
  | none => rw [keyNumber_codeKey, Option.map_none, Option.getD_none]

theorem codeToken_text (spelling : CodeSpelling) :
    symbols.codeToken spelling.text = symbols.codePointToken spelling.number := by
  rw [SymbolTable.codeToken, tokenPoints_text, SymbolTable.codePointToken, glyphOfKey?_codeKey]
  cases symbols.glyph? spelling.number with
  | none => rfl
  | some token => exact CodePoint.toText_ofText token

/-- the token of a code that is read to a number -/
theorem codeToken_of_readCode? {raw : Latex} (h : readCode? raw = some n) :
    symbols.codeToken raw = symbols.codePointToken n := by
  obtain ⟨key, hkey, -⟩ := Option.map_eq_some_iff.1 h
  obtain ⟨spelling, rfl, -⟩ := exists_of_canonicalKey? hkey
  rw [readCode?_text] at h
  rw [codeToken_text, Option.some.inj h]

theorem codeToken_of_unreadable {raw : Latex} (h : readCode? raw = none) : symbols.codeToken raw = unreadableToken raw := by
  have hkey : canonicalKey? raw = none := Option.map_eq_none_iff.1 h
  rw [SymbolTable.codeToken, SymbolTable.tokenPoints, hkey]
  exact CodePoint.toText_ofText _

theorem literalPoints_code (key : Latex) (p : CodePoint) :
    literalPoints key p.code = if isCombining p.code then [p] else [p, .ofChar ' '] := by
  rw [literalPoints, CodePoint.ofCode?_code]

theorem literalPoints_of_large (key : Latex) (h : 0x10FFFF < n) :
    literalPoints key n = CodePoint.ofText ('[' :: key ++ [']']) := by
  rw [literalPoints, CodePoint.ofCode?_of_large h]

/-- **Glyph codes have one canonical key.** A text has a key exactly if it spells a number: blanks, an optional prefix in any
case, hexadecimal digits in any case with any zeros in front, an optional semicolon, and blanks. The key is `U+` and the number in
upper-case hexadecimal, at least four digits wide; it reads as the number again, is its own key, and tells two numbers apart. So
every spelling of a number stands for the same code points whatever the table: those of the entry under its key; without an
entry the code point of the number, a character or half of a surrogate pair, and a space, which a combining mark lacks; and beyond
the last code point the key in brackets. The entry of a code point is looked up under the key of every spelling of it. A table is
a dictionary with textual keys, and every such dictionary is read as it stands. -/
theorem canonical_key (raw : Latex) (s t : CodeSpelling) (entries : List (Latex × Latex)) (p : CodePoint) :
    ((canonicalKey? raw).isSome = true ↔ ∃ spelling : CodeSpelling, spelling.text = raw) ∧
      canonicalKey? s.text = some (codeKey s.number) ∧
      hexNumber ((codeKey s.number).drop 2) = s.number ∧
      canonicalKey? (codeKey s.number) = some (codeKey s.number) ∧
      (canonicalKey? s.text = canonicalKey? t.text ↔ s.number = t.number) ∧
      (s.number = t.number → symbols.tokenPoints s.text = symbols.tokenPoints t.text) ∧
      (∀ token, symbols.glyphOfKey? (codeKey s.number) = some token → symbols.tokenPoints s.text = CodePoint.ofText token) ∧
      (symbols.glyphOfKey? (codeKey s.number) = none → s.number = p.code →
        symbols.tokenPoints s.text = if isCombining p.code then [p] else [p, .ofChar ' ']) ∧
      (symbols.glyphOfKey? (codeKey s.number) = none → 0x10FFFF < s.number →
        symbols.tokenPoints s.text = CodePoint.ofText ('[' :: codeKey s.number ++ [']'])) ∧
      (s.number = p.code → symbols.pointToken? [p] = symbols.glyphOfKey? (codeKey s.number)) ∧
      (∀ key, symbols.glyphOfKey? key = (symbols.glyphs.map fun glyph => (codeKey glyph.1, glyph.2)).lookup key) ∧
      { symbols with glyphs := glyphsOfKeys entries }.glyphOfKey? (codeKey s.number) = entries.lookup (codeKey s.number) := by
  refine ⟨canonicalKey?_isSome_iff raw, canonicalKey?_text s, keyNumber_codeKey s.number, ?_, ?_, ?_, ?_, ?_, ?_, ?_,
    glyphOfKey?_eq_lookup symbols, glyphOfKey?_glyphsOfKeys symbols entries s.number⟩
  · rw [canonicalKey?_eq, readCode?_codeKey, Option.map_some]
  · rw [canonicalKey?_text, canonicalKey?_text, Option.some_inj, codeKey_inj]
  · intro h
    rw [tokenPoints_text, tokenPoints_text, h]
  · intro token h
    rw [tokenPoints_text, h, Option.map_some, Option.getD_some]
  · intro h hp
    rw [tokenPoints_text, h, Option.map_none, Option.getD_none, hp, literalPoints_code]
  · intro h hlarge
    rw [tokenPoints_text, h, Option.map_none, Option.getD_none, literalPoints_of_large _ hlarge]
  · intro h
    rw [SymbolTable.pointToken?, h]

/-- a spelling with blanks, an upper-case prefix, zeros in front and a semicolon -/
def spelledPi : CodeSpelling where
  before := [' ']
  mark := "&#X".toList
  digits := "0003c0".toList
  close := [';']
  after := ['\n']
  before_blank := by decide
  mark_prefix := by decide
  digits_ne_nil := by decide
  digits_hex := List.all_eq_true.1 (by decide)
  close_semicolon := by decide
  after_blank := by decide

theorem canonical_key_pi :
    canonicalKey? " &#X0003c0;\n".toList = some "U+03C0".toList ∧
      SymbolTable.default.tokenPoints " &#X0003c0;\n".toList = CodePoint.ofText "\\pi ".toList ∧
      SymbolTable.default.pointToken? [.ofChar 'π'] = some "\\pi ".toList ∧
      SymbolTable.default.tokenPoints "U+D800".toList = [⟨0xD800, by decide⟩, .ofChar ' '] ∧
      SymbolTable.default.tokenPoints "U+110000".toList = CodePoint.ofText "[U+110000]".toList := by
  have hpi : codeKey 0x3C0 = "U+03C0".toList := by decide +kernel
  have hhalf : codeKey 0xD800 = "U+D800".toList := by decide +kernel
  have hlarge : codeKey 0x110000 = "U+110000".toList := by decide +kernel
  have hentries : SymbolTable.default.glyphOfKey? "U+03C0".toList = some "\\pi ".toList ∧
      SymbolTable.default.glyphOfKey? "U+D800".toList = none ∧ SymbolTable.default.glyphOfKey? "U+110000".toList = none := by
    decide +kernel
  obtain ⟨-, hkey, -, -, -, -, hentry, -, -, hpoint, -⟩ :=
    canonical_key .default [] spelledPi spelledPi [] (.ofChar 'π')
  obtain ⟨-, -, -, -, -, -, -, hliteral, -⟩ :=
    canonical_key .default [] (keySpelling 0xD800) (keySpelling 0xD800) [] ⟨0xD800, by decide⟩
  obtain ⟨-, -, -, -, -, -, -, -, hbracketed, -⟩ :=
    canonical_key .default [] (keySpelling 0x110000) (keySpelling 0x110000) [] (.ofChar 'π')
  rw [show spelledPi.number = 0x3C0 by decide, hpi] at hkey hentry hpoint
  rw [number_keySpelling, text_keySpelling, hhalf] at hliteral
  rw [number_keySpelling, text_keySpelling, hlarge] at hbracketed
  exact ⟨hkey, hentry _ hentries.1, (hpoint rfl).trans hentries.1, hliteral hentries.2.1 rfl,
    hbracketed hentries.2.2 (by decide)⟩

end Untypeset.Symbol
