import Untypeset.Proofs.Latex.Joined
import Untypeset.Proofs.Text.Hex
import Untypeset.Symbol.GlyphCode

/-!
The spellings of a glyph code. A `CodeSpelling` has blanks around it, an optional prefix in any case, the hexadecimal digits and
an optional semicolon. Its digits are found in it (`codeDigits?_text`), and no other text has digits (`codeDigits?_eq_some_iff`).
The key that is built from the digits is the key of the number that they denote (`digitsKey_eq`), so each spelling is read to this
number (`readCode?_text`). The plain numeral of a number and its key are two of the spellings.
-/

namespace Untypeset.Symbol

open Untypeset.Text

variable {s digits : List Char} {n : Nat}

/-- the parts of a text that spells a glyph code -/
structure CodeSpelling where
  before : List Char
  mark : List Char
  digits : List Char
  close : List Char
  after : List Char
  before_blank : squash before = []
  mark_prefix : mark = [] ∨ mark.map Char.toLower ∈ codePrefixes
  digits_ne_nil : digits ≠ []
  digits_hex : ∀ c ∈ digits, isHexDigit c = true
  close_semicolon : close = [] ∨ close = [';']
  after_blank : squash after = []

namespace CodeSpelling

/-- the code as it is written -/
def text (spelling : CodeSpelling) : List Char :=
  spelling.before ++ (spelling.mark ++ (spelling.digits ++ spelling.close)) ++ spelling.after

/-- the number that the digits denote -/
def number (spelling : CodeSpelling) : Nat :=
  hexNumber spelling.digits

end CodeSpelling

/-! ## Characters of a code -/

/-- a hexadecimal digit is no blank, no semicolon, and starts no prefix but the one with a zero -/
theorem isHexDigit_spec {c : Char} (h : isHexDigit c = true) :
    isBlank c = false ∧ c ≠ ';' ∧ c.toLower ≠ 'u' ∧ c.toLower ≠ 'x' ∧ c.toLower ≠ '&' := by
  have all : ∀ n < 0x80, isHexDigit (Char.ofNat n) = true →
      isBlank (Char.ofNat n) = false ∧ Char.ofNat n ≠ ';' ∧ (Char.ofNat n).toLower ≠ 'u' ∧
        (Char.ofNat n).toLower ≠ 'x' ∧ (Char.ofNat n).toLower ≠ '&' := by
    decide
  exact forall_ascii (P := fun c => isHexDigit c = true →
    isBlank c = false ∧ c ≠ ';' ∧ c.toLower ≠ 'u' ∧ c.toLower ≠ 'x' ∧ c.toLower ≠ '&') all (ascii_of_isHexDigit h) h

theorem toLower_of_blank {c : Char} (h : isBlank c = true) : c.toLower = c := by
  refine dif_neg fun hupper => ?_
  simp only [ge_iff_le, UInt32.le_iff_toNat_le] at hupper
  change 65 ≤ c.toNat ∧ c.toNat ≤ 90 at hupper
  simp only [isBlank, Bool.or_eq_true, Bool.and_eq_true, decide_eq_true_eq, beq_iff_eq] at h
  omega

theorem solid_of_prefix {mark : List Char} (h : mark = [] ∨ mark.map Char.toLower ∈ codePrefixes) : Solid mark := by
  have hprefixes : ∀ p ∈ codePrefixes, Solid p := by decide
  intro c hc
  rcases h with rfl | h
  · cases hc
  · by_contra hblank
    have hlower := hprefixes _ h c.toLower (List.mem_map_of_mem hc)
    rw [toLower_of_blank (by simpa using hblank)] at hlower
    exact hblank hlower

theorem CodeSpelling.solid (spelling : CodeSpelling) : Solid (spelling.mark ++ (spelling.digits ++ spelling.close)) := by
  intro c hc
  rcases List.mem_append.1 hc with hc | hc
  · exact solid_of_prefix spelling.mark_prefix c hc
  rcases List.mem_append.1 hc with hc | hc
  · exact (isHexDigit_spec (spelling.digits_hex c hc)).1
  · rcases spelling.close_semicolon with hclose | hclose <;> rw [hclose] at hc
    · cases hc
    · rw [List.mem_singleton.1 hc]
      decide

/-! ## Reading a spelling -/

/-- blanks around a text without any are all that trimming drops -/
theorem trim_of_blank_around {before after : List Char} (hbefore : squash before = []) (hafter : squash after = [])
    (hs : Solid s) : trim (before ++ s ++ after) = s := by
  induction before with
  | nil =>
    cases s with
    | nil => exact trim_eq_nil_iff.2 hafter
    | cons c s =>
      rw [List.nil_append, List.cons_append, trim_cons_solid (hs c List.mem_cons_self),
        Latex.trimEnd_append_of_blank (trimEnd_eq_nil_iff.2 hafter),
        trimEnd_of_solid fun d hd => hs d (List.mem_cons_of_mem c hd)]
  | cons c before ih =>
    have hblank := squash_eq_nil_iff.1 hbefore
    rw [List.cons_append, List.cons_append, trim_cons_blank (hblank c List.mem_cons_self),
      ih (squash_eq_nil_iff.2 fun d hd => hblank d (List.mem_cons_of_mem c hd))]

theorem dropCodePrefix_of_mark {mark : List Char} (h : mark.map Char.toLower ∈ codePrefixes) (s : List Char) :
    dropCodePrefix (mark ++ s) = s := by
  have hfound : codePrefixes.find? (fun p => p.isPrefixOf ((mark ++ s).map Char.toLower)) =
      some (mark.map Char.toLower) := by
    rw [List.map_append]
    simp only [codePrefixes, List.mem_cons, List.not_mem_nil, or_false] at h
    rcases h with h | h | h <;> rw [h] <;> rfl
  rw [dropCodePrefix, hfound]
  simp

/-- digits hold none of the letters and signs that tell a prefix -/
theorem dropCodePrefix_of_digits (h : ∀ c ∈ s, isHexDigit c = true ∨ c = ';') : dropCodePrefix s = s := by
  have hmarked : ∀ p ∈ codePrefixes, 'u' ∈ p ∨ 'x' ∈ p ∨ '&' ∈ p := by decide
  have hs : ∀ c ∈ s, c.toLower ≠ 'u' ∧ c.toLower ≠ 'x' ∧ c.toLower ≠ '&' := by
    intro c hc
    rcases h c hc with hdigit | rfl
    · exact (isHexDigit_spec hdigit).2.2
    · decide
  have hnone : (codePrefixes.find? fun p => p.isPrefixOf (s.map Char.toLower)) = none := by
    rw [List.find?_eq_none]
    intro p hp hprefix
    have hnot : ∀ c ∈ p, c ≠ 'u' ∧ c ≠ 'x' ∧ c ≠ '&' := by
      intro c hc
      obtain ⟨d, hd, rfl⟩ := List.mem_map.1 ((List.isPrefixOf_iff_prefix.1 hprefix).subset hc)
      exact hs d hd
    rcases hmarked p hp with hc | hc | hc
    · exact (hnot _ hc).1 rfl
    · exact (hnot _ hc).2.1 rfl
    · exact (hnot _ hc).2.2 rfl
  rw [dropCodePrefix, hnone]

theorem dropSemicolon_of_digits {close : List Char} (h : ∀ c ∈ digits, isHexDigit c = true)
    (hclose : close = [] ∨ close = [';']) : dropSemicolon (digits ++ close) = digits := by
  rcases hclose with rfl | rfl
  · rw [List.append_nil, dropSemicolon, if_neg]
    intro hlast
    exact (isHexDigit_spec (h ';' (List.mem_of_getLast? hlast))).2.1 rfl
  · rw [dropSemicolon, List.getLast?_concat, if_pos rfl, List.dropLast_concat]

/-- the digits are found in every spelling -/
theorem codeDigits?_text (spelling : CodeSpelling) : codeDigits? spelling.text = some spelling.digits := by
  have hdrop : dropCodePrefix (spelling.mark ++ (spelling.digits ++ spelling.close)) =
      spelling.digits ++ spelling.close := by
    rcases spelling.mark_prefix with hmark | hmark
    · rw [hmark, List.nil_append, dropCodePrefix_of_digits]
      intro c hc
      rcases List.mem_append.1 hc with hc | hc
      · exact .inl (spelling.digits_hex c hc)
      · rcases spelling.close_semicolon with hclose | hclose <;> rw [hclose] at hc
        · cases hc
        · exact .inr (List.mem_singleton.1 hc)
    · exact dropCodePrefix_of_mark hmark _
  have hrest : dropSemicolon (dropCodePrefix (trim spelling.text)) = spelling.digits := by
    rw [CodeSpelling.text, trim_of_blank_around spelling.before_blank spelling.after_blank spelling.solid, hdrop,
      dropSemicolon_of_digits spelling.digits_hex spelling.close_semicolon]
  have hempty : spelling.digits.isEmpty = false := List.isEmpty_eq_false_iff.2 spelling.digits_ne_nil
  have hall : spelling.digits.all isHexDigit = true := List.all_eq_true.2 spelling.digits_hex
  rw [codeDigits?, hrest, hempty, hall]
  rfl

/-! ## No other text has digits -/

theorem exists_eq_mark_append (s : List Char) :
    ∃ mark, s = mark ++ dropCodePrefix s ∧ (mark = [] ∨ mark.map Char.toLower ∈ codePrefixes) := by
  rw [dropCodePrefix]
  split
  · rename_i p hfound
    have hprefix : p <+: s.map Char.toLower := by
      have hp := List.find?_some hfound
      exact List.isPrefixOf_iff_prefix.1 hp
    refine ⟨s.take p.length, (List.take_append_drop p.length s).symm, .inr ?_⟩
    rw [List.map_take, ← List.prefix_iff_eq_take.1 hprefix]
    exact List.mem_of_find?_eq_some hfound
  · exact ⟨[], rfl, .inl rfl⟩

theorem exists_eq_append_close (s : List Char) :
    ∃ close, s = dropSemicolon s ++ close ∧ (close = [] ∨ close = [';']) := by
  rw [dropSemicolon]
  split
  · rename_i hlast
    exact ⟨[';'], (List.dropLast_append_getLast? ';' hlast).symm, .inr rfl⟩
  · exact ⟨[], (List.append_nil s).symm, .inl rfl⟩

/-- **the texts with the digits of a code are its spellings** -/
theorem codeDigits?_eq_some_iff {raw : List Char} :
    codeDigits? raw = some digits ↔ ∃ spelling : CodeSpelling, spelling.text = raw ∧ spelling.digits = digits := by
  constructor
  · intro h
    obtain ⟨before, after, hraw, hbefore, hafter⟩ := exists_eq_append_trim_append raw
    obtain ⟨mark, hmark, hprefix⟩ := exists_eq_mark_append (trim raw)
    obtain ⟨close, hclose, hsemicolon⟩ := exists_eq_append_close (dropCodePrefix (trim raw))
    rw [codeDigits?] at h
    split at h
    · cases h
    · rename_i hdigits
      rw [Bool.or_eq_true, List.isEmpty_iff, Bool.not_eq_true', ← Bool.not_eq_true, List.all_eq_true, not_or, not_not] at hdigits
      refine ⟨⟨before, mark, _, close, after, hbefore, hprefix, hdigits.1, hdigits.2, hsemicolon, hafter⟩, ?_,
        Option.some.inj h⟩
      rw [CodeSpelling.text, ← hclose, ← hmark, ← hraw]
  · rintro ⟨spelling, rfl, rfl⟩
    exact codeDigits?_text spelling

/-! ## Keys -/

/-- the digits of a key are those of its number -/
theorem keyNumber_codeKey (n : Nat) : keyNumber (codeKey n) = n := by
  rw [keyNumber, codeKey, List.drop_succ_cons, List.drop_succ_cons, List.drop_zero, hexNumber_padZeros, hexNumber_hexDigits]

/-- **the key built from digits is the key of the number that they denote** -/
theorem digitsKey_eq (h : ∀ c ∈ digits, isHexDigit c = true) : digitsKey digits = codeKey (hexNumber digits) := by
  rw [digitsKey, codeKey, hexDigits_hexNumber h]

theorem canonicalKey?_text (spelling : CodeSpelling) : canonicalKey? spelling.text = some (codeKey spelling.number) := by
  rw [canonicalKey?, codeDigits?_text, Option.map_some, digitsKey_eq spelling.digits_hex, CodeSpelling.number]

/-- a key is that of a number which the text spells -/
theorem exists_of_canonicalKey? {raw key : List Char} (h : canonicalKey? raw = some key) :
    ∃ spelling : CodeSpelling, spelling.text = raw ∧ codeKey spelling.number = key := by
  obtain ⟨digits, hdigits, -⟩ := Option.map_eq_some_iff.1 h
  obtain ⟨spelling, rfl, -⟩ := codeDigits?_eq_some_iff.1 hdigits
  rw [canonicalKey?_text] at h
  exact ⟨spelling, rfl, Option.some.inj h⟩

/-- **a spelling is read to the number of its digits** -/
theorem readCode?_text (spelling : CodeSpelling) : readCode? spelling.text = some spelling.number := by
  rw [readCode?, canonicalKey?_text, Option.map_some, keyNumber_codeKey]

/-- the key of a code is that of the number it is read to -/
theorem canonicalKey?_eq (raw : List Char) : canonicalKey? raw = (readCode? raw).map codeKey := by
  cases h : canonicalKey? raw with
  | none => rw [readCode?, h]; rfl
  | some key =>
    obtain ⟨spelling, rfl, rfl⟩ := exists_of_canonicalKey? h
    rw [readCode?_text, Option.map_some]

/-! ## The plain numeral and the key as spellings -/

/-- **the hexadecimal numeral of a code point is a code of it** -/
theorem readCode?_hexDigits (n : Nat) : readCode? (hexDigits n) = some n := by
  have h := readCode?_text ⟨[], [], hexDigits n, [], [], rfl, .inl rfl, hexDigits_ne_nil n, fun _ => isHexDigit_of_mem,
    .inl rfl, rfl⟩
  rwa [CodeSpelling.text, CodeSpelling.number, hexNumber_hexDigits, List.append_nil, List.append_nil] at h

/-- the key of a number as a spelling of it -/
def keySpelling (n : Nat) : CodeSpelling where
  before := []
  mark := ['U', '+']
  digits := padZeros 4 (hexDigits n)
  close := []
  after := []
  before_blank := rfl
  mark_prefix := .inr (by decide)
  digits_ne_nil := List.append_ne_nil_of_right_ne_nil _ (hexDigits_ne_nil n)
  digits_hex := by
    intro c hc
    rcases List.mem_append.1 hc with hc | hc
    · rw [List.eq_of_mem_replicate hc]
      decide
    · exact isHexDigit_of_mem hc
  close_semicolon := .inl rfl
  after_blank := rfl

@[simp] theorem text_keySpelling (n : Nat) : (keySpelling n).text = codeKey n := by
  simp [CodeSpelling.text, keySpelling, codeKey]

@[simp] theorem number_keySpelling (n : Nat) : (keySpelling n).number = n := by
  rw [CodeSpelling.number, keySpelling, hexNumber_padZeros, hexNumber_hexDigits]

theorem readCode?_codeKey (n : Nat) : readCode? (codeKey n) = some n := by
  rw [← text_keySpelling, readCode?_text, number_keySpelling]

theorem codeKey_inj {m : Nat} : codeKey m = codeKey n ↔ m = n := by
  refine ⟨fun h => ?_, fun h => h ▸ rfl⟩
  rw [← Option.some_inj, ← readCode?_codeKey m, h, readCode?_codeKey]

end Untypeset.Symbol
