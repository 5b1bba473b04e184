import Untypeset.Proofs.Text.Ascii

/-!
What the case mappings can yield. Beyond ASCII the tables speak, and they lead to characters beyond ASCII and to ASCII
letters only; so an ASCII character that is no letter comes out of a mapping only where it went in. No capital ASCII letter comes
out of lower case.
-/

namespace Untypeset.Text

theorem toNat_ofNat {n : Nat} (h : n.isValidChar) : (Char.ofNat n).toNat = n := by
  rw [Char.ofNat, dif_pos h]
  rfl

/-- a code point beyond ASCII, or that of an ASCII letter -/
def isCaseImage (code : Nat) : Bool :=
  code.isValidChar && (0x80 ≤ code || isAsciiLetter (Char.ofNat code))

/-- whether all code points of a run move to places beyond ASCII, or all of them to capital or to small ASCII letters -/
def CaseRun.isSafe (run : CaseRun) : Bool :=
  let low := run.first + run.distance
  let high := run.last + run.distance
  (0x80 ≤ low && high < 0xD800) || (0xE000 ≤ low && high < 0x110000) || (0x41 ≤ low && high ≤ 0x5A) ||
    (0x61 ≤ low && high ≤ 0x7A)

theorem isAsciiLetter_ofNat {n : Nat} (h : (0x41 ≤ n ∧ n ≤ 0x5A) ∨ (0x61 ≤ n ∧ n ≤ 0x7A)) :
    isAsciiLetter (Char.ofNat n) = true := by
  have all : ∀ n < 0x7B, (0x41 ≤ n ∧ n ≤ 0x5A) ∨ (0x61 ≤ n ∧ n ≤ 0x7A) → isAsciiLetter (Char.ofNat n) = true := by
    decide
  exact all n (by omega) h

theorem isCaseImage_of_image {run : CaseRun} {code image : Nat} (hsafe : run.isSafe = true)
    (h : run.image? code = some image) : isCaseImage image = true := by
  unfold CaseRun.image? at h
  split at h
  · rename_i hin
    cases h
    simp only [CaseRun.isSafe, Bool.or_eq_true, Bool.and_eq_true, decide_eq_true_eq] at hsafe
    simp only [isCaseImage, Bool.and_eq_true, Bool.or_eq_true, decide_eq_true_eq, Nat.isValidChar]
    rcases hsafe with ((h | h) | h) | h
    · omega
    · omega
    · exact ⟨by omega, .inr (isAsciiLetter_ofNat (by omega))⟩
    · exact ⟨by omega, .inr (isAsciiLetter_ofNat (by omega))⟩
  · cases h

/-- a character of a mapping, unless it went in -/
theorem mem_mapCase {expansions : List (Nat × List Nat)} {runs : List CaseRun} {P : Nat → Prop} {c d : Char}
    (hexpansions : ∀ entry ∈ expansions, ∀ code ∈ entry.2, P code)
    (hruns : ∀ run ∈ runs, ∀ code image, run.image? code = some image → P image) (h : d ∈ mapCase expansions runs c) :
    d = c ∨ ∃ code, P code ∧ d = Char.ofNat code := by
  unfold mapCase at h
  split at h
  · rename_i codes hcodes
    obtain ⟨code, hcode, rfl⟩ := List.mem_map.1 h
    obtain ⟨before, after, hsplit, -⟩ := List.lookup_eq_some_iff.1 hcodes
    exact .inr ⟨code, hexpansions (c.toNat, codes) (by rw [hsplit]; simp) code hcode, rfl⟩
  · split at h
    · rename_i code hcode
      obtain ⟨run, hrun, himage⟩ := List.exists_of_findSome?_eq_some hcode
      exact .inr ⟨code, hruns run hrun _ code himage, List.mem_singleton.1 h⟩
    · exact .inl (List.mem_singleton.1 h)

theorem not_case_image {d : Char} (hd : d.toNat < 0x80) (hletter : isAsciiLetter d = false) :
    ¬ ∃ code, isCaseImage code = true ∧ d = Char.ofNat code := by
  rintro ⟨code, hcode, rfl⟩
  simp only [isCaseImage, Bool.and_eq_true, Bool.or_eq_true, decide_eq_true_eq] at hcode
  rcases hcode.2 with h | h
  · rw [toNat_ofNat hcode.1] at hd
    omega
  · rw [hletter] at h
    cases h

theorem safe_upper :
    (∀ entry ∈ upperExpansions, ∀ code ∈ entry.2, isCaseImage code = true) ∧ ∀ run ∈ upperRuns, run.isSafe = true := by
  decide +kernel

/-- an ASCII character that is no letter is its own and only preimage under upper case -/
theorem of_mem_upperCase {s : List Char} {d : Char} (hd : d.toNat < 0x80) (hletter : isAsciiLetter d = false)
    (h : d ∈ upperCase s) : d ∈ s := by
  obtain ⟨c, hc, hmem⟩ := List.mem_flatMap.1 h
  suffices d = c by rwa [this]
  unfold upperChar at hmem
  split at hmem
  · rename_i hascii
    have all : ∀ n < 0x80, isAsciiLetter (Char.ofNat n).toUpper = true ∨ (Char.ofNat n).toUpper = Char.ofNat n := by
      decide
    rcases forall_ascii (P := fun c => isAsciiLetter c.toUpper = true ∨ c.toUpper = c) all hascii with hl | he
    · rw [← List.mem_singleton.1 hmem, hletter] at hl
      cases hl
    · rw [← List.mem_singleton.1 hmem] at he
      exact he
  · have himages : ∀ run ∈ upperRuns, ∀ code image, run.image? code = some image → isCaseImage image = true :=
      fun run hrun _ _ => isCaseImage_of_image (safe_upper.2 run hrun)
    exact (mem_mapCase safe_upper.1 himages hmem).resolve_right (not_case_image hd hletter)

/-! ## No capital letters -/

/-- no capital ASCII letter comes out of the tables of lower case -/
theorem beyond_capitals_lower :
    (∀ entry ∈ lowerExpansions, ∀ code ∈ entry.2, 0x5A < code) ∧ ∀ run ∈ lowerRuns, 0x5A < run.first + run.distance := by
  decide +kernel

theorem toLower_ofNat {code : Nat} (h : 0x5A < code) : (Char.ofNat code).toLower = Char.ofNat code := by
  by_cases hvalid : code.isValidChar
  · have hcode : (Char.ofNat code).toNat = code := toNat_ofNat hvalid
    refine dif_neg ?_
    rintro ⟨-, hle⟩
    have hle : (Char.ofNat code).toNat ≤ 0x5A := UInt32.le_iff_toNat_le.1 hle
    omega
  · rw [Char.ofNat, dif_neg hvalid]
    rfl

theorem toLower_of_mem_lowerChar {c d : Char} (h : d ∈ lowerChar c) : d.toLower = d := by
  unfold lowerChar at h
  split at h
  · rename_i hascii
    have all : ∀ n < 0x80, (Char.ofNat n).toLower.toLower = (Char.ofNat n).toLower := by decide
    rw [List.mem_singleton.1 h]
    exact forall_ascii (P := fun c => c.toLower.toLower = c.toLower) all hascii
  · rename_i hbeyond
    have himages : ∀ run ∈ lowerRuns, ∀ code image, run.image? code = some image → 0x5A < image := by
      intro run hrun code image himage
      have hfirst := beyond_capitals_lower.2 run hrun
      unfold CaseRun.image? at himage
      split at himage
      · cases himage
        omega
      · cases himage
    rcases mem_mapCase beyond_capitals_lower.1 himages h with rfl | ⟨code, hcode, rfl⟩
    · rw [← Char.ofNat_toNat d]
      exact toLower_ofNat (by omega)
    · exact toLower_ofNat hcode

theorem toLower_of_mem_lowerCaseAfter {before s : List Char} {d : Char} (h : d ∈ lowerCaseAfter before s) : d.toLower = d := by
  induction s generalizing before with
  | nil => cases h
  | cons c rest ih =>
    rw [lowerCaseAfter] at h
    rcases List.mem_append.1 h with h | h
    · split at h
      · -- a capital sigma becomes one of two small ones
        split at h <;> rw [List.mem_singleton.1 h] <;> rfl
      · exact toLower_of_mem_lowerChar h
    · exact ih h

/-- lower case has no capital ASCII letters left -/
theorem map_toLower_lowerCase (s : List Char) : (lowerCase s).map Char.toLower = lowerCase s :=
  (List.map_congr_left fun _ h => toLower_of_mem_lowerCaseAfter h).trans (List.map_id _)

end Untypeset.Text
