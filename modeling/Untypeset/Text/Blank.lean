/-!
Blank characters, trimming and splitting into words. Everything here works on lists of characters; the set of blanks is
the Unicode white space together with the four information separators U+001C to U+001F.
-/

namespace Untypeset.Text

/-- white space and the information separators; neither the zero-width space nor the byte order mark is blank -/
def isBlank (c : Char) : Bool :=
  let n := c.toNat
  (0x09 ≤ n && n ≤ 0x0D) || (0x1C ≤ n && n ≤ 0x20) || n == 0x85 || n == 0xA0 || n == 0x1680 ||
    (0x2000 ≤ n && n ≤ 0x200A) || n == 0x2028 || n == 0x2029 || n == 0x202F || n == 0x205F || n == 0x3000

/-- the blanks among the ASCII characters that separate tokens in numerals: tab to carriage return, and the space -/
def isPlainBlank (c : Char) : Bool :=
  (0x09 ≤ c.toNat && c.toNat ≤ 0x0D) || c == ' '

/-- the text without its leading blanks -/
def trimStart (s : List Char) : List Char :=
  s.dropWhile isBlank

/-- the text without the longest suffix of characters that satisfy `p` -/
def dropEndWhile (p : Char → Bool) : List Char → List Char
  | [] => []
  | c :: cs =>
    match dropEndWhile p cs with
    | [] => if p c then [] else [c]
    | kept@(_ :: _) => c :: kept

/-- the text without its trailing blanks -/
def trimEnd (s : List Char) : List Char :=
  dropEndWhile isBlank s

/-- the text without leading and trailing blanks -/
def trim (s : List Char) : List Char :=
  trimEnd (trimStart s)

/-- whether the text holds nothing but blanks -/
def allBlank (s : List Char) : Bool :=
  s.all isBlank

/-- splits a text at its blanks; `word` holds the letters of the word being read -/
def wordsFrom (word : List Char) : List Char → List (List Char)
  | [] => if word.isEmpty then [] else [word]
  | c :: cs =>
    if isBlank c then
      if word.isEmpty then wordsFrom [] cs else word :: wordsFrom [] cs
    else
      wordsFrom (word ++ [c]) cs

/-- the maximal runs of characters that are not blank, in order -/
def words (s : List Char) : List (List Char) :=
  wordsFrom [] s

/-- the texts one after the other with one space between them -/
def joinWithSpace (texts : List (List Char)) : List Char :=
  [' '].intercalate texts

theorem dropEndWhile_prefix (p : Char → Bool) (s : List Char) : dropEndWhile p s <+: s := by
  induction s with
  | nil => exact List.prefix_refl _
  | cons c cs ih =>
    unfold dropEndWhile
    split
    · split
      · exact List.nil_prefix
      · exact (List.prefix_cons_inj c).2 List.nil_prefix
    · next kept _ heq => rw [heq] at ih; exact (List.prefix_cons_inj c).2 ih

theorem trimEnd_prefix (s : List Char) : trimEnd s <+: s :=
  dropEndWhile_prefix _ s

theorem trimEnd_nil : trimEnd [] = [] := rfl

end Untypeset.Text
