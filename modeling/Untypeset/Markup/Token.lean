import Untypeset.Markup.Fault
import Untypeset.Markup.Node
import Untypeset.Markup.Reference

/-!
Tokens of lenient markup: text, tags, comments and declarations. What cannot be a tag is text; the few things that make
a document unreadable are tokens too, and nothing is read behind one.

A document is scanned twice. The first scan stops where more input might still complete what it sees; the second takes
what is left as final, and what it cannot read either is text. Scripts and styles hold raw text up to their closing tag,
and raw text that is never closed is dropped.
-/

namespace Untypeset.Markup

open Untypeset.Text

/-- a piece of markup -/
inductive Token where
  | text (content : List Char)
  | opening (name : String) (attributes : List (String × String)) (closed : Bool)
  | closing (name : String)
  | special (kind : TextKind) (content : List Char)
  | fault (cause : Fault)
  deriving Repr, Inhabited

/-- a part of the input that was read, and the input after it -/
abbrev Taken (α : Type) := α × List Char

/-- splits a text before the first place where `closes?` finds an end, which is dropped -/
def splitAtEnd? (closes? : List Char → Option (List Char)) : List Char → Option (Taken (List Char))
  | [] => none
  | c :: rest =>
    match closes? (c :: rest) with
    | some after => some ([], after)
    | none => (splitAtEnd? closes? rest).map fun taken => (c :: taken.1, taken.2)

/-- splits a text at its first `>`, which is dropped -/
def splitAtAngle? (s : List Char) : Option (Taken (List Char)) :=
  splitAtEnd? (fun t => if t.head? = some '>' then some t.tail else none) s

/-! ## Attributes -/

/-- a character of the name of a tag -/
def isTagChar (c : Char) : Bool :=
  !("\t\n\r\x0c />\x00".toList.contains c)

/-- a character of the name of an attribute after the first one -/
def isKeyChar (c : Char) : Bool :=
  !isBlank c && c != '/' && c != '=' && c != '>'

/-- a character of a value without quotes -/
def isBareChar (c : Char) : Bool :=
  !isBlank c && c != '>'

/-- a quotation mark of either kind -/
def isQuote (c : Char) : Bool :=
  c == '\x27' || c == '\x22'

/-- drops the blanks and slashes between attributes, but not the slash of an empty tag -/
def skipGap : List Char → List Char
  | [] => []
  | c :: rest => if isBlank c || (c == '/' && rest.head? != some '>') then skipGap rest else c :: rest

/-- a value: in quotes, or up to a blank or the end of the tag; without its closing quote it is none -/
def takeValue? : List Char → Option (Taken (List Char))
  | [] => some ([], [])
  | c :: rest =>
    if isQuote c then
      match rest.dropWhile (· != c) with
      | [] => none
      | _ :: after => some (rest.takeWhile (· != c), after)
    else
      some ((c :: rest).takeWhile isBareChar, (c :: rest).dropWhile isBareChar)

/-- the equals signs and the value behind the name of an attribute. Where the quote of a value is never closed, a blank
in front of it ends an empty value, and else a second equals sign is where the value begins -/
def takeAssigned? (s : List Char) : Option (Taken (List Char)) :=
  let atSigns := s.dropWhile isBlank
  let signs := atSigns.takeWhile (· == '=')
  let afterSigns := atSigns.dropWhile (· == '=')
  let start := afterSigns.dropWhile isBlank
  if signs.isEmpty then none
  else
    match takeValue? start with
    | some taken => some taken
    | none =>
      if start.length < afterSigns.length then some ([], ' ' :: start)
      else if 2 ≤ signs.length then some (('=' :: start).takeWhile isBareChar, ('=' :: start).dropWhile isBareChar)
      else none

/-- the last character of `whole` before its suffix `rest`, or the given one if there is none -/
def charBefore (otherwise : Char) (whole rest : List Char) : Char :=
  ((whole.take (whole.length - rest.length)).getLast?).getD otherwise

/-- whether an attribute may begin at a character: a blank, a slash or a quote stands before it -/
def beginsAttribute (before c : Char) : Bool :=
  (isBlank before || before == '/' || isQuote before) && !isBlank c && c != '/' && c != '>'

/-- the attributes at the start of a text that follows the character `before`, their values with the references still in
them, and the text after them -/
def takeAttributes (before : Char) : List Char → Taken (List (String × List Char))
  | [] => ([], [])
  | c :: rest =>
    if beginsAttribute before c then
      let name := String.ofList (lowerCase (c :: rest.takeWhile isKeyChar))
      let afterName := rest.dropWhile isKeyChar
      let (value, afterValue) := (takeAssigned? afterName).getD ([], afterName)
      let after := skipGap afterValue
      let entry := (name, value)
      if _h : after.length < (c :: rest).length then
        let (entries, last) := takeAttributes (charBefore before (c :: rest) after) after
        (entry :: entries, last)
      else
        ([entry], after)
    else
      ([], c :: rest)
termination_by s => s.length
decreasing_by exact _h

/-- the attributes of an element: of several with one name the last value counts, in the place of the first -/
def mergeAttributes (entries : List (String × String)) : List (String × String) :=
  entries.foldl (fun merged entry =>
    if merged.any (·.1 == entry.1) then
      merged.map fun kept => if kept.1 == entry.1 then entry else kept
    else
      merged ++ [entry]) []

/-- the attributes of an element with the references in their values decoded -/
def readAttributes (entries : List (String × List Char)) : List (String × String) :=
  mergeAttributes (entries.map fun entry => (entry.1, String.ofList (decodeValue entry.2)))

/-- the fault of the first value that cannot be decoded -/
def valueFault? (entries : List (String × List Char)) : Option Fault :=
  entries.findSome? fun entry => (longReferenceIn? entry.2).map Fault.longReference

/-! ## Tags, comments and declarations -/

/-- an opening tag, after its `<`; a tag that breaks off at a character that cannot stand there is text -/
def takeOpening? (s : List Char) : Option (Taken (List Token)) :=
  let name := s.takeWhile isTagChar
  let afterName := skipGap (s.dropWhile isTagChar)
  let (entries, rest) := takeAttributes (charBefore '<' s afterName) afterName
  let opening := Token.opening (String.ofList (lowerCase name)) (readAttributes entries)
  let taken? : Option (Taken (List Token)) :=
    match rest with
    | [] => none
    | '>' :: after => some ([opening false], after)
    | '/' :: '>' :: after => some ([opening true], after)
    | c :: _ =>
      if isAsciiLetter c || c == '=' || c == '/' then none
      else some ([.text ('<' :: s.take (s.length - rest.length))], rest)
  taken?.map fun taken =>
    match valueFault? entries with
    | some fault => ([.fault fault], [])
    | none => taken

/-- a character of the name in a well-formed closing tag -/
def isClosingChar (c : Char) : Bool :=
  isAsciiLetter c || isAsciiDigit c || "-.:_".toList.contains c

/-- the name in a well-formed closing tag and the text after the tag -/
def takeClosingName? (s : List Char) : Option (Taken (List Char)) :=
  let start := s.dropWhile isBlank
  match (start.dropWhile isClosingChar).dropWhile isBlank with
  | '>' :: after =>
    if start.head?.any isAsciiLetter then some (start.takeWhile isClosingChar, after) else none
  | _ => none

/-- a closing tag, after its `</`; one without a name is nothing, or a comment -/
def takeClosing? (s : List Char) : Option (Taken (List Token)) :=
  match splitAtAngle? s with
  | none => none
  | some (body, after) =>
    match takeClosingName? s with
    | some (name, rest) => some ([.closing (String.ofList (lowerCase name))], rest)
    | none =>
      if body.head?.any isAsciiLetter then
        some ([.closing (String.ofList (lowerCase (body.takeWhile isTagChar)))], after)
      else if body.isEmpty then some ([], after)
      else some ([.special .comment body], after)

/-- the end of a comment: two dashes, blanks, and `>` -/
def endsComment? : List Char → Option (List Char)
  | '-' :: '-' :: rest =>
    match rest.dropWhile isBlank with
    | '>' :: after => some after
    | _ => none
  | _ => none

/-- the end of a marked section: brackets with blanks between them, and `>` -/
def endsSection? (brackets : Nat) : List Char → Option (List Char)
  | ']' :: rest =>
    match brackets with
    | 0 | 1 =>
      match rest.dropWhile isBlank with
      | '>' :: after => some after
      | _ => none
    | more + 1 =>
      match rest.dropWhile isBlank with
      | [] => none
      | next => if next.length ≤ rest.length then endsSection? more next else none
  | _ => none

/-- the keywords of sections that end in two brackets -/
def sectionWords : List String :=
  ["temp", "cdata", "ignore", "include", "rcdata"]

/-- the keywords of sections that end in one bracket -/
def conditionWords : List String :=
  ["if", "else", "endif"]

/-- the mark in front of character data -/
def cdataMark : List Char := "CDATA[".toList

/-- a character of the keyword of a marked section after the first one -/
def isKeywordChar (c : Char) : Bool :=
  isAsciiLetter c || isAsciiDigit c || "-_.".toList.contains c

/-- the opening of a marked section -/
def sectionMark : List Char := "<![".toList

/-- the token of a marked section: character data are what follows their mark, and any other section is a declaration -/
def sectionToken (body : List Char) : Token :=
  if cdataMark.isPrefixOf (upperCase body) then .special .cdata (body.drop cdataMark.length)
  else .special .declaration body

/-- a marked section, after its `<![`; it begins with a keyword, which decides how it ends -/
def takeSection? (s : List Char) : Option (Taken (List Token)) :=
  let keyword := s.takeWhile isKeywordChar
  let blanks := (s.dropWhile isKeywordChar).takeWhile isBlank
  let word := String.ofList (keyword.map Char.toLower)
  let ended (brackets : Nat) : Option (Taken (List Token)) :=
    (splitAtEnd? (endsSection? brackets) s).map fun (body, after) => ([sectionToken body], after)
  match s with
  | [] => none
  | c :: _ =>
    if !isAsciiLetter c then
      some ([.fault (.namelessSection ((sectionMark ++ s).take Fault.shownLength))], [])
    else if ((s.dropWhile isKeywordChar).dropWhile isBlank).isEmpty then none
    else if sectionWords.contains word then ended 2
    else if conditionWords.contains word then ended 1
    else some ([.fault (.unknownSection (keyword ++ blanks))], [])

/-- the keyword of a document type -/
def doctypeWord : List Char := "doctype".toList

/-- a declaration, after its `<!`: a comment, a marked section or a document type; any other is a comment as well -/
def takeDeclaration? (s : List Char) : Option (Taken (List Token)) :=
  match s with
  | '-' :: '-' :: rest => (splitAtEnd? endsComment? rest).map fun (body, after) => ([.special .comment body], after)
  | '[' :: rest => takeSection? rest
  | _ =>
    if doctypeWord.isPrefixOf (s.map Char.toLower) then
      (splitAtAngle? s).map fun (body, after) => ([.special .doctype (body.drop (doctypeWord.length + 1))], after)
    else
      (splitAtAngle? s).map fun (body, after) => ([.special .comment body], after)

/-- whatever follows a `<`; nothing if it is not complete -/
def takeMarkup? (s : List Char) : Option (Taken (List Token)) :=
  match s with
  | [] => none
  | '/' :: rest => takeClosing? rest
  | '?' :: rest => (splitAtAngle? rest).map fun (body, after) => ([.special .instruction body], after)
  | '!' :: rest => takeDeclaration? rest
  | c :: rest => if isAsciiLetter c then takeOpening? (c :: rest) else some ([.text ['<']], c :: rest)

/-- what an incomplete `<` and the text after it become when no more input follows: text up to and with the next `>`, or
else before the next `<` -/
def takeBroken (s : List Char) : Taken (List Token) :=
  match splitAtAngle? s with
  | some (body, after) => ([.text ('<' :: body ++ ['>'])], after)
  | none => if s.contains '<' then ([.text ('<' :: s.takeWhile (· != '<'))], s.dropWhile (· != '<'))
    else ([.text ['<']], s)

/-! ## Scanning -/

/-- what a scan finds at the start of a text: tokens and the text after them, after which it may have to stop; the text
after them may be the raw text of an element -/
structure Scanned where
  tokens : List Token
  rest : List Char
  stops : Bool
  raw : Option String

/-- a character of the name of a reference -/
def isNameChar (c : Char) : Bool :=
  isAsciiLetter c || isAsciiDigit c || c == '-' || c == '.'

/-- the name of a reference and the text after it; at the end of the input the name ends before its last dash or
point -/
def takeName? (s : List Char) : Option (Taken (List Char)) :=
  let run := s.takeWhile isNameChar
  match s.dropWhile isNameChar with
  | after@(_ :: _) => some (run, after)
  | [] =>
    match (run.reverse.dropWhile fun c => c != '-' && c != '.').tail.reverse with
    | [] => none
    | name@(_ :: _) => some (name, run.drop name.length)

/-- the token of a decimal reference -/
def decimalToken (digits : List Char) : Token :=
  if Number.digitLimit < digits.length then .fault (.longReference digits.length)
  else .text [numberedChar (Number.digitsNumber digits)]

/-- the token of a numeric reference, and the text after its digits, which must not begin with one more -/
def takeNumber? (s : List Char) : Option (Taken Token) :=
  let number? : Option (Taken Token) :=
    match s with
    | c :: rest =>
      if isAsciiDigit c then some (decimalToken (s.takeWhile isAsciiDigit), s.dropWhile isAsciiDigit)
      else if (c == 'x' || c == 'X') && rest.head?.any isHexDigit then
        some (.text [numberedChar (hexNumber (rest.takeWhile isHexDigit))], rest.dropWhile isHexDigit)
      else none
    | [] => none
  number?.filter fun taken => taken.2.head?.any fun c => !isHexDigit c

/-- an ampersand and the text `s` after it -/
def scanReference (final : Bool) (s : List Char) : Scanned :=
  match s with
  | [] => ⟨[], ['&'], true, none⟩
  | '#' :: rest =>
    match takeNumber? rest with
    | some (token, after) => ⟨[token], (takeSemicolon after).2, false, none⟩
    | none => if rest.contains ';' then ⟨[.text ['&', '#']], rest, true, none⟩ else ⟨[], '&' :: s, true, none⟩
  | c :: rest =>
    if isAsciiLetter c then
      match takeName? (c :: rest) with
      | some (name, after) =>
        ⟨[.text ((namedText? name).getD ('&' :: name))], (takeSemicolon after).2, false, none⟩
      | none => if final && rest.isEmpty then ⟨[], [c], true, none⟩ else ⟨[], '&' :: s, true, none⟩
    else
      ⟨[.text ['&']], s, false, none⟩

/-- the elements whose text is raw -/
def rawNames : List String :=
  ["script", "style"]

/-- the element whose raw text follows a token -/
def Token.opensRaw? : Token → Option String
  | .opening name _ closed => if !closed && rawNames.contains name then some name else none
  | .text _ | .closing _ | .special .. | .fault _ => none

/-- the letter as which a character counts in the tag that ends raw text: letters match in both cases, and so do the
long s and the dotted and dotless forms of i -/
def rawLetter (c : Char) : Char :=
  if c == 'ſ' then 's' else if c == 'ı' || c == 'İ' then 'i' else c.toLower

/-- the end of the raw text of an element: a closing tag of its name -/
def endsRaw? (name : List Char) : List Char → Option (List Char)
  | '<' :: '/' :: rest =>
    let start := rest.dropWhile isBlank
    if (start.take name.length).map rawLetter = name then
      match (start.drop name.length).dropWhile isBlank with
      | '>' :: after => some after
      | _ => none
    else none
  | _ => none

/-- the tokens of a text that may be empty -/
def textTokens (content : List Char) : List Token :=
  if content.isEmpty then [] else [.text content]

/-- the raw text of an element up to its closing tag; a tag that is not written in ASCII letters is text as well -/
def scanRaw (name : String) (s : List Char) : Scanned :=
  match splitAtEnd? (endsRaw? name.toList) s with
  | none => ⟨[], s, true, some name⟩
  | some (body, after) =>
    if (takeClosingName? (s.drop (body.length + 2))).isSome then
      ⟨textTokens body ++ [.closing name], after, false, none⟩
    else ⟨[.text (s.take (s.length - after.length))], after, false, some name⟩

/-- what stands at the start of a text outside raw text -/
def scanMarkup (final : Bool) (s : List Char) : Scanned :=
  match s with
  | [] => ⟨[], [], true, none⟩
  | '&' :: rest => scanReference final rest
  | '<' :: rest =>
    match takeMarkup? rest with
    | some (tokens, after) => ⟨tokens, after, false, tokens.findSome? Token.opensRaw?⟩
    | none => if final then ⟨(takeBroken rest).1, (takeBroken rest).2, false, none⟩ else ⟨[], s, true, none⟩
  | _ =>
    let isPlain := fun c => c != '<' && c != '&'
    ⟨[.text (s.takeWhile isPlain)], s.dropWhile isPlain, false, none⟩

/-- what stands at the start of a text -/
def scanStart (final : Bool) (raw : Option String) (s : List Char) : Scanned :=
  match raw with
  | some name => scanRaw name s
  | none => scanMarkup final s

/-- the tokens of a text up to where the scan stops, and the text from there on -/
def scan (final : Bool) (raw : Option String) (s : List Char) : Scanned :=
  let start := scanStart final raw s
  if !start.stops && start.rest.length < s.length then
    let following := scan final start.raw start.rest
    { following with tokens := start.tokens ++ following.tokens }
  else
    start
termination_by s.length
decreasing_by grind

/-- the tokens of a document -/
def tokens (s : List Char) : List Token :=
  let first := scan false none s
  let second := scan true first.raw first.rest
  first.tokens ++ second.tokens ++ (if second.raw.isSome then [] else textTokens second.rest)

end Untypeset.Markup
