import Untypeset.Latex.Cleanup
import Untypeset.Markup.Parse
import Untypeset.Settings
import Untypeset.Conversion

/-!
Sessions: markup in, LaTeX out, over any number of requests. A session remembers the markup and the outcome of its last
successful conversion, so that the same markup need not be converted again, and cleans the LaTeX up.
-/

namespace Untypeset

open Untypeset.Markup Untypeset.Rendering Untypeset.Symbol Untypeset.Text

/-- the state of a session -/
structure Session where
  converter : Converter
  /-- whether outcomes are remembered and reused -/
  caching : Bool
  /-- whether clean-up makes non-breaking spaces plain -/
  normalizeSpaces : Bool
  /-- whether clean-up drops a final period -/
  dropPeriod : Bool
  /-- the markup and the outcome of the last remembered conversion -/
  remembered : Option (String × Outcome)
  /-- how many nodes were handed to the converter -/
  conversions : Nat

/-- what a session may be asked for -/
inductive Request where
  /-- converts markup; input that is no text at all is given as none -/
  | convert (markup : Option String)
  /-- converts a node that is already parsed -/
  | convertNode (place : Option Located)
  /-- forgets the remembered conversion -/
  | clear
  /-- changes the switches that are given -/
  | configure (caching preferAssistive : Option Bool)
  /-- makes all conversions break off with a message, or work again -/
  | setFault (message : Option String)

namespace Session

/-- a session that starts with these settings -/
def start (settings : Settings) (symbols : SymbolTable) : Session where
  converter := ⟨symbols, settings.preferAssistive, none⟩
  caching := settings.cacheEnabled
  normalizeSpaces := settings.normalizeSpaces
  dropPeriod := settings.dropPeriod
  remembered := none
  conversions := 0

/-- the outcome of a conversion after clean-up; messages stay as they are -/
def tidy (session : Session) : Outcome → Outcome
  | .converted shape latex =>
    .converted shape (Latex.cleaned session.normalizeSpaces session.dropPeriod latex)
  | outcome => outcome

/-- converts a node -/
def convertNode (session : Session) (place : Option Located) : Session × Noted Outcome :=
  let converted := session.converter.convert place
  ({ session with conversions := session.conversions + 1 }, ⟨session.tidy converted.value, converted.notes⟩)

/-- the outcome for this markup if it is the remembered one and may be reused -/
def reusable? (session : Session) (markup : String) : Option Outcome :=
  if session.caching then
    match session.remembered with
    | some (known, outcome) => if known = markup then some outcome else none
    | none => none
  else
    none

/-- remembers a successful outcome -/
def remember (session : Session) (markup : String) (outcome : Outcome) : Session :=
  if session.caching && outcome.ok then { session with remembered := some (markup, outcome) } else session

/-- converts markup that was not remembered -/
def convertFresh (session : Session) (markup : String) : Session × Noted Outcome :=
  match parse markup with
  | .error fault => (session, ⟨.unreadable fault, [.reading markup.toList]⟩)
  | .ok document =>
    match mathRoot? (Located.top document) with
    | none => (session, ⟨.notFound, [.reading markup.toList, .noRoot]⟩)
    | some root =>
      let (converted, noted) := session.convertNode (some root)
      (converted.remember markup noted.value, ⟨noted.value, .reading markup.toList :: noted.notes⟩)

/-- converts markup -/
def convert (session : Session) (markup : Option String) : Session × Noted Outcome :=
  match markup.filter fun text => !allBlank text.toList with
  | none => (session, ⟨.invalidInput, [.rejectedMarkup]⟩)
  | some text =>
    match session.reusable? text with
    | some outcome => (session, ⟨outcome, [.reused]⟩)
    | none => session.convertFresh text

/-- answers a request; only conversions have an outcome -/
def answer (session : Session) : Request → Session × Noted (Option Outcome)
  | .convert markup =>
    let (next, noted) := session.convert markup
    (next, ⟨some noted.value, noted.notes⟩)
  | .convertNode place =>
    let (next, noted) := session.convertNode place
    (next, ⟨some noted.value, noted.notes⟩)
  | .clear => ({ session with remembered := none }, ⟨none, [.cleared]⟩)
  | .configure caching preferAssistive =>
    let converter :=
      { session.converter with preferAssistive := preferAssistive.getD session.converter.preferAssistive }
    ({ session with converter, caching := caching.getD session.caching }, ⟨none, []⟩)
  | .setFault message =>
    let converter := { session.converter with fault := message.map (·.toList) }
    ({ session with converter }, ⟨none, []⟩)

/-- the session after some requests -/
def after (session : Session) (requests : List Request) : Session :=
  requests.foldl (fun current request => (current.answer request).1) session

/-- the outcomes of some requests, one after the other -/
def outcomes (session : Session) : List Request → List (Option Outcome)
  | [] => []
  | request :: rest =>
    (session.answer request).2.value :: (session.answer request).1.outcomes rest

end Session

end Untypeset
