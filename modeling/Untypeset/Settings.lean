import Untypeset.Number.Numeral
import Untypeset.Text.Case
import Untypeset.Text.Quoted

/-!
Settings and how they are read from the environment. A variable that is not set has its default; a number that cannot be
read is an error, and the number to listen on is read before the limit of notes. A numeral may be long only up to a limit,
which is looked at before what follows its digits.
-/

namespace Untypeset

open Untypeset.Text

/-! ## Integers -/

namespace Number

/-- why a text is no integer -/
inductive IntegerError where
  | malformed
  | tooLong (digits : Nat)
  deriving DecidableEq, Repr

/-- reads an optional sign and at least one digit; leading zeros are allowed -/
def readInteger (s : List Char) : Except IntegerError Int :=
  let (negative, unsigned) := takeSign (plainNumeral s)
  let run := unsigned.takeWhile fun c => isAsciiDigit c || c == '_'
  match ungroup? false run with
  | none => .error .malformed
  | some digits =>
    if digits.isEmpty then .error .malformed
    else if digitLimit < digits.length then .error (.tooLong digits.length)
    else if run.length < unsigned.length then .error .malformed
    else if negative then .ok (-(digitsNumber digits : Int))
    else .ok (digitsNumber digits)

end Number

/-! ## Settings -/

/-- the settings of the program -/
structure Settings where
  host : String
  listenPort : Int
  logLevel : String
  maxNoteLength : Int
  cacheEnabled : Bool
  preferAssistive : Bool
  normalizeSpaces : Bool
  dropPeriod : Bool
  deriving Repr, Inhabited

/-- why settings cannot be read -/
inductive SettingsError where
  | notAnInteger (text : List Char)
  | tooManyDigits (count : Nat)
  deriving DecidableEq, Repr

namespace SettingsError

/-- how much of the quoted text a message shows -/
def shownLength : Nat := 200

/-- the wording of an error -/
def message : SettingsError → List Char
  | .notAnInteger text => "invalid literal for int() with base 10: ".toList ++ (quoted text).take shownLength
  | .tooManyDigits count => Number.unreadableMessage count

end SettingsError

namespace Settings

/-- the settings in an empty environment -/
def default : Settings where
  host := "127.0.0.1"
  listenPort := 8000
  logLevel := "INFO"
  maxNoteLength := 200
  cacheEnabled := true
  preferAssistive := true
  normalizeSpaces := true
  dropPeriod := true

/-- the words that switch a flag on -/
def affirmative : List (List Char) :=
  ["1".toList, "true".toList, "yes".toList, "on".toList]

/-- whether a text switches a flag on -/
def flag (text : String) : Bool :=
  affirmative.contains (lowerCase (trim text.toList))

/-- the value of a variable -/
def lookup? (environment : List (String × String)) (name : String) : Option String :=
  environment.lookup ("MATHJAX_LATEX_" ++ name)

/-- the value of a flag -/
def flagOf (environment : List (String × String)) (name : String) (otherwise : Bool) : Bool :=
  ((lookup? environment name).map flag).getD otherwise

/-- the value of a number -/
def numberOf (environment : List (String × String)) (name : String) (otherwise : Int) : Except SettingsError Int :=
  match lookup? environment name with
  | none => .ok otherwise
  | some text =>
    match Number.readInteger text.toList with
    | .ok n => .ok n
    | .error .malformed => .error (.notAnInteger text.toList)
    | .error (.tooLong digits) => .error (.tooManyDigits digits)

/-- the settings in an environment -/
def ofEnvironment (environment : List (String × String)) : Except SettingsError Settings := do
  let listenPort ← numberOf environment "PORT" default.listenPort
  let maxNoteLength ← numberOf environment "MAX_LOG_LENGTH" default.maxNoteLength
  return {
    host := (lookup? environment "HOST").getD default.host
    listenPort
    logLevel := (lookup? environment "LOG_LEVEL").getD default.logLevel
    maxNoteLength
    cacheEnabled := flagOf environment "CACHE" default.cacheEnabled
    preferAssistive := flagOf environment "PREFER_ASSISTIVE" default.preferAssistive
    normalizeSpaces := flagOf environment "NORMALIZE_NBSP" default.normalizeSpaces
    dropPeriod := flagOf environment "STRIP_PERIOD" default.dropPeriod
  }

end Settings

end Untypeset
