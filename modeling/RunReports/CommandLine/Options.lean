import RunReports.Text.Blank
import RunReports.Text.Digits

/-! # Options

Command lines made of long options. An option takes a value, from the next word or after an
equals sign, or it is a switch. A name may be shortened as long as only one option starts that
way. A word that looks like an option is never taken as a value, unless it is a negative number
or holds a blank. -/
namespace RunReports.CommandLine

open RunReports.Text

/-- What an option is called, with both dashes, how it is used, and what is said about it: a switch
takes no value, and a required option has to be given. -/
structure Usage where
  name : String
  isSwitch : Bool
  isRequired : Bool
  help : String
  deriving Repr, DecidableEq

def helpUsage : Usage := ⟨"--help", true, false, "show this help message and exit"⟩

def helpLetter : String := "-h"

/-- What a word of a command line is: a plain word, an option with what follows an equals sign,
a word that looks like an option but is none, or a name that could mean several options. -/
inductive Word
  | plain (s : String)
  | known (usage : Usage) (value : Option String)
  | unknown
  | ambiguous
  deriving Repr, DecidableEq

/-- Whether a text is digits, or digits behind a point. Digits of any script count. -/
def isUnsignedNumber (s : List Char) : Bool :=
  match cutAt '.' s with
  | (whole, none) => !whole.isEmpty && whole.all isScriptDigit
  | (whole, some fraction) =>
    whole.all isScriptDigit && !fraction.isEmpty && fraction.all isScriptDigit

/-- A text without the line feed at its end, where there is one. -/
def withoutLineEnd (s : List Char) : List Char :=
  if s.getLast? = some '\n' then s.dropLast else s

/-- Whether a word is a negative number, with or without a line feed behind it. -/
def isNegativeNumber : List Char → Bool
  | '-' :: rest => isUnsignedNumber (withoutLineEnd rest)
  | _ => false

def startingWith (usages : List Usage) (s : List Char) : List Usage :=
  usages.filter fun u => s.isPrefixOf u.name.toList

def nameAndValue (word : String) : List Char × Option String :=
  let (name, value) := cutAt '=' word.toList
  (name, value.map String.ofList)

/-- A word that starts with the short name for help. The letter may be repeated, also behind an
equals sign, and nothing else may follow it. -/
def helpWord (rest : List Char) : Word :=
  .known helpUsage
    (if !rest.isEmpty && rest.all (· == 'h') then none else some (String.ofList rest))

/-- Classify a word that starts with a dash and is more than that. -/
def classifyDashed (usages : List Usage) (word : String) : Word :=
  let all := helpUsage :: usages
  let (name, value) := nameAndValue word
  let isLong : Bool := ['-', '-'].isPrefixOf word.toList
  match all.find? fun u => u.name.toList = name with
  | some usage => .known usage value
  | none =>
    if word = helpLetter then .known helpUsage none
    else if name = helpLetter.toList then helpWord (word.toList.drop (helpLetter.length + 1))
    else
      match isLong, startingWith all name with
      | true, [usage] => .known usage value
      | true, _ :: _ :: _ => .ambiguous
      | _, _ =>
        if !isLong && helpLetter.toList.isPrefixOf word.toList then
          helpWord (word.toList.drop helpLetter.length)
        else if isNegativeNumber word.toList || word.toList.contains ' ' then .plain word
        else .unknown

def classify (usages : List Usage) (word : String) : Word :=
  match word.toList with
  | '-' :: _ :: _ => classifyDashed usages word
  | _ => .plain word

def endOfOptions : String := "--"

/-- Classify all words. The end of options itself belongs to no option. -/
def classifyAll (usages : List Usage) : List String → List Word
  | [] => []
  | word :: rest =>
    if word = endOfOptions then .unknown :: rest.map .plain
    else classify usages word :: classifyAll usages rest

/-- What a command line asks for: a command with the values of its options, help, or nothing that
makes sense. A switch that is given has an empty value. -/
inductive Parsed
  | values (values : List (String × String))
  | help
  | invalid
  deriving Repr, DecidableEq

/-- Take up the options among classified words. `extra` tells whether a word was left over, and
`values` holds the values so far, the last one first. -/
def takeUp (extra : Bool) (values : List (String × String)) : List Word → Parsed
  | [] => if extra then .invalid else .values values
  | .plain _ :: rest => takeUp true values rest
  | .unknown :: rest => takeUp true values rest
  | .ambiguous :: _ => .invalid
  | .known usage (some value) :: rest =>
    if usage.isSwitch then .invalid else takeUp extra ((usage.name, value) :: values) rest
  | .known usage none :: rest =>
    if usage = helpUsage then .help
    else if usage.isSwitch then takeUp extra ((usage.name, "") :: values) rest
    else
      match rest with
      | .plain value :: after => takeUp extra ((usage.name, value) :: values) after
      | _ => .invalid

def hasRequired (usages : List Usage) (values : List (String × String)) : Bool :=
  usages.all fun u => !u.isRequired || (values.lookup u.name).isSome

def parse (usages : List Usage) (words : List String) : Parsed :=
  let classified := classifyAll usages words
  if classified.contains .ambiguous then .invalid
  else
    match takeUp false [] classified with
    | .values values => if hasRequired usages values then .values values else .invalid
    | other => other

end RunReports.CommandLine
