import RunReports.Host.Context
import RunReports.Host.Letters
import RunReports.Host.Punycode
import RunReports.Literal.Quoted
import RunReports.Text.Composition

/-! # Host names

A host name is made of labels with dots between them. A label with characters outside of ASCII
is sent as a prefix and its Punycode, and a label with that prefix has to stand for a proper one.
A label is a list of code points here, because Punycode may write some that no character has. -/
namespace RunReports.Host

open RunReports.Text

inductive Fault
  | noLabels
  | emptyLabel
  | notComposed
  | hyphensInside
  | hyphenAtEnd
  | leadingMark
  | joiner (n position : Nat) (label : List Nat)
  | context (n position : Nat) (label : List Nat)
  | codePoint (n position : Nat) (label : List Nat)
  | direction (fault : DirectionFault)
  | emptyPunycode
  | punycodeHyphen
  | notPunycode
  | longLabel
  | longName
  deriving Repr, DecidableEq

def quotedPoint (quote : Char) (n : Nat) : List Char :=
  if 0xd800 ≤ n ∧ n ≤ 0xdfff then '\\' :: 'u' :: hexDigits 4 n
  else Literal.escapeChar quote (Char.ofNat n)

def quotedLabel (label : List Nat) : String :=
  let quote := if label.contains 0x27 && !label.contains 0x22 then '"' else '\x27'
  String.ofList (quote :: label.flatMap (quotedPoint quote) ++ [quote])

/-- The name of a code point: its number in four hexadecimal digits or more. -/
def codePointName (n : Nat) : String :=
  let width := if n < 0x10000 then 4 else if n < 0x100000 then 5 else 6
  "U+" ++ String.ofList ((hexDigits width n).map Char.toUpper)

def DirectionFault.message : DirectionFault → String
  | .first label =>
    "First codepoint in label " ++ quotedLabel label ++ " must be directionality L, R or AL"
  | .inRightToLeft position =>
    "Invalid direction for codepoint at position " ++ toString position ++
      " in a right-to-left label"
  | .inLeftToRight position =>
    "Invalid direction for codepoint at position " ++ toString position ++
      " in a left-to-right label"
  | .digits => "Can not mix numeral types in a right-to-left label"
  | .last => "Label ends with illegal codepoint directionality"

def Fault.message : Fault → String
  | .noLabels => "Empty domain"
  | .emptyLabel => "Empty Label"
  | .notComposed => "Label must be in Normalization Form C"
  | .hyphensInside => "Label has disallowed hyphens in 3rd and 4th position"
  | .hyphenAtEnd => "Label must not start or end with a hyphen"
  | .leadingMark => "Label begins with an illegal combining character"
  | .joiner n position label =>
    "Unknown codepoint adjacent to joiner " ++ codePointName n ++ " at position " ++
      toString position ++ " in " ++ quotedLabel label
  | .context n position label =>
    "Codepoint " ++ codePointName n ++ " not allowed at position " ++ toString position ++
      " in " ++ quotedLabel label
  | .codePoint n position label =>
    "Codepoint " ++ codePointName n ++ " at position " ++ toString position ++ " of " ++
      quotedLabel label ++ " not allowed"
  | .direction fault => fault.message
  | .emptyPunycode => "Malformed A-label, no Punycode eligible content found"
  | .punycodeHyphen => "A-label must not end with a hyphen"
  | .notPunycode => "Invalid A-label"
  | .longLabel => "Label too long"
  | .longName => "Domain too long"

def hyphen : Nat := 0x2d

/-- The fault of the code points of a label, where those before the rest are right; they come
last one first. -/
def pointFault? (label before : List Nat) : List Nat → Option Fault
  | [] => none
  | n :: rest =>
    let position := before.length + 1
    let fault :=
      if isLetter n then none
      else if n = nonJoiner ∨ n = joiner then
        if mayJoin n before rest then none else some (.joiner n position label)
      else
        match mayStand? n before rest with
        | some true => none
        | some false => some (.context n position label)
        | none => some (.codePoint n position label)
    match fault with
    | some f => some f
    | none => pointFault? label (n :: before) rest

def labelFault? (label : List Nat) : Option Fault :=
  match label with
  | [] => some .emptyLabel
  | first :: _ =>
    if !isComposed label then some .notComposed
    else if label[2]? = some hyphen ∧ label[3]? = some hyphen then some .hyphensInside
    else if first = hyphen ∨ label.getLast? = some hyphen then some .hyphenAtEnd
    else if isMark first then some .leadingMark
    else (pointFault? label [] label).or ((directionFault? label).map .direction)

/-- What a label in ASCII starts with if it stands for another one. -/
def punycodePrefix : List Nat := [0x78, 0x6e, 0x2d, 0x2d]

/-- The fault of a label in ASCII, in lower case: of itself, or of the label it stands for. -/
def asciiFault? (label : List Nat) : Option Fault :=
  if punycodePrefix.isPrefixOf label then
    let text := label.drop punycodePrefix.length
    if text.isEmpty then some .emptyPunycode
    else if text.getLast? = some hyphen then some .punycodeHyphen
    else
      match ofPunycode? text with
      | none => some .notPunycode
      | some meant => labelFault? meant
  else labelFault? label

def isAsciiLabel (label : List Nat) : Bool := label.all fun n => n < 0x80

def labelLimit : Nat := 63

/-- The most characters that a host name may have, a dot at its end aside. -/
def nameLimit : Nat := 253

def sentLabel (label : List Nat) : Except Fault (List Nat) :=
  if labelLimit < label.length then .error .longLabel
  else if isAsciiLabel label then
    match asciiFault? label with
    | some fault => .error fault
    | none => .ok label
  else
    match labelFault? label with
    | some fault => .error fault
    | none =>
      let sent := punycodePrefix ++ toPunycode label
      if labelLimit < sent.length then .error .longLabel else .ok sent

def isDot (n : Nat) : Bool := [0x2e, 0x3002, 0xff0e, 0xff61].contains n

def splitLabels : List Nat → List (List Nat)
  | [] => [[]]
  | n :: rest =>
    if isDot n then [] :: splitLabels rest
    else
      match splitLabels rest with
      | [] => [[n]]
      | label :: labels => (n :: label) :: labels

/-- The labels of a host name, and whether a dot stands at its end. -/
def labelsOf (name : List Nat) : Except Fault (List (List Nat) × Bool) :=
  let labels := splitLabels name
  if labels = [[]] then .error .noLabels
  else if labels.getLast? = some [] then .ok (labels.dropLast, true)
  else .ok (labels, false)

def sentName (name : List Nat) : Except Fault (List Nat) := do
  let (labels, dotted) ← labelsOf name
  let sent ← labels.mapM sentLabel
  let text := [0x2e].intercalate sent
  if nameLimit < text.length then .error .longName
  else .ok (text ++ if dotted then [0x2e] else [])

def sentFault? (name : List Nat) : Option Fault :=
  match labelsOf name with
  | .error fault => some fault
  | .ok (labels, _) =>
    labels.findSome? fun label =>
      if isAsciiLabel label then asciiFault? label else labelFault? label

end RunReports.Host
