import RunReports.Json.Value
import RunReports.Text.Wide

/-! # Reading JSON

A reader for JSON texts that also accepts the words `NaN`, `Infinity` and `-Infinity`. When a
text is no JSON, the fault names the problem and the place where it was noticed: line, column
and offset, each counted in characters, lines ended by line feeds alone. Inside the reader a
place is the number of characters that were still unread. -/
namespace RunReports.Json

open RunReports.Decimal RunReports.Text

inductive Problem
  | expectingValue
  | extraData
  | expectingName
  | expectingColon
  | expectingComma
  | unterminatedString
  | controlCharacter
  | badEscape
  | badUnicodeEscape
  | byteOrderMark
  deriving Repr, DecidableEq

def Problem.message : Problem → String
  | .expectingValue => "Expecting value"
  | .extraData => "Extra data"
  | .expectingName => "Expecting property name enclosed in double quotes"
  | .expectingColon => "Expecting ':' delimiter"
  | .expectingComma => "Expecting ',' delimiter"
  | .unterminatedString => "Unterminated string starting at"
  | .controlCharacter => "Invalid control character at"
  | .badEscape => "Invalid \\escape"
  | .badUnicodeEscape => "Invalid \\uXXXX escape"
  | .byteOrderMark => "Unexpected UTF-8 BOM (decode using utf-8-sig)"

inductive Container
  | array
  | object
  deriving Repr, DecidableEq

def Container.name : Container → String
  | .array => "array"
  | .object => "object"

/-- Why reading stopped: a problem and the number of characters not yet read, a whole number with
too many digits, or a value that would hold others on too many levels. -/
inductive Stop
  | problem (p : Problem) (unread : Nat)
  | longNumber (digits : Nat)
  | tooNested (container : Container)
  deriving Repr, DecidableEq

inductive ReadFault
  | problem (p : Problem) (line column offset : Nat)
  | longNumber (digits : Nat)
  | tooNested (container : Container)
  | undecodable (f : DecodeFault)
  deriving Repr, DecidableEq

def nestingMessage (container : Container) : String :=
  "maximum recursion depth exceeded while decoding a JSON " ++ container.name ++
    " from a unicode string"

def ReadFault.message : ReadFault → String
  | .problem p line column offset =>
    p.message ++ ": line " ++ toString line ++ " column " ++ toString column ++
      " (char " ++ toString offset ++ ")"
  | .longNumber digits =>
    "Exceeds the limit (4300 digits) for integer string conversion: value has " ++
      toString digits ++ " digits; use sys.set_int_max_str_digits() to increase the limit"
  | .tooNested container => nestingMessage container
  | .undecodable f => f.message

def isJsonBlank (c : Char) : Bool := c == ' ' || c == '\t' || c == '\n' || c == '\r'

def skipBlanks (s : List Char) : List Char := s.dropWhile isJsonBlank

def simpleEscape? (c : Char) : Option Char :=
  if c = '"' || c = '\\' || c = '/' then some c
  else if c = 'b' then some '\x08'
  else if c = 'f' then some '\x0c'
  else if c = 'n' then some '\n'
  else if c = 'r' then some '\r'
  else if c = 't' then some '\t'
  else none

/-- The characters read so far, where a leading surrogate still waits for its partner: without
the partner it is unreadable. -/
def flushHigh (high : Option Nat) (out : List Char) : List Char :=
  match high with
  | none => out
  | some _ => replacementChar :: out

/-- One more code unit from an escape: a trailing surrogate joins a leading one that stands
directly before it. -/
def addUnit (high : Option Nat) (out : List Char) (n : Nat) : Option Nat × List Char :=
  if isHighSurrogate n then (some n, flushHigh high out)
  else if isLowSurrogate n then
    match high with
    | some h => (none, Char.ofNat (joinSurrogates h n) :: out)
    | none => (none, replacementChar :: out)
  else (none, Char.ofNat n :: flushHigh high out)

/-- Read the rest of a string after its opening quote. `start` is the place of that quote,
`high` a leading surrogate that waits for its partner, and `out` holds the characters read so
far, last one first. A unicode escape needs at least one character after its digits. -/
def readStringFrom (start : Nat) (high : Option Nat) (out : List Char) :
    List Char → Except Stop (List Char × List Char)
  | [] => .error (.problem .unterminatedString start)
  | c :: rest =>
    if c = '"' then .ok ((flushHigh high out).reverse, rest)
    else if c = '\\' then
      match rest with
      | [] => .error (.problem .unterminatedString start)
      | e :: after =>
        if e = 'u' then
          match after with
          | h₁ :: h₂ :: h₃ :: h₄ :: tail =>
            match readHex? [h₁, h₂, h₃, h₄], tail.isEmpty with
            | some n, false =>
              let read := addUnit high out n
              readStringFrom start read.1 read.2 tail
            | _, _ => .error (.problem .badUnicodeEscape rest.length)
          | _ => .error (.problem .badUnicodeEscape rest.length)
        else
          match simpleEscape? e with
          | some d => readStringFrom start none (d :: flushHigh high out) after
          | none => .error (.problem .badEscape (rest.length + 1))
    else if c.toNat < 0x20 then .error (.problem .controlCharacter (rest.length + 1))
    else readStringFrom start none (c :: flushHigh high out) rest

/-- The whole part of a number: a zero, or digits that start with none. -/
def readWhole? (s : List Char) : Option (List Char × List Char) :=
  match s with
  | [] => none
  | c :: rest =>
    if c = '0' then some (['0'], rest)
    else if isDigit c then some (s.takeWhile isDigit, s.dropWhile isDigit)
    else none

/-- The fraction of a number: a point and at least one digit. -/
def readFraction? (s : List Char) : Option (List Char × List Char) :=
  match s with
  | '.' :: rest =>
    match rest.takeWhile isDigit with
    | [] => none
    | ds => some (ds, rest.dropWhile isDigit)
  | _ => none

/-- The exponent of a number: its letter, an optional sign and at least one digit. -/
def readExponentPart? (s : List Char) : Option (Int × List Char) :=
  match s with
  | [] => none
  | c :: rest =>
    if c = 'e' || c = 'E' then
      let (negative, body) :=
        match rest with
        | '-' :: body => (true, body)
        | '+' :: body => (false, body)
        | _ => (false, rest)
      match body.takeWhile isDigit with
      | [] => none
      | ds =>
        some (if negative then -(readDecimal ds : Int) else (readDecimal ds : Int),
          body.dropWhile isDigit)
    else none

/-- The floating point number with given digits before and behind the point, and an exponent. -/
def floatingJson (negative : Bool) (whole fraction : List Char) (e : Int) : Json :=
  .num (.ofDecimal negative (readDecimal (whole ++ fraction)) (e - (fraction.length : Int)))

def readMagnitude (negative : Bool) (start : Nat) (s : List Char) :
    Except Stop (Json × List Char) :=
  match readWhole? s with
  | none => .error (.problem .expectingValue start)
  | some (whole, rest) =>
    let (fraction, afterFraction) := (readFraction? rest).getD ([], rest)
    match readExponentPart? afterFraction with
    | some (e, after) => .ok (floatingJson negative whole fraction e, after)
    | none =>
      if fraction.isEmpty then
        if digitLimit < whole.length then .error (.longNumber whole.length)
        else
          let n : Int := (readDecimal whole : Int)
          .ok (.int (if negative then -n else n), rest)
      else .ok (floatingJson negative whole fraction 0, afterFraction)

def words : List (List Char × Json) :=
  [("null".toList, .null), ("true".toList, .bool true), ("false".toList, .bool false),
    ("NaN".toList, .num .nan), ("Infinity".toList, .num (.infinity false)),
    ("-Infinity".toList, .num (.infinity true))]

def afterWord? : List Char → List Char → Option (List Char)
  | [], s => some s
  | _ :: _, [] => none
  | w :: ws, c :: rest => if w = c then afterWord? ws rest else none

def readScalar (s : List Char) : Except Stop (Json × List Char) :=
  match words.findSome? fun w => (afterWord? w.1 s).map fun rest => (w.2, rest) with
  | some found => .ok found
  | none =>
    match s with
    | '-' :: rest => readMagnitude true s.length rest
    | _ => readMagnitude false s.length s

/-- The most levels on which values may hold other values. -/
def levelLimit : Nat := 990

mutual

/-- Read a value. `fuel` bounds the nesting of calls; it never runs out where the reader starts
with twice the length of the text. `levels` tells on how many more levels the value may hold
others; a bracket beyond them is refused before anything behind it is looked at. -/
def readValue : Nat → Nat → List Char → Except Stop (Json × List Char)
  | 0, _, s => .error (.problem .expectingValue s.length)
  | fuel + 1, levels, s =>
    match s with
    | '"' :: rest =>
      match readStringFrom s.length none [] rest with
      | .error stop => .error stop
      | .ok (text, after) => .ok (.str (String.ofList text), after)
    | '[' :: rest =>
      match levels, skipBlanks rest with
      | 0, _ => .error (.tooNested .array)
      | _ + 1, ']' :: after => .ok (.arr [], after)
      | levels + 1, first => readItems fuel levels [] first
    | '\x7b' :: rest =>
      match levels, skipBlanks rest with
      | 0, _ => .error (.tooNested .object)
      | _ + 1, '\x7d' :: after => .ok (.obj [], after)
      | levels + 1, first => readMembers fuel levels [] first
    | _ => readScalar s

/-- Read the items of an array up to its end; `out` holds the items read, last one first. -/
def readItems : Nat → Nat → List Json → List Char → Except Stop (Json × List Char)
  | 0, _, _, s => .error (.problem .expectingValue s.length)
  | fuel + 1, levels, out, s =>
    match readValue fuel levels s with
    | .error stop => .error stop
    | .ok (v, after) =>
      match skipBlanks after with
      | ']' :: rest => .ok (.arr (v :: out).reverse, rest)
      | ',' :: rest => readItems fuel levels (v :: out) (skipBlanks rest)
      | rest => .error (.problem .expectingComma rest.length)

/-- Read the members of an object up to its end; `out` holds the members read, last one first. -/
def readMembers : Nat → Nat → List (String × Json) → List Char → Except Stop (Json × List Char)
  | 0, _, _, s => .error (.problem .expectingName s.length)
  | fuel + 1, levels, out, s =>
    match s with
    | '"' :: body =>
      match readStringFrom s.length none [] body with
      | .error stop => .error stop
      | .ok (name, after) =>
        match skipBlanks after with
        | ':' :: rest =>
          match readValue fuel levels (skipBlanks rest) with
          | .error stop => .error stop
          | .ok (v, after) =>
            match skipBlanks after with
            | '\x7d' :: rest =>
              .ok (.obj (ofMembers ((String.ofList name, v) :: out).reverse), rest)
            | ',' :: rest =>
              readMembers fuel levels ((String.ofList name, v) :: out) (skipBlanks rest)
            | rest => .error (.problem .expectingComma rest.length)
        | rest => .error (.problem .expectingColon rest.length)
    | _ => .error (.problem .expectingName s.length)

end

def readWholeText (s : List Char) : Except Stop Json :=
  match readValue (2 * s.length + 2) levelLimit (skipBlanks s) with
  | .error stop => .error stop
  | .ok (v, after) =>
    match skipBlanks after with
    | [] => .ok v
    | rest => .error (.problem .extraData rest.length)

/-- The place in a text that has a number of unread characters: line, column and offset. -/
def faultAt (p : Problem) (s : List Char) (unread : Nat) : ReadFault :=
  let offset := s.length - unread
  let read := s.take offset
  let line := read.count '\n' + 1
  let column := (read.reverse.takeWhile (· != '\n')).length + 1
  .problem p line column offset

def Stop.locate (s : List Char) : Stop → ReadFault
  | .problem p unread => faultAt p s unread
  | .longNumber digits => .longNumber digits
  | .tooNested container => .tooNested container

def readChars (s : List Char) : Except ReadFault Json :=
  match readWholeText s with
  | .ok v => .ok v
  | .error stop => .error (stop.locate s)

/-- Read a text as JSON. A text must not start with a byte order mark. -/
def read (text : String) : Except ReadFault Json :=
  let s := text.toList
  if s.head? = some (Char.ofNat 0xfeff) then .error (faultAt .byteOrderMark s s.length)
  else readChars s

end RunReports.Json
