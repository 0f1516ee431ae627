import RunReports.Json.Reader

/-! # Reading literals

What a literal of the notebook's language stands for. The literals that are read are list and
dictionary displays, string literals that stand next to each other, numbers, and the three named
constants; of the escapes those that `quoted` writes. Blanks separate tokens, and so do line
feeds, but only inside brackets. Whatever else the language allows is refused, so a text that is
read is one literal of these kinds. The language itself refuses more than `bracketLimit` open
brackets, and whole numbers with more than `digitLimit` digits. -/
namespace RunReports.Literal

open RunReports RunReports.Text

def isGap (inside : Bool) (c : Char) : Bool := c == ' ' || (inside && c == '\n')

def skipGap (inside : Bool) (s : List Char) : List Char := s.dropWhile (isGap inside)

def isQuote (c : Char) : Bool := c == '\x27' || c == '"'

/-- The character whose code point the first `width` hexadecimal digits of a text are, and what
follows them. Surrogates are no characters. -/
def readCodePoint? (width : Nat) (s : List Char) : Option (Char × List Char) :=
  if s.length < width then none
  else
    (readHex? (s.take width)).bind fun n =>
      if n.isValidChar then some (Char.ofNat n, s.drop width) else none

def escapeWidth? (c : Char) : Option Nat :=
  if c == 'x' then some 2
  else if c == 'u' then some 4
  else if c == 'U' then some 8
  else none

def shortEscape? (c : Char) : Option Char :=
  if isQuote c || c == '\\' then some c
  else if c == 'n' then some '\n'
  else if c == 'r' then some '\r'
  else if c == 't' then some '\t'
  else none

/-- Read one character of a string literal: an escape, or the character itself. A line feed, a
carriage return or a null has to be escaped. -/
def readUnit? : List Char → Option (Char × List Char)
  | [] => none
  | '\\' :: [] => none
  | '\\' :: e :: rest =>
    match escapeWidth? e with
    | some width => readCodePoint? width rest
    | none => (shortEscape? e).map fun c => (c, rest)
  | c :: rest => if c == '\n' || c == '\r' || c == '\x00' then none else some (c, rest)

/-- Read the rest of a string literal after its opening quote. Every character it stands for takes
characters of the text, so the length of that is enough `fuel`. -/
def readBody (quote : Char) : Nat → List Char → Option (List Char × List Char)
  | 0, _ => none
  | fuel + 1, s =>
    if s.head? = some quote then some ([], s.tail)
    else
      match readUnit? s with
      | none => none
      | some (c, after) =>
        (readBody quote fuel after).map fun found => (c :: found.1, found.2)

/-- Whether two more quotes follow an opening one: three quotes start a literal of another kind. -/
def isTripled (quote : Char) : List Char → Bool
  | a :: b :: _ => a == quote && b == quote
  | _ => false

def readText? : List Char → Option (List Char × List Char)
  | [] => none
  | quote :: rest =>
    if isQuote quote && !isTripled quote rest then readBody quote rest.length rest else none

/-- Read string literals that stand next to each other as one text. Every literal takes characters
of the text, so its length is enough `fuel`. -/
def readTexts (inside : Bool) : Nat → List Char → Option (List Char × List Char)
  | 0, _ => none
  | fuel + 1, s =>
    match readText? s with
    | none => none
    | some (piece, after) =>
      match skipGap inside after with
      | [] => some (piece, after)
      | c :: rest =>
        if isQuote c then
          (readTexts inside fuel (c :: rest)).map fun found => (piece ++ found.1, found.2)
        else some (piece, after)

/-- Read a number without its sign. A number with a fraction or an exponent is a floating point
number, any other a whole one. -/
def readMagnitude? (negative : Bool) (s : List Char) : Option (Json × List Char) :=
  match Json.readWhole? s with
  | none => none
  | some (whole, rest) =>
    let (fraction, afterFraction) := (Json.readFraction? rest).getD ([], rest)
    match Json.readExponentPart? afterFraction with
    | some (e, after) => some (Json.floatingJson negative whole fraction e, after)
    | none =>
      if fraction.isEmpty then
        let n : Int := (readDecimal whole : Int)
        some (.int (if negative then -n else n), rest)
      else some (Json.floatingJson negative whole fraction 0, afterFraction)

/-- Read a number. The language refuses a whole number with too many digits. -/
def readNumber? (s : List Char) : Option (Json × List Char) :=
  let found :=
    match s with
    | '-' :: rest => readMagnitude? true rest
    | _ => readMagnitude? false s
  found.filter fun f => f.1.isShort

def constants : List (List Char × Json) :=
  [("None".toList, .null), ("True".toList, .bool true), ("False".toList, .bool false)]

/-- Whether a name or a number ends before a text. -/
def endsToken : List Char → Bool
  | [] => true
  | c :: _ => !(c.isAlphanum || c == '_' || c == '.' || 0x80 ≤ c.toNat)

def readAtom? (s : List Char) : Option (Json × List Char) :=
  let found :=
    match constants.findSome? fun w => (Json.afterWord? w.1 s).map fun rest => (w.2, rest) with
    | some found => some found
    | none => readNumber? s
  found.filter fun f => endsToken f.2

/-- The most brackets that may be open at once. -/
def bracketLimit : Nat := 200

mutual

/-- Read a value with `level` brackets open around it. `fuel` bounds the nesting of calls; it never
runs out where the reader starts with more than twice the length of the text. -/
def readValue : Nat → Nat → List Char → Option (Json × List Char)
  | 0, _, _ => none
  | fuel + 1, level, s =>
    match s with
    | '[' :: rest =>
      if level < bracketLimit then
        match skipGap true rest with
        | ']' :: after => some (.arr [], after)
        | first => readItems fuel (level + 1) [] first
      else none
    | '\x7b' :: rest =>
      if level < bracketLimit then
        match skipGap true rest with
        | '\x7d' :: after => some (.obj [], after)
        | first => readFields fuel (level + 1) [] first
      else none
    | _ =>
      match readTexts (0 < level) s.length s with
      | some (text, after) => some (.str (String.ofList text), after)
      | none => readAtom? s

/-- Read the items of a list up to its end; `out` holds the items read, last one first. -/
def readItems : Nat → Nat → List Json → List Char → Option (Json × List Char)
  | 0, _, _, _ => none
  | fuel + 1, level, out, s =>
    match readValue fuel level s with
    | none => none
    | some (v, after) =>
      match skipGap true after with
      | ']' :: rest => some (.arr (v :: out).reverse, rest)
      | ',' :: rest => readItems fuel level (v :: out) (skipGap true rest)
      | _ => none

/-- Read the entries of a dictionary up to its end; `out` holds the entries read, last one first.
The keys are texts. -/
def readFields :
    Nat → Nat → List (String × Json) → List Char → Option (Json × List Char)
  | 0, _, _, _ => none
  | fuel + 1, level, out, s =>
    match readTexts true s.length s with
    | none => none
    | some (name, after) =>
      match skipGap true after with
      | ':' :: rest =>
        match readValue fuel level (skipGap true rest) with
        | none => none
        | some (v, after) =>
          match skipGap true after with
          | '\x7d' :: rest =>
            some (.obj (Json.ofMembers ((String.ofList name, v) :: out).reverse), rest)
          | ',' :: rest =>
            readFields fuel level ((String.ofList name, v) :: out) (skipGap true rest)
          | _ => none
      | _ => none

end

/-- The value of a text that is one literal. -/
def read? (s : List Char) : Option Json :=
  match readValue (2 * s.length + 1) 0 s with
  | some (v, []) => some v
  | _ => none

end RunReports.Literal
