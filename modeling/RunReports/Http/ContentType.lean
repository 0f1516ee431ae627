import RunReports.Text.Blank
import RunReports.Text.Percent

/-! # Content types

A content type is a list of parameters with semicolons between them. A value may stand in
quotes, and it may be cut into numbered segments, some of them percent-encoded. What matters
here is the character set that a content type names, and whether it is one of those known here. -/
namespace RunReports.Http

open RunReports.Text

/-- The items between semicolons. A semicolon in quotes separates nothing; a quote behind a
backslash neither opens nor closes. `item` holds the current item, last character first. -/
def itemsFrom (item : List Char) (quoted : Bool) : List Char → List (List Char)
  | [] => [item.reverse]
  | c :: rest =>
    if c = ';' ∧ !quoted then item.reverse :: itemsFrom [] false rest
    else itemsFrom (c :: item) (if c = '"' ∧ item.head? ≠ some '\\' then !quoted else quoted) rest

structure Parameter where
  name : List Char
  value : List Char
  deriving Repr, DecidableEq

/-- Read one item. An item without an equals sign is a name without a value. -/
def Parameter.read (item : List Char) : Parameter :=
  match cutAt '=' item with
  | (name, some value) => ⟨(trim name).map Char.toLower, trim value⟩
  | (name, none) => ⟨trim name, []⟩

/-- Every pair of characters replaced by its second one. -/
def replacePairs (a b : Char) : List Char → List Char
  | [] => []
  | [c] => [c]
  | c :: d :: rest => if c = a ∧ d = b then b :: replacePairs a b rest
    else c :: replacePairs a b (d :: rest)

def unquoted (value : List Char) : List Char :=
  match value with
  | '"' :: rest =>
    if rest.getLast? = some '"' then
      replacePairs '\\' '"' (replacePairs '\\' '\\' rest.dropLast)
    else value
  | '<' :: rest => if rest.getLast? = some '>' then rest.dropLast else value
  | _ => value

/-- One segment of a value: its number, if it has one, its text, and whether that is encoded. -/
structure Segment where
  number : Option Nat
  text : List Char
  encoded : Bool
  deriving Repr, DecidableEq

def precedes : List Char → List Char → Bool
  | [], _ => true
  | _ :: _, [] => false
  | c :: cs, d :: ds => c.toNat < d.toNat || (c == d && precedes cs ds)

def Segment.precedes (p q : Segment) : Bool :=
  match p.number, q.number with
  | none, some _ => true
  | some _, none => false
  | m, n =>
    let k := m.getD 0
    let l := n.getD 0
    k < l || (k == l && Http.precedes p.text q.text &&
      (p.text != q.text || !p.encoded || q.encoded))

/-- Whether a character may stand in the name of a value in segments. -/
def isWordChar (c : Char) : Bool := c.isAlphanum || c == '_'

/-- The value that a parameter is a segment of: a star follows the value's name, a number may
follow the star, and another star tells that the segment is encoded. -/
def Parameter.segment? (p : Parameter) : Option (List Char × Segment) :=
  match cutAt '*' p.name with
  | (name, some mark) =>
    let digits := mark.takeWhile isDigit
    let number := if digits.isEmpty then none else some (readDecimal digits)
    let isMark := mark.isEmpty ||
      (!digits.isEmpty && (mark.length == digits.length || mark == digits ++ ['*']))
    if !name.isEmpty && name.all isWordChar && isMark then
      some (name, ⟨number, unquoted p.value, p.name.getLast? == some '*'⟩)
    else none
  | (_, none) => none

/-- The text of a segment. An escape stands for the character with its number. -/
def Segment.plainText (s : Segment) : List Char :=
  if s.encoded then (unescapeBytes s.text).map fun b => Char.ofNat b.toNat else s.text

/-- A value in its final form. One with an encoded segment begins with the names of a character
set and a language, each followed by an apostrophe. -/
inductive ParameterValue
  | plain (text : List Char)
  | extended (charset : Option (List Char)) (text : List Char)
  deriving Repr, DecidableEq

def joinSegments (segments : List Segment) : ParameterValue :=
  let text := ((segments.mergeSort Segment.precedes).map Segment.plainText).flatten
  if segments.any Segment.encoded then
    match cutAt '\x27' text with
    | (charset, some rest) =>
      match cutAt '\x27' rest with
      | (_, some value) => .extended (some charset) value
      | _ => .extended none text
    | _ => .extended none text
  else .plain text

/-- The names in a list, each once, in the order in which they first occur. -/
def firstNames (names : List (List Char)) : List (List Char) :=
  names.foldl (fun out name => if out.contains name then out else out ++ [name]) []

/-- The parameters of a content type by name: whole values before those in segments. What comes
first is never a segment. -/
def parameters (contentType : List Char) : List (List Char × ParameterValue) :=
  match (itemsFrom [] false contentType).map Parameter.read with
  | [] => []
  | first :: others =>
    let segments := others.filterMap Parameter.segment?
    let whole := (first :: others.filter fun p => p.segment?.isNone).map fun p =>
      (p.name, ParameterValue.plain (unquoted p.value))
    whole ++ (firstNames (segments.map Prod.fst)).map fun name =>
      (name, joinSegments ((segments.filter fun s => s.1 == name).map Prod.snd))

inductive Charset
  | utf8
  | latin1
  | ascii
  deriving Repr, DecidableEq

namespace Charset

def names : Charset → List String
  | .utf8 => ["cp65001", "u8", "utf", "utf8", "utf8_ucs2", "utf8_ucs4", "utf_8"]
  | .latin1 =>
    ["8859", "cp819", "csisolatin1", "ibm819", "iso8859", "iso8859_1", "iso_8859_1",
      "iso_8859_1_1987", "iso_ir_100", "l1", "latin", "latin1", "latin_1"]
  | .ascii =>
    ["646", "ansi_x3.4_1968", "ansi_x3.4_1986", "ansi_x3_4_1968", "cp367", "csascii", "ibm367",
      "iso646_us", "iso_646.irv_1991", "iso_ir_6", "us", "us_ascii", "ascii"]

/-- A name with its words joined by low lines: a word consists of letters, digits and dots. -/
def joinWords (name : List Char) : List Char :=
  let isPart (c : Char) : Bool := c.isAlphanum || c == '.'
  let marked := name.map fun c => if isPart c then c.toLower else '_'
  joinWith ['_'] ((splitOn '_' marked).filter fun word => !word.isEmpty)

def ofName? (name : List Char) : Option Charset :=
  let word := String.ofList (joinWords name)
  [utf8, latin1, ascii].find? fun charset => charset.names.contains word

/-- Whether a byte is a character by itself in every one of the character sets. -/
def isAscii (b : UInt8) : Bool := b.toNat < 0x80

def decodeLatin1 (bytes : List UInt8) : List Char := bytes.map fun b => Char.ofNat b.toNat

/-- Decode bytes; what is no character becomes the replacement character. -/
def decodeLossy (bytes : List UInt8) : Charset → List Char
  | .utf8 => decodeUtf8Lossy bytes
  | .latin1 => decodeLatin1 bytes
  | .ascii => bytes.map fun b => if isAscii b then Char.ofNat b.toNat else replacementChar

def decode? (bytes : List UInt8) : Charset → Option (List Char)
  | .utf8 => (decodeUtf8 bytes).toOption
  | .latin1 => some (decodeLatin1 bytes)
  | .ascii => if bytes.all isAscii then some (decodeLatin1 bytes) else none

end Charset

/-- A character of an extended value as bytes: its number, or an escape if that is no byte. -/
def charBytes (c : Char) : List UInt8 :=
  let n := c.toNat
  if n < 0x100 then [UInt8.ofNat n]
  else if n < 0x10000 then encodeUtf8 ('\\' :: 'u' :: hexDigits 4 n)
  else encodeUtf8 ('\\' :: 'U' :: hexDigits 8 n)

/-- The text of a value. An extended value whose bytes are no text in its character set stays
as it is. -/
def ParameterValue.text : ParameterValue → List Char
  | .plain s => s
  | .extended charset s =>
    let name := (charset.filter fun n => !n.isEmpty).getD "us-ascii".toList
    ((Charset.ofName? name).bind (Charset.decode? (s.flatMap charBytes))).getD s

def charsetName? (contentType : String) : Option (List Char) :=
  let named := (parameters contentType.toList).find? fun p =>
    String.ofList (p.1.map Char.toLower) == "charset"
  (named.map fun p => p.2.text).filter fun name => name.all fun c => c.toNat < 0x80

/-- The character set of a text with a content type: UTF-8 if none is named, and nothing if the one
that is named is none of those that are known here. -/
def charset? (contentType : Option String) : Option Charset :=
  match contentType.bind charsetName? with
  | none => some .utf8
  | some name => Charset.ofName? name

end RunReports.Http
