import RunReports.Json.Value
import RunReports.Decimal.Written
import RunReports.Text.Wide

/-! # Writing JSON

Two layouts: on one line, with a blank after every comma and colon; and over several lines,
every item and member on a line of its own, indented by one blank for each level. In both the
control characters, the quote and the backslash are escaped in strings, and in the ASCII
variant also everything outside the printable ASCII characters. -/
namespace RunReports.Json

open RunReports.Decimal RunReports.Text

def unitEscape (n : Nat) : List Char := '\\' :: 'u' :: hexDigits 4 n

def unicodeEscape (c : Char) : List Char :=
  let n := c.toNat
  if n < 0x10000 then unitEscape n
  else
    let m := n - 0x10000
    unitEscape (0xd800 + m / 1024) ++ unitEscape (0xdc00 + m % 1024)

def escapeChar (ascii : Bool) (c : Char) : List Char :=
  if c = '"' then ['\\', '"']
  else if c = '\\' then ['\\', '\\']
  else if c = '\n' then ['\\', 'n']
  else if c = '\r' then ['\\', 'r']
  else if c = '\t' then ['\\', 't']
  else if c = '\x08' then ['\\', 'b']
  else if c = '\x0c' then ['\\', 'f']
  else if c.toNat < 0x20 || (ascii && 0x7e < c.toNat) then unicodeEscape c
  else [c]

def writeString (ascii : Bool) (s : String) : List Char :=
  '"' :: s.toList.flatMap (escapeChar ascii) ++ ['"']

def writeScalar (ascii : Bool) : Json → List Char
  | .null => "null".toList
  | .bool true => "true".toList
  | .bool false => "false".toList
  | .int n => signedDecimal n
  | .num x => x.written jsonNumbers
  | .str s => writeString ascii s
  | .arr _ => "[]".toList
  | .obj _ => ['\x7b', '\x7d']

mutual

def writeCompact (ascii : Bool) : Json → List Char
  | .arr (v :: items) => '[' :: writeCompact ascii v ++ writeCompactItems ascii items ++ [']']
  | .obj ((n, v) :: fields) =>
    '\x7b' :: writeString ascii n ++ ':' :: ' ' :: writeCompact ascii v ++
      writeCompactFields ascii fields ++ ['\x7d']
  | v => writeScalar ascii v

def writeCompactItems (ascii : Bool) : List Json → List Char
  | [] => []
  | v :: rest => ',' :: ' ' :: writeCompact ascii v ++ writeCompactItems ascii rest

def writeCompactFields (ascii : Bool) : List (String × Json) → List Char
  | [] => []
  | (n, v) :: rest =>
    ',' :: ' ' :: writeString ascii n ++ ':' :: ' ' :: writeCompact ascii v ++
      writeCompactFields ascii rest

end

def newLine (level : Nat) : List Char := '\n' :: List.replicate level ' '

mutual

def writeIndented (level : Nat) : Json → List Char
  | .arr (v :: items) =>
    '[' :: newLine (level + 1) ++ writeIndented (level + 1) v ++
      writeIndentedItems (level + 1) items ++ newLine level ++ [']']
  | .obj ((n, v) :: fields) =>
    '\x7b' :: newLine (level + 1) ++ writeString false n ++ ':' :: ' ' ::
      writeIndented (level + 1) v ++ writeIndentedFields (level + 1) fields ++
      newLine level ++ ['\x7d']
  | v => writeScalar false v

def writeIndentedItems (level : Nat) : List Json → List Char
  | [] => []
  | v :: rest =>
    ',' :: newLine level ++ writeIndented level v ++ writeIndentedItems level rest

def writeIndentedFields (level : Nat) : List (String × Json) → List Char
  | [] => []
  | (n, v) :: rest =>
    ',' :: newLine level ++ writeString false n ++ ':' :: ' ' :: writeIndented level v ++
      writeIndentedFields level rest

end

def compact (v : Json) : String := String.ofList (writeCompact false v)

/-- The text of a value on one line, in ASCII characters only. -/
def compactAscii (v : Json) : String := String.ofList (writeCompact true v)

def indented (v : Json) : String := String.ofList (writeIndented 0 v)

end RunReports.Json
