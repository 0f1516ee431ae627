import RunReports.Text.Utf8

/-! # Percent encoding

A character outside a given safe set is written as the bytes of its UTF-8 form, each as a
percent sign and two upper-case hexadecimal digits. `unquote` undoes this for every escape
it finds; escapes that do not form a character are read leniently. -/
namespace RunReports.Text

def isUnreserved (c : Char) : Bool :=
  c.isAlphanum || c == '-' || c == '.' || c == '_' || c == '~'

def percentByte (b : UInt8) : List Char :=
  ['%', upperHexChar (b.toNat / 16), upperHexChar (b.toNat % 16)]

/-- Escape every character that is neither unreserved nor in the safe set. -/
def percentEncode (isSafe : Char → Bool) (s : List Char) : List Char :=
  s.flatMap fun c =>
    if isUnreserved c || isSafe c then [c] else (encodeChar c).flatMap percentByte

/-- The bytes of a run of ASCII characters, its escapes replaced by the bytes they stand for. -/
def unescapeBytes : List Char → List UInt8
  | [] => []
  | '%' :: a :: b :: rest =>
    match hexValue? a, hexValue? b with
    | some high, some low => UInt8.ofNat (16 * high + low) :: unescapeBytes rest
    | _, _ => 0x25 :: unescapeBytes (a :: b :: rest)
  | c :: rest => UInt8.ofNat c.toNat :: unescapeBytes rest

/-- Undo percent encoding. Escapes are decoded within each run of ASCII characters, `run`
holding the current run, last character first; other characters stay as they are. -/
def unquoteFrom (run : List Char) : List Char → List Char
  | [] => decodeUtf8Lossy (unescapeBytes run.reverse)
  | c :: rest =>
    if c.toNat < 0x80 then unquoteFrom (c :: run) rest
    else decodeUtf8Lossy (unescapeBytes run.reverse) ++ c :: unquoteFrom [] rest

def unquote (s : List Char) : List Char := unquoteFrom [] s

end RunReports.Text
