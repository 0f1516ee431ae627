import RunReports.Json.Reader

/-! # JSON as bytes

Bytes are decoded before they are read as JSON. A byte order mark names the encoding and is
dropped; without one the zero bytes among the first four decide, as a JSON text starts with
ASCII characters. -/
namespace RunReports.Json

open RunReports.Text

inductive Encoding
  | utf8
  | utf16 (order : ByteOrder)
  | utf32 (order : ByteOrder)
  deriving Repr, DecidableEq

/-- The encoding named by a byte order mark, with the length of the mark. -/
def markedEncoding? : List UInt8 → Option (Encoding × Nat)
  | 0x00 :: 0x00 :: 0xfe :: 0xff :: _ => some (.utf32 .big, 4)
  | 0xff :: 0xfe :: 0x00 :: 0x00 :: _ => some (.utf32 .little, 4)
  | 0xfe :: 0xff :: _ => some (.utf16 .big, 2)
  | 0xff :: 0xfe :: _ => some (.utf16 .little, 2)
  | 0xef :: 0xbb :: 0xbf :: _ => some (.utf8, 3)
  | _ => none

/-- The encoding that the zero bytes at the front show. -/
def unmarkedEncoding : List UInt8 → Encoding
  | a :: b :: c :: d :: _ =>
    if a == 0 then (if b == 0 then .utf32 .big else .utf16 .big)
    else if b == 0 then (if c == 0 && d == 0 then .utf32 .little else .utf16 .little)
    else .utf8
  | [a, b] => if a == 0 then .utf16 .big else if b == 0 then .utf16 .little else .utf8
  | _ => .utf8

/-- Bytes in which the replacement character stands for each surrogate; both take three bytes. -/
def replaceSurrogates : List UInt8 → List UInt8
  | 0xed :: b :: c :: rest =>
    if 0xa0 ≤ b && b ≤ 0xbf && 0x80 ≤ c && c ≤ 0xbf then
      0xef :: 0xbf :: 0xbd :: replaceSurrogates rest
    else 0xed :: replaceSurrogates (b :: c :: rest)
  | b :: rest => b :: replaceSurrogates rest
  | [] => []

/-- Decode JSON bytes. Surrogates are let through in every encoding, as in escapes of a JSON
text. Positions count from the first byte, except that the mark of UTF-8 is dropped before
counting. -/
def decodeBytes (bytes : List UInt8) : Except DecodeFault (List Char) :=
  match markedEncoding? bytes with
  | some (.utf8, n) => decodeUtf8 (replaceSurrogates (bytes.drop n))
  | some (.utf16 o, n) => decodeUtf16From o [] none n (bytes.drop n)
  | some (.utf32 o, n) => decodeUtf32From o [] n (bytes.drop n)
  | none =>
    match unmarkedEncoding bytes with
    | .utf8 => decodeUtf8 (replaceSurrogates bytes)
    | .utf16 o => decodeUtf16From o [] none 0 bytes
    | .utf32 o => decodeUtf32From o [] 0 bytes

def readBytes (bytes : List UInt8) : Except ReadFault Json :=
  match decodeBytes bytes with
  | .error f => .error (.undecodable f)
  | .ok s => readChars s

end RunReports.Json
