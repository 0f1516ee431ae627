import RunReports.Text.Utf8

/-! # Wide encodings

Reading texts of two or four bytes a unit, in either byte order. Positions in a fault count
bytes from the start of the input, so the readers are told at which position they start. A
surrogate that has no partner is read as the replacement character. -/
namespace RunReports.Text

inductive ByteOrder
  | little
  | big
  deriving Repr, DecidableEq

/-- The suffix that names the byte order in the name of an encoding. -/
def ByteOrder.suffix : ByteOrder → String
  | .little => "-le"
  | .big => "-be"

def ByteOrder.unit16 (o : ByteOrder) (a b : UInt8) : Nat :=
  match o with
  | .little => 256 * b.toNat + a.toNat
  | .big => 256 * a.toNat + b.toNat

def ByteOrder.unit32 (o : ByteOrder) (a b c d : UInt8) : Nat :=
  match o with
  | .little => 65536 * o.unit16 c d + o.unit16 a b
  | .big => 65536 * o.unit16 a b + o.unit16 c d

def isHighSurrogate (n : Nat) : Bool := 0xd800 ≤ n && n ≤ 0xdbff

def isLowSurrogate (n : Nat) : Bool := 0xdc00 ≤ n && n ≤ 0xdfff

def joinSurrogates (high low : Nat) : Nat := 0x10000 + 1024 * (high - 0xd800) + (low - 0xdc00)

/-- Reading units of two bytes; `high` is a leading surrogate that waits for its partner. -/
def decodeUtf16From (o : ByteOrder) (out : List Char) (high : Option Nat) (position : Nat) :
    List UInt8 → Except DecodeFault (List Char)
  | [] => .ok (if high.isSome then replacementChar :: out else out).reverse
  | [a] => .error ⟨"utf-16" ++ o.suffix, position, position, a, "truncated data"⟩
  | a :: b :: rest =>
    let n := o.unit16 a b
    match high with
    | some h =>
      if isLowSurrogate n then
        decodeUtf16From o (Char.ofNat (joinSurrogates h n) :: out) none (position + 2) rest
      else if isHighSurrogate n then
        decodeUtf16From o (replacementChar :: out) (some n) (position + 2) rest
      else decodeUtf16From o (Char.ofNat n :: replacementChar :: out) none (position + 2) rest
    | none =>
      if isHighSurrogate n then decodeUtf16From o out (some n) (position + 2) rest
      else if isLowSurrogate n then
        decodeUtf16From o (replacementChar :: out) none (position + 2) rest
      else decodeUtf16From o (Char.ofNat n :: out) none (position + 2) rest

def decodeUtf32From (o : ByteOrder) (out : List Char) (position : Nat) :
    List UInt8 → Except DecodeFault (List Char)
  | [] => .ok out.reverse
  | a :: b :: c :: d :: rest =>
    let n := o.unit32 a b c d
    if n < 0x110000 then
      let char := if isHighSurrogate n || isLowSurrogate n then replacementChar else Char.ofNat n
      decodeUtf32From o (char :: out) (position + 4) rest
    else
      .error ⟨"utf-32" ++ o.suffix, position, position + 3, a, "code point not in range(0x110000)"⟩
  | a :: rest =>
    .error ⟨"utf-32" ++ o.suffix, position, position + rest.length, a, "truncated data"⟩

end RunReports.Text
