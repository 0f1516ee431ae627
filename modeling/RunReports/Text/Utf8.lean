import RunReports.Text.Digits

/-! # UTF-8

Texts as bytes and back. The strict reader stops at the first ill-formed sequence and says
where it stands and what is wrong with it. The lenient reader puts a replacement character
for every maximal ill-formed sequence. Both run the same machine over the bytes: a lead byte
says how many continuation bytes follow and in which range the first of them lies. -/
namespace RunReports.Text

def encodeChar (c : Char) : List UInt8 :=
  let n := c.toNat
  if n < 0x80 then [UInt8.ofNat n]
  else if n < 0x800 then [UInt8.ofNat (0xc0 + n / 64), UInt8.ofNat (0x80 + n % 64)]
  else if n < 0x10000 then
    [UInt8.ofNat (0xe0 + n / 4096), UInt8.ofNat (0x80 + n / 64 % 64), UInt8.ofNat (0x80 + n % 64)]
  else
    [UInt8.ofNat (0xf0 + n / 262144), UInt8.ofNat (0x80 + n / 4096 % 64),
      UInt8.ofNat (0x80 + n / 64 % 64), UInt8.ofNat (0x80 + n % 64)]

def encodeUtf8 (s : List Char) : List UInt8 := s.flatMap encodeChar

def utf8 (s : String) : List UInt8 := encodeUtf8 s.toList

/-- Why bytes are no text in their encoding: the encoding, the first and the last position
of the offending bytes, the first of these bytes, and the reason. -/
structure DecodeFault where
  encoding : String
  first : Nat
  last : Nat
  byte : UInt8
  reason : String
  deriving Repr, DecidableEq

def DecodeFault.message (f : DecodeFault) : String :=
  let place :=
    if f.first = f.last then
      "byte 0x" ++ String.ofList (hexByte f.byte) ++ " in position " ++ toString f.first
    else "bytes in position " ++ toString f.first ++ "-" ++ toString f.last
  "'" ++ f.encoding ++ "' codec can't decode " ++ place ++ ": " ++ f.reason

/-- A sequence that is not finished: the number of bytes still missing, the range the next
one lies in, the bits read so far, how many bytes were read, and the first of them. -/
structure Pending where
  missing : Nat
  low : Nat
  high : Nat
  bits : Nat
  taken : Nat
  byte : UInt8

inductive Lead
  | single (c : Char)
  | sequence (p : Pending)
  | invalid

def lead (b : UInt8) : Lead :=
  let n := b.toNat
  if n < 0x80 then .single (Char.ofNat n)
  else if n < 0xc2 then .invalid
  else if n < 0xe0 then .sequence ⟨1, 0x80, 0xbf, n - 0xc0, 1, b⟩
  else if n = 0xe0 then .sequence ⟨2, 0xa0, 0xbf, 0, 1, b⟩
  else if n = 0xed then .sequence ⟨2, 0x80, 0x9f, 0xd, 1, b⟩
  else if n < 0xf0 then .sequence ⟨2, 0x80, 0xbf, n - 0xe0, 1, b⟩
  else if n = 0xf0 then .sequence ⟨3, 0x90, 0xbf, 0, 1, b⟩
  else if n < 0xf4 then .sequence ⟨3, 0x80, 0xbf, n - 0xf0, 1, b⟩
  else if n = 0xf4 then .sequence ⟨3, 0x80, 0x8f, 4, 1, b⟩
  else .invalid

/-- One more continuation byte: a finished character, a longer unfinished sequence, or
`none` if the byte does not continue the sequence. -/
def Pending.next (p : Pending) (b : UInt8) : Option (Char ⊕ Pending) :=
  let n := b.toNat
  if p.low ≤ n && n ≤ p.high then
    let bits := 64 * p.bits + n % 64
    if p.missing ≤ 1 then some (.inl (Char.ofNat bits))
    else some (.inr ⟨p.missing - 1, 0x80, 0xbf, bits, p.taken + 1, p.byte⟩)
  else none

def Pending.fault (p : Pending) (position : Nat) (reason : String) : DecodeFault :=
  ⟨"utf-8", position - p.taken, position - 1, p.byte, reason⟩

/-- Strict reading from a position on; `out` holds the characters read, last one first. -/
def decodeFrom (out : List Char) (pending : Option Pending) (position : Nat) :
    List UInt8 → Except DecodeFault (List Char)
  | [] =>
    match pending with
    | none => .ok out.reverse
    | some p => .error (p.fault position "unexpected end of data")
  | b :: rest =>
    match pending with
    | none =>
      match lead b with
      | .single c => decodeFrom (c :: out) none (position + 1) rest
      | .sequence p => decodeFrom out (some p) (position + 1) rest
      | .invalid => .error ⟨"utf-8", position, position, b, "invalid start byte"⟩
    | some p =>
      match p.next b with
      | some (.inl c) => decodeFrom (c :: out) none (position + 1) rest
      | some (.inr q) => decodeFrom out (some q) (position + 1) rest
      | none => .error (p.fault position "invalid continuation byte")

def decodeUtf8 (bytes : List UInt8) : Except DecodeFault (List Char) := decodeFrom [] none 0 bytes

/-- The character that stands for bytes that cannot be read. -/
def replacementChar : Char := Char.ofNat 0xfffd

/-- Lenient reading; `out` holds the characters read, last one first. -/
def decodeLossyFrom (out : List Char) (pending : Option Pending) : List UInt8 → List Char
  | [] => (if pending.isSome then replacementChar :: out else out).reverse
  | b :: rest =>
    let fresh (out : List Char) : List Char × Option Pending :=
      match lead b with
      | .single c => (c :: out, none)
      | .sequence p => (out, some p)
      | .invalid => (replacementChar :: out, none)
    let (out, pending) :=
      match pending with
      | none => fresh out
      | some p =>
        match p.next b with
        | some (.inl c) => (c :: out, none)
        | some (.inr q) => (out, some q)
        | none => fresh (replacementChar :: out)
    decodeLossyFrom out pending rest

def decodeUtf8Lossy (bytes : List UInt8) : List Char := decodeLossyFrom [] none bytes

end RunReports.Text
