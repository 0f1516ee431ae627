/-! # Digits

Reading and writing whole numbers in base ten and base sixteen. Only the ASCII digits are read
and written; `isScriptDigit` recognises the decimal digits of all scripts. `decimal` and
`readDecimal` are inverse to each other on numbers. -/
namespace RunReports.Text

def isDigit (c : Char) : Bool := '0' ≤ c && c ≤ '9'

/-- The zeros of the scripts that have decimal digits; the other nine follow each of them. -/
def scriptZeros : List Nat :=
  [0x0030, 0x0660, 0x06f0, 0x07c0, 0x0966, 0x09e6, 0x0a66, 0x0ae6, 0x0b66, 0x0be6, 0x0c66,
    0x0ce6, 0x0d66, 0x0de6, 0x0e50, 0x0ed0, 0x0f20, 0x1040, 0x1090, 0x17e0, 0x1810, 0x1946,
    0x19d0, 0x1a80, 0x1a90, 0x1b50, 0x1bb0, 0x1c40, 0x1c50, 0xa620, 0xa8d0, 0xa900, 0xa9d0,
    0xa9f0, 0xaa50, 0xabf0, 0xff10, 0x104a0, 0x10d30, 0x11066, 0x110f0, 0x11136, 0x111d0,
    0x112f0, 0x11450, 0x114d0, 0x11650, 0x116c0, 0x11730, 0x118e0, 0x11950, 0x11c50, 0x11d50,
    0x11da0, 0x16a60, 0x16ac0, 0x16b50, 0x1d7ce, 0x1d7d8, 0x1d7e2, 0x1d7ec, 0x1d7f6, 0x1e140,
    0x1e2f0, 0x1e950, 0x1fbf0]

def scriptZero? (c : Char) : Option Nat :=
  scriptZeros.find? fun start => start ≤ c.toNat && c.toNat ≤ start + 9

def isScriptDigit (c : Char) : Bool := (scriptZero? c).isSome

/-- The ASCII digit with the value of a decimal digit of any script; other characters stay as
they are. -/
def toAsciiDigit (c : Char) : Char :=
  match scriptZero? c with
  | some start => Char.ofNat (48 + (c.toNat - start))
  | none => c

/-- The value of a digit; other characters count as they are numbered. -/
def digitValue (c : Char) : Nat := c.toNat - 48

def readDecimal (ds : List Char) : Nat := ds.foldl (fun n d => 10 * n + digitValue d) 0

def hasDoubleUnderscore : List Char → Bool
  | '_' :: '_' :: _ => true
  | _ :: rest => hasDoubleUnderscore rest
  | [] => false

/-- A text without the underscores that group its characters. They may stand one by one between
other characters, and there has to be one. -/
def ungrouped? (s : List Char) : Option (List Char) :=
  if !s.contains '_' || s.head? == some '_' || s.getLast? == some '_' || hasDoubleUnderscore s
  then none
  else some (s.filter (· != '_'))

def decimal (n : Nat) : List Char := Nat.toDigits 10 n

def signedDecimal : Int → List Char
  | .ofNat n => decimal n
  | .negSucc n => '-' :: decimal (n + 1)

def hexChar (n : Nat) : Char := if n < 10 then Char.ofNat (48 + n) else Char.ofNat (87 + n)

def upperHexChar (n : Nat) : Char := if n < 10 then Char.ofNat (48 + n) else Char.ofNat (55 + n)

def hexValue? (c : Char) : Option Nat :=
  let n := c.toNat
  if 48 ≤ n && n ≤ 57 then some (n - 48)
  else if 97 ≤ n && n ≤ 102 then some (n - 87)
  else if 65 ≤ n && n ≤ 70 then some (n - 55)
  else none

/-- The lowest `width` hexadecimal digits of a number, highest digit first. -/
def hexDigits : Nat → Nat → List Char
  | 0, _ => []
  | width + 1, n => hexDigits width (n / 16) ++ [hexChar (n % 16)]

def hexByte (b : UInt8) : List Char := hexDigits 2 b.toNat

/-- The number written by hexadecimal digits, if all characters are such digits. -/
def readHex? (ds : List Char) : Option Nat :=
  ds.foldl (fun n d => n.bind fun m => (hexValue? d).map fun v => 16 * m + v) (some 0)

def hexText (bytes : List UInt8) : String := String.ofList (bytes.flatMap hexByte)

/-- The bytes a hexadecimal text stands for, two digits a byte. -/
def readHexBytes (out : List UInt8) : List Char → Option (List UInt8)
  | [] => some out.reverse
  | high :: low :: rest =>
    match hexValue? high, hexValue? low with
    | some a, some b => readHexBytes (UInt8.ofNat (16 * a + b) :: out) rest
    | _, _ => none
  | [_] => none

/-- A number padded on the left with zeros to at least `width` digits. -/
def zeroPadded (width n : Nat) : List Char :=
  let ds := decimal n
  List.replicate (width - ds.length) '0' ++ ds

end RunReports.Text
