import RunReports.Text.Blank
import RunReports.Text.Digits

/-! # Numeric addresses

Hosts that are written as numbers: four decimal ones with dots between them, or eight
hexadecimal groups with colons between them, where one pair of colons may stand for missing
groups and the last two groups may be written as four decimal numbers. -/
namespace RunReports.Http

open RunReports.Text

/-- Whether a host consists of four runs of digits with a dot between each two of them. -/
def looksLikeNumbers (host : List Char) : Bool :=
  let parts := splitOn '.' host
  parts.length == 4 && parts.all fun part => !part.isEmpty && part.all isDigit

def isOctet (ds : List Char) : Bool :=
  !ds.isEmpty && ds.length ≤ 3 && ds.all isDigit && (ds.length == 1 || ds.head? != some '0') &&
    readDecimal ds ≤ 255

def isFourNumbers (host : List Char) : Bool :=
  let parts := splitOn '.' host
  parts.length == 4 && parts.all isOctet

def isHexGroup (s : List Char) : Bool :=
  !s.isEmpty && s.length ≤ 4 && s.all fun c => (hexValue? c).isSome

/-- How many groups of sixteen bits the pieces between colons make, if they are all
well-formed; the last piece may be four numbers. -/
def groupCount? : List (List Char) → Option Nat
  | [] => some 0
  | [piece] =>
    if isHexGroup piece then some 1 else if isFourNumbers piece then some 2 else none
  | piece :: rest =>
    if isHexGroup piece then (groupCount? rest).map (· + 1) else none

/-- The places where two colons stand next to each other: what stands before and after. -/
def doubleColons (before : List Char) : List Char → List (List Char × List Char)
  | ':' :: ':' :: rest => (before.reverse, rest) :: doubleColons (':' :: before) (':' :: rest)
  | c :: rest => doubleColons (c :: before) rest
  | [] => []

def sidePieces (s : List Char) : List (List Char) := if s.isEmpty then [] else splitOn ':' s

/-- Whether what stands behind the percent sign of an address names a zone. -/
def isZone : Option (List Char) → Bool
  | none => true
  | some zone => !zone.isEmpty && !zone.contains '%'

/-- Whether a host is an address of eight groups; a percent sign and the name of a zone may
follow it. -/
def isEightGroups (host : List Char) : Bool :=
  let (address, zone) := cutAt '%' host
  let isAddress :=
    match doubleColons [] address with
    | [] => groupCount? (splitOn ':' address) == some 8
    | [(before, after)] =>
      let front := sidePieces before
      front.all isHexGroup &&
        (match groupCount? (sidePieces after) with
          | some n => front.length + n ≤ 7
          | none => false)
    | _ => false
  isZone zone && isAddress

end RunReports.Http
