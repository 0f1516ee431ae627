import RunReports.Http.Address
import RunReports.Http.Url
import RunReports.Literal.Quoted

/-! # Authorities of locations

A location may be a URI with an authority. The authority plays no part in what the location
stands for, but it must be well-formed: brackets hold a numeric address, and no character stands
in it that is a compatibility variant of a delimiter. -/
namespace RunReports.Storage

open RunReports.Text

inductive AuthorityFault
  | brackets
  | futureAddress
  | fourNumbers
  | noAddress (host : String)
  | hiddenDelimiter (authority : String)
  deriving Repr, DecidableEq

def AuthorityFault.message : AuthorityFault → String
  | .brackets => "Invalid IPv6 URL"
  | .futureAddress => "IPvFuture address is invalid"
  | .fourNumbers => "An IPv4 address cannot be in brackets"
  | .noAddress host => Literal.quotedText host ++ " does not appear to be an IPv4 or IPv6 address"
  | .hiddenDelimiter authority =>
    "netloc '" ++ authority ++ "' contains invalid characters under NFKC normalization"

/-- Whether characters after a leading letter make an address of a future version: hexadecimal
digits, a dot, and something behind it. -/
def isFutureAddress (s : List Char) : Bool :=
  match cutAt '.' s with
  | (version, some address) =>
    !version.isEmpty && version.all (fun c => (hexValue? c).isSome) && !address.isEmpty
  | _ => false

def bracketedFault? (host : List Char) : Option AuthorityFault :=
  match host with
  | 'v' :: rest => if isFutureAddress rest then none else some .futureAddress
  | _ =>
    if Http.isFourNumbers host then some .fourNumbers
    else if Http.isEightGroups host then none
    else some (.noAddress (String.ofList host))

/-- The fault of an authority with brackets of both kinds. Brackets before the last at sign do
not count, but then what stands behind it must be fit for brackets. -/
def bracketFault? (authority : List Char) : Option AuthorityFault :=
  let place := ((Http.cutAtLast? '@' authority).map Prod.snd).getD authority
  match cutAt '[' place with
  | (before, some inside) =>
    if !before.isEmpty then some .brackets
    else
      match cutAt ']' inside with
      | (host, some (c :: _)) => if c = ':' then bracketedFault? host else some .brackets
      | (host, _) => bracketedFault? host
  | (_, none) => bracketedFault? (cutAt ':' place).1

/-- The characters that stand for a slash, a question mark, a number sign, an at sign or a
colon, alone or among others, when compatibility variants are resolved. -/
def hiddenDelimiters : List Nat :=
  [0x2047, 0x2048, 0x2049, 0x2100, 0x2101, 0x2105, 0x2106, 0x2a74, 0xfe13, 0xfe16, 0xfe55,
    0xfe56, 0xfe5f, 0xfe6b, 0xff03, 0xff0f, 0xff1a, 0xff1f, 0xff20]

def authorityFault? (authority : List Char) : Option AuthorityFault :=
  let opening := authority.contains '['
  let closing := authority.contains ']'
  let hidden : Option AuthorityFault :=
    if authority.any fun c => hiddenDelimiters.contains c.toNat then
      some (.hiddenDelimiter (String.ofList authority))
    else none
  if opening != closing then some .brackets
  else if opening then (bracketFault? authority).or hidden
  else hidden

end RunReports.Storage
