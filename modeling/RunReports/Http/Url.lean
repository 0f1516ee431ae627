import RunReports.Host.Name
import RunReports.Http.Address
import RunReports.Literal.Quoted
import RunReports.Text.Blank
import RunReports.Text.Percent

/-! # URLs

A URL is taken apart into scheme, authority, path, query and fragment, and brought into the
form in which it is sent: scheme and host in lower case, a host with characters outside of ASCII
in labels of Punycode, the default port of the scheme left out, dot segments resolved, and every
character outside the set of its component escaped. A percent sign is in every set, so escapes
that are there stay as they are. `Url.resolve` puts the path of a request behind the path of a
base address. -/
namespace RunReports.Http

open RunReports.Text

structure Url where
  scheme : List Char
  userinfo : List Char
  host : List Char
  port : Option Int
  path : List Char
  query : Option (List Char)
  fragment : Option (List Char)
  deriving Repr, DecidableEq

inductive UrlFault
  | tooLong
  | controlCharacter (c : Char) (position : Nat)
  | port (text : String)
  | fourNumbers (host : String)
  | bracketed (host : String)
  | hostName (host : String)
  | pathAfterAuthority
  | doubleSlash
  | leadingColon
  deriving Repr, DecidableEq

def UrlFault.message : UrlFault → String
  | .tooLong => "URL too long"
  | .controlCharacter c position =>
    "Invalid non-printable ASCII character in URL, " ++ Literal.quotedText (String.singleton c) ++
      " at position " ++ toString position ++ "."
  | .port text => "Invalid port: " ++ Literal.quotedText text
  | .fourNumbers host => "Invalid IPv4 address: " ++ Literal.quotedText host
  | .bracketed host => "Invalid IPv6 address: " ++ Literal.quotedText host
  | .hostName host => "Invalid IDNA hostname: " ++ Literal.quotedText host
  | .pathAfterAuthority => "For absolute URLs, path must be empty or begin with '/'"
  | .doubleSlash => "Relative URLs cannot have a path starting with '//'"
  | .leadingColon => "Relative URLs cannot have a path starting with ':'"

def lengthLimit : Nat := 65536

def asciiExcept (excluded : List Char) (c : Char) : Bool :=
  0x20 ≤ c.toNat && c.toNat ≤ 0x7e && !excluded.contains c

def isPathSafe : Char → Bool :=
  asciiExcept [' ', '"', '#', '<', '>', '?', '\x60', '\x7b', '\x7d']

def isQuerySafe : Char → Bool := asciiExcept [' ', '"', '#', '<', '>']

def isFragmentSafe : Char → Bool := asciiExcept [' ', '"', '<', '>', '\x60']

def isUserinfoSafe : Char → Bool :=
  asciiExcept [' ', '"', '#', '<', '>', '?', '\x60', '\x7b', '\x7d', '/', ';', '=', '@', '[',
    '\\', ']', '^', '|']

def isHostSafe (c : Char) : Bool :=
  ['!', '$', '&', '\x27', '(', ')', '*', '+', ',', ';', '=', '"', '\x60', '\x7b', '\x7d', '%', '|',
    '\\'].contains c

def controlCharacter? (position : Nat) : List Char → Option (Char × Nat)
  | [] => none
  | c :: rest =>
    if c.toNat < 0x20 || c.toNat == 0x7f then some (c, position)
    else controlCharacter? (position + 1) rest

def cutBefore (p : Char → Bool) (s : List Char) : List Char × List Char :=
  (s.takeWhile fun c => !p c, s.dropWhile fun c => !p c)

def isSchemeChar (c : Char) : Bool := c.isAlphanum || c == '+' || c == '.' || c == '-'

def cutScheme (s : List Char) : List Char × List Char :=
  let name := s.takeWhile isSchemeChar
  match s.dropWhile isSchemeChar with
  | ':' :: rest =>
    match name with
    | [] => ([], rest)
    | c :: _ => if c.isAlpha then (name, rest) else ([], s)
  | _ => ([], s)

def cutAuthority : List Char → List Char × List Char
  | '/' :: '/' :: rest => cutBefore (fun c => c == '/' || c == '?' || c == '#') rest
  | s => ([], s)

/-- Cut at the last occurrence of a character: what stands before and after it. -/
def cutAtLast? (c : Char) (s : List Char) : Option (List Char × List Char) :=
  match cutAt c s.reverse with
  | (after, some before) => some (before.reverse, after.reverse)
  | _ => none

/-- An authority in its parts: user name and password, host, and the text of the port. -/
def authorityParts (s : List Char) : List Char × List Char × List Char :=
  let (userinfo, rest) := (cutAtLast? '@' s).getD ([], s)
  let (host, rest) :=
    match rest, cutAtLast? ']' rest with
    | '[' :: _, some (before, after) => (before ++ [']'], after)
    | _, _ => cutBefore (fun c => c == ':' || c == '@') rest
  match rest with
  | ':' :: port => (userinfo, host, port)
  | port => (userinfo, host, port)

def normalHost (host : List Char) : Except UrlFault (List Char) :=
  match host with
  | [] => .ok []
  | c :: rest =>
    if looksLikeNumbers host then
      if isFourNumbers host then .ok host else .error (.fourNumbers (String.ofList host))
    else if c = '[' && rest.getLast? == some ']' then
      if isEightGroups rest.dropLast then .ok rest.dropLast
      else .error (.bracketed (String.ofList host))
    else if host.all fun c => c.toNat < 0x80 then
      .ok (percentEncode isHostSafe (host.map Char.toLower))
    else
      match Host.sentName (Host.lower (host.map Char.toNat)) with
      | .ok name => .ok (name.map Char.ofNat)
      | .error _ => .error (.hostName (String.ofList host))

def digitLimit : Nat := 4300

/-- Read a whole number as a person writes it: blanks around it, a sign, digits of any script,
and single underscores between the digits. -/
def readLooseInt? (s : List Char) : Option Int :=
  let (negative, body) :=
    match (trim s).map toAsciiDigit with
    | '-' :: rest => (true, rest)
    | '+' :: rest => (false, rest)
    | body => (false, body)
  let ds := body.filter (· != '_')
  let pieces := splitOn '_' body
  if digitLimit < ds.length then none
  else if pieces.all fun piece => !piece.isEmpty && piece.all isDigit then
    some (if negative then -(readDecimal ds : Int) else (readDecimal ds : Int))
  else none

def defaultPort? (scheme : List Char) : Option Int :=
  [("ftp".toList, 21), ("http".toList, 80), ("https".toList, 443), ("ws".toList, 80),
    ("wss".toList, 443)].lookup scheme

def normalPort (scheme port : List Char) : Except UrlFault (Option Int) :=
  if port.isEmpty then .ok none
  else
    match readLooseInt? port with
    | none => .error (.port (String.ofList port))
    | some n => .ok (if defaultPort? scheme = some n then none else some n)

/-- Resolve the dot segments among the segments of a path; `out` holds the segments kept so far,
last one first. A segment that goes up removes the one before it, but not the empty segment a
path starts with. -/
def resolveDots (out : List (List Char)) : List (List Char) → List (List Char)
  | [] => out.reverse
  | segment :: rest =>
    if segment = ['.'] then resolveDots out rest
    else if segment = ['.', '.'] then
      resolveDots (if out = [[]] then out else out.drop 1) rest
    else resolveDots (segment :: out) rest

def normalPath (path : List Char) : List Char :=
  joinWith ['/'] (resolveDots [] (splitOn '/' path))

def Url.ofComponents (scheme authority path : List Char) (query fragment : Option (List Char)) :
    Except UrlFault Url := do
  let (userinfo, host, port) := authorityParts authority
  let host ← normalHost host
  let port ← normalPort scheme port
  let userinfo := percentEncode isUserinfoSafe userinfo
  let hasScheme := !scheme.isEmpty
  let hasAuthority := !userinfo.isEmpty || !host.isEmpty || port.isSome
  if hasAuthority && !path.isEmpty && path.head? != some '/' then .error .pathAfterAuthority
  else if !hasScheme && !hasAuthority && ['/', '/'].isPrefixOf path then .error .doubleSlash
  else if !hasScheme && !hasAuthority && path.head? == some ':' then .error .leadingColon
  else
    let path := if hasScheme || hasAuthority then normalPath path else path
    .ok
      { scheme := scheme.map Char.toLower
        userinfo := userinfo
        host := host
        port := port
        path := percentEncode isPathSafe path
        query := query.map (percentEncode isQuerySafe)
        fragment := fragment.map (percentEncode isFragmentSafe) }

def Url.read (text : String) : Except UrlFault Url :=
  let s := text.toList
  if lengthLimit < s.length then .error .tooLong
  else
    match controlCharacter? 0 s with
    | some (c, position) => .error (.controlCharacter c position)
    | none =>
      let (scheme, rest) := cutScheme s
      let (authority, rest) := cutAuthority rest
      let (beforeFragment, fragment) := cutAt '#' rest
      let (path, query) := cutAt '?' beforeFragment
      Url.ofComponents scheme authority path query fragment

/-- The host with its port, and with the user's name and password in front. -/
def Url.authority (u : Url) : List Char :=
  (if u.userinfo.isEmpty then [] else u.userinfo ++ ['@']) ++
    (if u.host.contains ':' then '[' :: u.host ++ [']'] else u.host) ++
    (match u.port with
      | none => []
      | some n => ':' :: signedDecimal n)

def Url.text (u : Url) : String :=
  String.ofList
    ((if u.scheme.isEmpty then [] else u.scheme ++ [':']) ++
      (if u.authority.isEmpty then [] else '/' :: '/' :: u.authority) ++ u.path ++
      (match u.query with
        | none => []
        | some q => '?' :: q) ++
      (match u.fragment with
        | none => []
        | some f => '#' :: f))

/-- Path and query as they are sent; an empty path is sent as a slash. -/
def Url.rawPath (u : Url) : List Char :=
  (if u.path.isEmpty then ['/'] else u.path) ++
    (match u.query with
      | none => []
      | some q => '?' :: q)

def Url.withRawPath (u : Url) (raw : List Char) : Except UrlFault Url :=
  let (path, query) := cutAt '?' raw
  Url.ofComponents u.scheme u.authority path query u.fragment

/-- Whether a text starts with a type: a colon with something other than slashes and colons
before it. -/
def hasType (s : List Char) : Bool :=
  match cutBefore (fun c => c == '/' || c == ':') s with
  | (_ :: _, ':' :: _) => true
  | _ => false

def Url.isAbsolute (u : Url) : Bool := !u.scheme.isEmpty && !u.host.isEmpty

/-- What is wrong with the host of a URL. It is looked at when a request is made, if it starts
like a name that stands for another one. -/
def Url.hostFault? (u : Url) : Option Host.Fault :=
  let name := u.host.map Char.toNat
  if Host.punycodePrefix.isPrefixOf name then Host.sentFault? name else none

/-- The base address of requests: its path ends in a slash. -/
def Url.readBase (text : String) : Except UrlFault Url := do
  let u ← Url.read text
  if u.rawPath.getLast? = some '/' then .ok u else u.withRawPath (u.rawPath ++ ['/'])

/-- The URL of a request: as it is if it is absolute, else its path behind that of the base. -/
def Url.resolve (base : Url) (text : String) : Except UrlFault Url := do
  let u ← Url.read text
  if u.isAbsolute then .ok u
  else base.withRawPath (base.rawPath ++ u.rawPath.dropWhile (· == '/'))

end RunReports.Http
