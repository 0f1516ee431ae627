import RunReports.Failure
import RunReports.Storage.Authority
import RunReports.Storage.FileTree

/-! # Directory storage

Notebooks are stored as files below a root directory. A destination is resolved against the
root before anything is touched, and one that ends outside the root is refused. The directories on
the way are made by a call within a call for each of them, so that only so many can be made at once.
Locations are file URIs; a location that is none is taken as a path. -/
namespace RunReports.Storage

open RunReports RunReports.Text

def namesIn (directory : List String) (p : Path) : List String :=
  resolveNames [] (if p.slashes = 0 then directory ++ p.names else p.names)

/-- A storage root, as the names of its absolute path, and the number of directories that can be
made at once. -/
structure Directory where
  root : List String
  levels : Nat
  deriving Repr, DecidableEq

def nullCharacter : Failure := .badValue nullMessage

/-- Where relative paths lead: the working directory, and the home directories of users. The
name of the current user is left out. `levels` is how many calls there is room for. -/
structure Standpoint where
  working : List String
  homes : List (String × List String)
  levels : Nat
  deriving Repr, DecidableEq

/-- The user whose home directory a path starts in: a tilde and the user's name stand for it. -/
def Path.homeOf? (p : Path) : Option String :=
  match p.slashes, p.names with
  | 0, name :: _ =>
    match name.toList with
    | '~' :: user => some (String.ofList user)
    | _ => none
  | _, _ => none

/-- The storage at a path. A relative path stands in the working directory or in the home
directory of the user it starts with. -/
def Directory.at (s : Standpoint) (path : String) : Except Failure Directory :=
  let p := Path.read path
  if hasNull path then .error nullCharacter
  else
    match p.homeOf? with
    | none => .ok ⟨namesIn s.working p, s.levels⟩
    | some user =>
      match s.homes.lookup user with
      | some home => .ok ⟨namesIn home ⟨0, p.names.drop 1⟩, s.levels⟩
      | none => .error .homeUnknown

def Directory.target (d : Directory) (destination : String) : List String :=
  resolveNames d.root.reverse (pathNames destination.toList)

def describeFault (fault : PathFault) (path : String) : String :=
  "[Errno " ++ toString fault.number ++ "] " ++ fault.description ++ ": " ++
    Literal.quotedText path

/-- A fault at a path as a failure of an operation on a location. -/
def fileFailure (location : String) (fault : PathFault) (path : String) : Failure :=
  .report (.storage (.failed location (describeFault fault path)))

/-- Write a file into a tree, with the directories above it; its URI is returned. -/
def placeFile (t : FileTree) (content : List UInt8) (target : List String) :
    Action FileTree String := do
  let location := absoluteText target
  match t.ensureDirectories target.dropLast with
  | (some (fault, names), made) =>
    set made
    throw (fileFailure location fault (absoluteText names))
  | (none, made) =>
    set made
    match made.write target content with
    | .error fault => throw (fileFailure location fault location)
    | .ok written =>
      set written
      pure (fileUri target)

/-- Store bytes below the root; the URI of the file is returned. -/
def Directory.upload (d : Directory) (content : List UInt8) (destination : String) :
    Action FileTree String := do
  let target := d.target destination
  if hasNull destination then throw nullCharacter
  else if !d.root.isPrefixOf target then
    throw (.report (.storage (.escapesRoot destination)))
  else
    let t ← get
    if d.levels < t.missingDirectories target.dropLast then throw .tooManyDirectories
    else placeFile t content target

/-- The characters that may stand around a URI without belonging to it. -/
def isUriPadding (c : Char) : Bool := c.toNat ≤ 0x20

/-- A location without the characters that are dropped before a URI is taken apart. -/
def cleanLocation (location : String) : List Char :=
  (location.toList.dropWhile isUriPadding).filter fun c => c != '\t' && c != '\r' && c != '\n'

/-- Cut the scheme and its colon off the front; there is no empty scheme. -/
def cutScheme (s : List Char) : List Char × List Char :=
  match Http.cutScheme s with
  | ([], _) => ([], s)
  | cut => cut

/-- The path of a location: that of a file URI with its escapes undone, or the location itself. -/
def locationPath (location : String) : Except Failure String :=
  let (scheme, rest) := cutScheme (cleanLocation location)
  let (authority, rest) := Http.cutAuthority rest
  match authorityFault? authority with
  | some fault => .error (.badValue fault.message)
  | none =>
    if String.ofList (scheme.map Char.toLower) = "file" then
      .ok (String.ofList (unquote (cutAt '?' (cutAt '#' rest).1).1))
    else .ok location

/-- Fetch the bytes at a location; relative paths stand in the working directory. -/
def fetchFile (working : List String) (location : String) : Action FileTree (List UInt8) := do
  match locationPath location with
  | .error failure => throw failure
  | .ok text =>
    let path := Path.read text
    if hasNull text then throw nullCharacter
    else
      match (← get).read working path with
      | .error fault => throw (fileFailure location fault path.text)
      | .ok content => pure content

end RunReports.Storage
