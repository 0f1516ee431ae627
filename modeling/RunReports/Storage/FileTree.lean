import RunReports.Storage.Path
import RunReports.Text.Utf8

/-! # File trees

Files and directories under one root directory, without links. The operations fail for the
reasons, and in the order, in which a walk along the names of a path meets them: a path that is
too long as a whole, a file where a directory is needed, a name that is too long, a name that is
not there. -/
namespace RunReports.Storage

open RunReports.Text

/-- What stands at a path: a file with its bytes, or a directory with its entries. -/
inductive Node
  | file (content : List UInt8)
  | directory (entries : List (String × Node))
  deriving Repr

abbrev Entries := List (String × Node)

/-- Files and directories, by the entries of the root directory. -/
structure FileTree where
  entries : Entries
  deriving Repr

inductive PathFault
  | missing
  | exists
  | notDirectory
  | isDirectory
  | nameTooLong
  deriving Repr, DecidableEq

def PathFault.number : PathFault → Nat
  | .missing => 2
  | .exists => 17
  | .notDirectory => 20
  | .isDirectory => 21
  | .nameTooLong => 36

def PathFault.description : PathFault → String
  | .missing => "No such file or directory"
  | .exists => "File exists"
  | .notDirectory => "Not a directory"
  | .isDirectory => "Is a directory"
  | .nameTooLong => "File name too long"

def nameLimit : Nat := 255

def pathLimit : Nat := 4095

def isLongName (name : String) : Bool := nameLimit < (utf8 name).length

def isLongPath (text : String) : Bool := pathLimit < (utf8 text).length

namespace Entries

def get? (entries : Entries) : List String → Option Node
  | [] => some (.directory entries)
  | name :: rest =>
    match entries.lookup name with
    | none => none
    | some (.directory inner) => get? inner rest
    | some (.file content) => if rest = [] then some (.file content) else none

/-- Put a node where names lead to, in place of what stands there. Directories are made on the
way where there are none. -/
def put (entries : Entries) (node : Node) : List String → Entries
  | [] => entries
  | name :: rest =>
    let others := entries.filter fun entry => entry.1 != name
    let inner :=
      match entries.lookup name with
      | some (.directory inner) => inner
      | _ => []
    (name, if rest = [] then node else .directory (put inner node rest)) :: others

end Entries

mutual

def Node.files : Node → List (List String)
  | .file _ => [[]]
  | .directory entries => Entries.files entries

def Entries.files : List (String × Node) → List (List String)
  | [] => []
  | (name, node) :: rest => node.files.map (name :: ·) ++ Entries.files rest

end

namespace FileTree

def empty : FileTree := ⟨[]⟩

def get? (t : FileTree) (p : List String) : Option Node := Entries.get? t.entries p

/-- Put a node at a path, in place of what stands there. -/
def put (t : FileTree) (p : List String) (node : Node) : FileTree :=
  ⟨Entries.put t.entries node p⟩

def isDirectory (t : FileTree) (p : List String) : Bool :=
  match t.get? p with
  | some (.directory _) => true
  | _ => false

def files (t : FileTree) : List (List String) := Entries.files t.entries

/-- The path that a name leads to from a path: the name must be usable there, but nothing needs
to stand at the result. -/
def step (t : FileTree) (p : List String) (name : String) : Except PathFault (List String) :=
  if !t.isDirectory p then .error .notDirectory
  else if name = ".." then .ok p.dropLast
  else if isLongName name then .error .nameTooLong
  else .ok (p ++ [name])

/-- The path that names lead to from a path; something stands there. -/
def walk (t : FileTree) (p : List String) : List String → Except PathFault (List String)
  | [] => .ok p
  | name :: rest =>
    match t.step p name with
    | .error fault => .error fault
    | .ok q =>
      match t.get? q with
      | none => .error .missing
      | some _ => t.walk q rest

/-- The bytes of the file at a path. A relative path stands in the working directory. -/
def read (t : FileTree) (working : List String) (p : Path) : Except PathFault (List UInt8) :=
  if isLongPath p.text then .error .nameTooLong
  else
    match t.walk (if p.slashes = 0 then working else []) p.names with
    | .error fault => .error fault
    | .ok q =>
      match t.get? q with
      | some (.file content) => .ok content
      | some (.directory _) => .error .isDirectory
      | none => .error .missing

/-- The absolute path that names lead to, where the last one may lead to nothing. -/
def locate (t : FileTree) (names : List String) : Except PathFault (List String) :=
  match names.getLast? with
  | none => .ok []
  | some name =>
    match t.walk [] names.dropLast with
    | .error fault => .error fault
    | .ok p => t.step p name

def write (t : FileTree) (names : List String) (content : List UInt8) :
    Except PathFault FileTree :=
  if isLongPath (absoluteText names) then .error .nameTooLong
  else
    match t.locate names with
    | .error fault => .error fault
    | .ok p => if t.isDirectory p then .error .isDirectory else .ok (t.put p (.file content))

/-- Make one directory in another, where nothing stands, for each name. On a fault the
directories made before it stay. -/
def makeDirectories (t : FileTree) (p : List String) :
    List String → Option (PathFault × List String) × FileTree
  | [] => (none, t)
  | name :: rest =>
    let q := p ++ [name]
    if isLongName name then (some (.nameTooLong, q), t)
    else (t.put q (.directory [])).makeDirectories q rest

/-- Make the directories that names lead to from a directory, where there are none yet. A fault
that is met before the first one is made is one of the whole path. -/
def ensureFrom (t : FileTree) (p : List String) :
    List String → Option (PathFault × List String) × FileTree
  | [] => (none, t)
  | name :: rest =>
    let q := p ++ [name]
    if isLongName name then (some (.nameTooLong, q ++ rest), t)
    else
      match t.get? q with
      | some (.directory _) => t.ensureFrom q rest
      | some (.file _) => (some (if rest = [] then .exists else .notDirectory, q ++ rest), t)
      | none => (t.put q (.directory [])).makeDirectories q rest

/-- The number of directories that are to be made where names lead to from a directory: all from the
first name on that leads to nothing, if nothing is in the way before. -/
def missingFrom (t : FileTree) (p : List String) : List String → Nat
  | [] => 0
  | name :: rest =>
    let q := p ++ [name]
    if isLongName name then 0
    else
      match t.get? q with
      | some (.directory _) => t.missingFrom q rest
      | some (.file _) => 0
      | none => rest.length + 1

/-- The number of directories that are to be made for a directory to be there. -/
def missingDirectories (t : FileTree) (names : List String) : Nat :=
  if isLongPath (absoluteText names) then 0 else t.missingFrom [] names

/-- Make a directory and those above it, where there are none yet. On a fault the directories
made before it stay. -/
def ensureDirectories (t : FileTree) (names : List String) :
    Option (PathFault × List String) × FileTree :=
  if isLongPath (absoluteText names) then (some (.nameTooLong, names), t)
  else t.ensureFrom [] names

end FileTree

end RunReports.Storage
