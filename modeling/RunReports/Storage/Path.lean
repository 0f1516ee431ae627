import RunReports.Text.Percent
import RunReports.Text.Blank

/-! # File paths

A path is a list of names behind no slash, one slash or two. Empty names and single dots are
dropped when a path is read; a pair of dots stays a name until the path is resolved. -/
namespace RunReports.Storage

open RunReports.Text

structure Path where
  slashes : Nat
  names : List String
  deriving Repr, DecidableEq

/-- The names between slashes, but for empty ones and single dots. -/
def pathNames (s : List Char) : List String :=
  ((splitOn '/' s).map String.ofList).filter fun name => name != "" && name != "."

/-- Whether a text holds a null character. Such a text is no path. -/
def hasNull (s : String) : Bool := s.toList.contains (Char.ofNat 0)

/-- What is said about a text with a null character that should be a path. -/
def nullMessage : String := "embedded null byte"

/-- Read a path. Three slashes or more at the front count as one. -/
def Path.read (text : String) : Path :=
  let s := text.toList
  let n := (s.takeWhile (· == '/')).length
  ⟨if n ≤ 2 then n else 1, pathNames s⟩

def Path.text (p : Path) : String :=
  if p.slashes = 0 ∧ p.names = [] then "."
  else String.ofList (List.replicate p.slashes '/') ++ "/".intercalate p.names

/-- Names with every pair of dots resolved; `out` holds the names so far, last one first. -/
def resolveNames (out : List String) : List String → List String
  | [] => out.reverse
  | name :: rest => resolveNames (if name = ".." then out.drop 1 else name :: out) rest

def absoluteText (names : List String) : String := (Path.mk 1 names).text

def fileUri (names : List String) : String :=
  "file://" ++ String.ofList (percentEncode (· == '/') (absoluteText names).toList)

end RunReports.Storage
