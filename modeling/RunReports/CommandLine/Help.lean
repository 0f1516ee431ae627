import RunReports.CommandLine.Options

/-! # Help

What a command says about its command line: a usage line, a description, and the options in two
columns. The first column is as wide as the widest option needs, within a limit; the text of an
option that is wider begins on the next line. -/
namespace RunReports.CommandLine

def lineWidth : Nat := 78

def lastTextColumn : Nat := 24

def blanks (n : Nat) : String := String.ofList (List.replicate n ' ')

/-- Put pieces on lines with a blank between each two of them. A line takes one more piece as
long as it is within the width; `line` holds its pieces so far, and `used` its columns. -/
def fillFrom (width start : Nat) (line : List String) (used : Nat) :
    List String → List (List String)
  | [] => if line.isEmpty then [] else [line]
  | piece :: rest =>
    let n := piece.length
    if !line.isEmpty && width < used + 1 + n then
      line :: fillFrom width start [piece] (start + n) rest
    else
      let used := if line.isEmpty then start + n else used + 1 + n
      fillFrom width start (line ++ [piece]) used rest

def fill (width start : Nat) (pieces : List String) : List String :=
  (fillFrom width start [] start pieces).map (String.intercalate " ")

def Usage.placeholder (u : Usage) : String :=
  String.ofList ((u.name.toList.drop 2).map fun c => if c = '-' then '_' else c.toUpper)

def Usage.pieces (u : Usage) : List String :=
  if u.isSwitch then [u.name] else [u.name, u.placeholder]

/-- An option in the usage line: one that is not required stands in brackets. -/
def Usage.shown (u : Usage) : List String :=
  if u.isRequired then u.pieces else ["[" ++ " ".intercalate u.pieces ++ "]"]

/-- The usage line of a command; it is broken into several lines where it has to be. -/
def usageLines (name : String) (usages : List Usage) : List String :=
  let front := "usage: " ++ name
  let pieces := ("[" ++ helpLetter ++ "]") :: usages.flatMap Usage.shown
  let start := front.length + 1
  match fill lineWidth start pieces with
  | [] => [front]
  | first :: others => (front ++ " " ++ first) :: others.map fun line => blanks start ++ line

/-- An option as it stands in the first column, with all its names. -/
def Usage.heading (u : Usage) : String :=
  let names := " ".intercalate u.pieces
  "  " ++ if u = helpUsage then helpLetter ++ ", " ++ names else names

def Usage.lines (column : Nat) (u : Usage) : List String :=
  let text := (fill lineWidth column (u.help.splitOn " ")).map fun line => blanks column ++ line
  let n := u.heading.length
  match text with
  | [] => [u.heading]
  | first :: others =>
    if n + 2 ≤ column then
      (u.heading ++ String.ofList (first.toList.drop n)) :: others
    else u.heading :: text

def helpText (name description : String) (usages : List Usage) : String :=
  let all := helpUsage :: usages
  let widest := (all.map fun u => u.heading.length).foldl max 0
  let column := min (widest + 2) lastTextColumn
  let lines := usageLines name usages ++ ["", description, "", "options:"] ++
    all.flatMap (Usage.lines column)
  String.join (lines.map fun line => line ++ "\n")

end RunReports.CommandLine
