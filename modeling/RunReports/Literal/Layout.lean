import RunReports.Literal.Inline
import RunReports.Text.Lines

/-! # Literals over several lines

A value is laid out within a page width. What fits on the rest of its line stays on it; a
longer dictionary or list has one entry a line, and a longer text is cut into literals that
stand below each other, which the notebook's language joins again. A text is cut after its
line boundaries, and a line that is still too long after the blanks between its words.

`indent` is the column where the value starts, and `allowance` the number of closing
characters that have to fit behind it. -/
namespace RunReports.Literal

open RunReports RunReports.Text

def pageWidth : Nat := 100

/-- The columns from `indent` to the page width, less the allowance. -/
def room (indent allowance : Nat) : Int := (pageWidth : Int) - (indent : Int) - (allowance : Int)

def fits (s : List Char) (columns : Int) : Bool := (s.length : Int) ≤ columns

/-- Cut a line into words, each with the blanks that follow it. `part` holds the current word,
last character first, and `blank` tells whether its blanks have begun. -/
def wordsFrom (part : List Char) (blank : Bool) : List Char → List (List Char)
  | [] => if part.isEmpty then [] else [part.reverse]
  | c :: rest =>
    if isBlank c then wordsFrom (c :: part) true rest
    else if blank then part.reverse :: wordsFrom [c] false rest
    else wordsFrom (c :: part) false rest

/-- The words of a line with the blanks that follow them. -/
def wordsOf (line : List Char) : List (List Char) := wordsFrom [] false line

/-- Join words into pieces whose literals fit into `columns`; the test for the last word leaves
`allowance` columns free. A word that is too long makes a piece of its own. `current` is the
piece that is being filled. -/
def fillPieces (columns : Int) (allowance : Nat) (current : List Char) :
    List (List Char) → List (List Char)
  | [] => if current.isEmpty then [] else [quoted current]
  | word :: rest =>
    let candidate := current ++ word
    let free := if rest.isEmpty then columns - (allowance : Int) else columns
    if fits (quoted candidate) free then fillPieces columns allowance candidate rest
    else if current.isEmpty then fillPieces columns allowance word rest
    else quoted current :: fillPieces columns allowance word rest

def textPieces (columns : Int) (allowance : Nat) : List (List Char) → List (List Char)
  | [] => []
  | line :: rest =>
    let last : Bool := rest.isEmpty
    let free := if last then columns - (allowance : Int) else columns
    if fits (quoted line) free then quoted line :: textPieces columns allowance rest
    else
      fillPieces columns (if last then allowance else 0) [] (wordsOf line) ++
        textPieces columns allowance rest

def lineAt (indent : Nat) : List Char := '\n' :: List.replicate indent ' '

def layoutText (indent allowance : Nat) (s : List Char) : List Char :=
  match s with
  | [] => quoted []
  | _ => joinWith (lineAt indent) (textPieces (room indent 0) allowance (splitLines s))

mutual

def layout (indent allowance : Nat) : Json → List Char
  | .arr items =>
    let line := inline (.arr items)
    if fits line (room indent allowance) then line
    else
      match items with
      | [] => line
      | _ :: _ => '[' :: layoutItems (indent + 1) (allowance + 1) items ++ [']']
  | .obj fields =>
    let line := inline (.obj fields)
    if fits line (room indent allowance) then line
    else
      match fields with
      | [] => line
      | _ :: _ => '\x7b' :: layoutFields (indent + 1) (allowance + 1) fields ++ ['\x7d']
  | .str s =>
    let line := inline (.str s)
    if fits line (room indent allowance) then line else layoutText indent allowance s.toList
  | v => inline v

/-- Items, each on a line of its own; what closes the list has to fit behind the last one. -/
def layoutItems (indent allowance : Nat) : List Json → List Char
  | [] => []
  | [v] => layout indent allowance v
  | v :: next :: rest =>
    layout indent 1 v ++ ',' :: lineAt indent ++ layoutItems indent allowance (next :: rest)

def layoutFields (indent allowance : Nat) : List (String × Json) → List Char
  | [] => []
  | [(n, v)] =>
    let name := quoted n.toList
    name ++ ':' :: ' ' :: layout (indent + name.length + 2) allowance v
  | (n, v) :: next :: rest =>
    let name := quoted n.toList
    name ++ ':' :: ' ' :: layout (indent + name.length + 2) 1 v ++ ',' :: lineAt indent ++
      layoutFields indent allowance (next :: rest)

end

end RunReports.Literal
