import RunReports.Text.Blank

/-! # Source lines

A text is cut into lines after every line boundary; each line keeps the boundary that ends
it, and only the last line may have none. A carriage return followed by a line feed is one
boundary. `IsLineSplit` states what a correct cut is without mentioning how it is found. -/
namespace RunReports.Text

def isLineEnd (c : Char) : Bool :=
  let n := c.toNat
  (0x0a ≤ n && n ≤ 0x0d) || (0x1c ≤ n && n ≤ 0x1e) || n == 0x85 || n == 0x2028 || n == 0x2029

/-- Cut into lines; `line` holds the characters of the current line, last one first. -/
def splitLinesFrom (line : List Char) : List Char → List (List Char)
  | [] => if line.isEmpty then [] else [line.reverse]
  | '\r' :: '\n' :: rest => ('\n' :: '\r' :: line).reverse :: splitLinesFrom [] rest
  | c :: rest =>
    if isLineEnd c then (c :: line).reverse :: splitLinesFrom [] rest
    else splitLinesFrom (c :: line) rest

def splitLines (s : List Char) : List (List Char) := splitLinesFrom [] s

def sourceLines (s : String) : List String := (splitLines s.toList).map String.ofList

/-- A line boundary: one ending character, or a carriage return with its line feed. -/
inductive IsBoundary : List Char → Prop
  | single (c : Char) : isLineEnd c = true → IsBoundary [c]
  | pair : IsBoundary ['\r', '\n']

/-- A line body: no character of it ends a line. -/
def IsBody (s : List Char) : Prop := ∀ c ∈ s, isLineEnd c = false

def IsEndedLine (s : List Char) : Prop :=
  ∃ body stop, IsBody body ∧ IsBoundary stop ∧ s = body ++ stop

/-- `IsLineSplit lines s`: the lines concatenate to `s`; all but the last are finished, the
last is finished or a body that is not empty; and no line that ends in a carriage return
stands before one that starts with a line feed. -/
inductive IsLineSplit : List (List Char) → List Char → Prop
  | nil : IsLineSplit [] []
  | last (body : List Char) : IsBody body → body ≠ [] → IsLineSplit [body] body
  | cons (line : List Char) (lines : List (List Char)) (rest : List Char) :
      IsEndedLine line → IsLineSplit lines rest →
      ¬ (line.getLast? = some '\r' ∧ rest.head? = some '\n') →
      IsLineSplit (line :: lines) (line ++ rest)

/-- Line ends as a text file is read: a carriage return, alone or before a line feed, counts
as one line feed. -/
def normalizeNewlines : List Char → List Char
  | [] => []
  | '\r' :: '\n' :: rest => '\n' :: normalizeNewlines rest
  | c :: rest => (if c = '\r' then '\n' else c) :: normalizeNewlines rest

end RunReports.Text
