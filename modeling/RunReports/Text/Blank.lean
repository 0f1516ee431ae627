/-! # Blank characters

The characters that trimming removes and that separate words: the ASCII blanks, the four
information separators and the Unicode space separators. `trim` works on lists of
characters; `trimText` is the same on strings. Nothing here depends on a locale. -/
namespace RunReports.Text

def isBlank (c : Char) : Bool :=
  let n := c.toNat
  (0x09 ≤ n && n ≤ 0x0d) || (0x1c ≤ n && n ≤ 0x20) || n == 0x85 || n == 0xa0 ||
    n == 0x1680 || (0x2000 ≤ n && n ≤ 0x200a) || n == 0x2028 || n == 0x2029 ||
    n == 0x202f || n == 0x205f || n == 0x3000

/-- White space in the sense of the Unicode property: blank, but no information separator. -/
def isWhiteSpace (c : Char) : Bool :=
  isBlank c && !(0x1c ≤ c.toNat && c.toNat ≤ 0x1f)

def dropEndWhile (p : Char → Bool) (s : List Char) : List Char :=
  (s.reverse.dropWhile p).reverse

def trimWhile (p : Char → Bool) (s : List Char) : List Char :=
  dropEndWhile p (s.dropWhile p)

def trim (s : List Char) : List Char := trimWhile isBlank s

def trimText (s : String) : String := String.ofList (trim s.toList)

/-- Remove one character from both ends of a string, as often as it occurs there. -/
def stripChar (c : Char) (s : String) : String :=
  String.ofList (trimWhile (· == c) s.toList)

/-- Remove one character from the end of a string, as often as it occurs there. -/
def stripEndChar (c : Char) (s : String) : String :=
  String.ofList (dropEndWhile (· == c) s.toList)

def isBlankText (s : String) : Bool := s.toList.all isBlank

/-- What follows a text at the front of another one. -/
def afterStart? : List Char → List Char → Option (List Char)
  | [], s => some s
  | _ :: _, [] => none
  | w :: ws, c :: rest => if w = c then afterStart? ws rest else none

/-- Cut a list at the first occurrence of a character: what stands before it, and, where it
occurs, what stands after it. -/
def cutAt (c : Char) : List Char → List Char × Option (List Char)
  | [] => ([], none)
  | d :: rest =>
    if d = c then ([], some rest)
    else
      let cut := cutAt c rest
      (d :: cut.1, cut.2)

/-- The pieces between the occurrences of a separator; one more than there are separators. -/
def splitOn (c : Char) : List Char → List (List Char)
  | [] => [[]]
  | d :: rest =>
    if d = c then [] :: splitOn c rest
    else
      match splitOn c rest with
      | [] => [[d]]
      | piece :: pieces => (d :: piece) :: pieces

def joinWith (separator : List Char) : List (List Char) → List Char
  | [] => []
  | [piece] => piece
  | piece :: next :: pieces => piece ++ separator ++ joinWith separator (next :: pieces)

end RunReports.Text
