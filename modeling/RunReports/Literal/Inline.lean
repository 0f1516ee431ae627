import RunReports.Decimal.Written
import RunReports.Json.Value
import RunReports.Literal.Quoted

/-! # Literals on one line

A value as a literal of the notebook's language: arrays are list displays, objects are
dictionary displays, and null and the truth values have the names that language gives them.
`display` is the same except that a text stands for itself. -/
namespace RunReports.Literal

open RunReports RunReports.Decimal RunReports.Text

def scalar : Json → List Char
  | .null => "None".toList
  | .bool true => "True".toList
  | .bool false => "False".toList
  | .int n => signedDecimal n
  | .num x => x.written displayNumbers
  | .str s => quoted s.toList
  | .arr _ => "[]".toList
  | .obj _ => ['\x7b', '\x7d']

mutual

def inline : Json → List Char
  | .arr (v :: items) => '[' :: inline v ++ inlineItems items ++ [']']
  | .obj ((n, v) :: fields) =>
    '\x7b' :: quoted n.toList ++ ':' :: ' ' :: inline v ++ inlineFields fields ++ ['\x7d']
  | v => scalar v

def inlineItems : List Json → List Char
  | [] => []
  | v :: rest => ',' :: ' ' :: inline v ++ inlineItems rest

def inlineFields : List (String × Json) → List Char
  | [] => []
  | (n, v) :: rest =>
    ',' :: ' ' :: quoted n.toList ++ ':' :: ' ' :: inline v ++ inlineFields rest

end

/-- A value as it is shown inside a sentence: a text as it is, any other value as a literal. -/
def display : Json → String
  | .str s => s
  | v => String.ofList (inline v)

end RunReports.Literal
