/-! # Violations

What is wrong with a set of named values: every violation names the place of a value and the
rule it breaks. All violations are reported together, in the order of the declared names. -/
namespace RunReports

inductive Rule
  | given
  | text
  | object
  | moment
  | momentTooEarly
  | momentYearZero
  | momentTooLate
  | momentNotNumber
  | truthValue
  | number
  deriving Repr, DecidableEq

def Rule.message : Rule → String
  | .given => "Field required"
  | .text => "Input should be a valid string"
  | .object => "Input should be a valid dictionary"
  | .moment => "Input should be a valid datetime"
  | .momentTooEarly =>
    "Input should be a valid datetime, dates before 0000 are not supported as unix timestamps"
  | .momentYearZero => "Input should be a valid datetime, year 0 is out of range"
  | .momentTooLate =>
    "Input should be a valid datetime, dates after 9999 are not supported as unix timestamps"
  | .momentNotNumber => "Input should be a valid datetime, NaN values not permitted"
  | .truthValue => "Input should be a valid boolean, unable to interpret input"
  | .number => "Input should be a valid number, unable to parse string as a number"

/-- A broken rule and the place of the value that breaks it. -/
structure Violation where
  place : List String
  rule : Rule
  deriving Repr, DecidableEq

/-- The wording of a violation: its place, the parts joined by points, and the rule. -/
def Violation.message (v : Violation) : String :=
  ".".intercalate v.place ++ ": " ++ v.rule.message

def violationsMessage (vs : List Violation) : String :=
  "; ".intercalate (vs.map Violation.message)

end RunReports
