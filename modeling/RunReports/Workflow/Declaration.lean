import RunReports.Text.Blank

/-! # Workflow declarations

A workflow source is usable if it declares the workflow that its inputs are named under: at the
start of a line, after blanks at most, the word `workflow`, blanks, the name, and an opening
brace. Blanks may hold line feeds. Only a line feed starts a new line here. -/
namespace RunReports.Workflow

open RunReports.Text

def workflowName : String := "generate_report_file_workflow"

inductive SourceFault
  | empty
  | undeclared
  deriving Repr, DecidableEq

def SourceFault.message : SourceFault → String
  | .empty => "Report generator workflow definition is empty"
  | .undeclared => "Report generator workflow must declare `workflow " ++ workflowName ++ "`"

def skipBlanks (s : List Char) : List Char := s.dropWhile isBlank

/-- What follows one or more blanks at the front of a text. -/
def skipSomeBlanks? : List Char → Option (List Char)
  | [] => none
  | c :: rest => if isBlank c then some (skipBlanks rest) else none

/-- Whether a text starts with the declaration, blanks at the front not counted. -/
def startsWithDeclaration (s : List Char) : Bool :=
  (do
    let s ← afterStart? "workflow".toList (skipBlanks s)
    let s ← skipSomeBlanks? s
    let s ← afterStart? workflowName.toList s
    afterStart? ['\x7b'] (skipBlanks s)).isSome

/-- Whether a line after the first one starts with the declaration. -/
def declaresLater : List Char → Bool
  | [] => false
  | c :: rest => (c == '\n' && startsWithDeclaration rest) || declaresLater rest

def declares (s : List Char) : Bool := startsWithDeclaration s || declaresLater s

/-- Check that a source is usable, and hand it on. -/
def validate (source : String) : Except SourceFault String :=
  if isBlankText source then .error .empty
  else if declares source.toList then .ok source
  else .error .undeclared

end RunReports.Workflow
