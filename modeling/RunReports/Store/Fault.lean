import RunReports.Json.Value

/-! # Store faults

What the database refuses: a row that breaks a constraint, a table that is not there, a change
to a row that is gone, a value that cannot be written as a text, or a statement that fails for a
reason of its own. -/
namespace RunReports.Store

inductive Fault
  | unique (table : String) (columns : List String)
  | check (constraint : String)
  | foreignKey
  | noTable (table : String)
  | rowGone (table : String)
  | longNumber
  | reported (text : String)
  deriving Repr, DecidableEq

def Fault.isConstraint : Fault → Bool
  | .unique .. => true
  | .check _ => true
  | .foreignKey => true
  | _ => false

def Fault.message : Fault → String
  | .unique table columns =>
    "(sqlite3.IntegrityError) UNIQUE constraint failed: " ++
      ", ".intercalate (columns.map fun c => table ++ "." ++ c)
  | .check constraint => "(sqlite3.IntegrityError) CHECK constraint failed: " ++ constraint
  | .foreignKey => "(sqlite3.IntegrityError) FOREIGN KEY constraint failed"
  | .noTable table => "(sqlite3.OperationalError) no such table: " ++ table
  | .rowGone table =>
    "UPDATE statement on table '" ++ table ++ "' expected to update 1 row(s); 0 were matched."
  | .longNumber => "(builtins.ValueError) " ++ Json.digitsMessage
  | .reported text => "(builtins.Exception) " ++ text

end RunReports.Store
