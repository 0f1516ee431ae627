import RunReports.Main
import RunReports.Proofs.Concurrency
import RunReports.Proofs.Lifecycle
import RunReports.Proofs.Digits
import RunReports.Proofs.Numerals
import RunReports.Literal.Reader
import RunReports.Proofs.Quoting
import RunReports.Proofs.Spelling
import RunReports.Proofs.Atoms
import RunReports.Proofs.Displays
import RunReports.Proofs.SourceLines
import RunReports.Proofs.Layout
import RunReports.Proofs.RunData
import RunReports.Proofs.Refreshing
import RunReports.Proofs.LateAnswers
import RunReports.Proofs.Reproducible
import RunReports.Proofs.JsonBytes
import RunReports.Proofs.Cells
import RunReports.Proofs.Documents
import RunReports.Proofs.Executed
import RunReports.Proofs.PlainNotebooks
import RunReports.Proofs.Stable
import RunReports.Proofs.Authored
import RunReports.Proofs.Assembled
import RunReports.Proofs.Freezing
import RunReports.Proofs.Guarding
import RunReports.Proofs.FanOut
import RunReports.Proofs.Nesting
import RunReports.Proofs.Revising
import RunReports.Proofs.Accounted
import RunReports.Proofs.Acceptance
import RunReports.Proofs.ControlScan
import RunReports.Proofs.Assembling
import RunReports.Proofs.RefreshingRuns
import RunReports.Proofs.ControlVariables
import RunReports.Proofs.PercentEncoding
import RunReports.Proofs.FilePaths
import RunReports.Proofs.FileTrees
import RunReports.Proofs.DirectoryUploads
import RunReports.Proofs.BucketLocations
import RunReports.Proofs.ReadingBack
import RunReports.Proofs.NotebookPlaces
import RunReports.Proofs.JobInputs
import RunReports.Proofs.Insertions
import RunReports.Proofs.PrintedLines
import RunReports.Proofs.Updating
import RunReports.Proofs.Declarations
import RunReports.Proofs.UniversalTime
