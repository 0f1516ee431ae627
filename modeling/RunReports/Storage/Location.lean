import RunReports.Storage.Fault
import RunReports.Text.Blank

/-! # Bucket locations

A location in object storage names a bucket and a key: `gs://bucket/key`. Slashes around the key
do not belong to it. -/
namespace RunReports.Storage

open RunReports.Text

def bucketScheme : String := "gs://"

def splitLocation (location : String) : Except Fault (String × String) :=
  match afterStart? bucketScheme.toList location.toList with
  | none => .error (.notBucketLocation location)
  | some rest =>
    let (bucket, key) := cutAt '/' rest
    if bucket.isEmpty then .error (.bucketMissing location)
    else .ok (String.ofList bucket, String.ofList (trimWhile (· == '/') (key.getD [])))

/-- The name of the file that a report's notebook is stored as. -/
def notebookFileName : String := "report_template.ipynb"

def notebookPath (runName reportName : String) : String :=
  runName ++ "/" ++ reportName ++ "/" ++ notebookFileName

end RunReports.Storage
