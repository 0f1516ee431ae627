/-! # Storage faults

Why a notebook could not be stored or fetched. -/
namespace RunReports.Storage

inductive Fault
  | notBucketLocation (location : String)
  | bucketMissing (location : String)
  | escapesRoot (destination : String)
  | failed (location : String) (cause : String)
  deriving Repr, DecidableEq

def Fault.message : Fault → String
  | .notBucketLocation location => "Not a gs:// location: " ++ location
  | .bucketMissing location => "Missing bucket in location: " ++ location
  | .escapesRoot destination => "Destination escapes storage root: " ++ destination
  | .failed location cause => "Storage operation on " ++ location ++ " failed: " ++ cause

end RunReports.Storage
