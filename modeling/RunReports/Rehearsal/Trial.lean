import RunReports.Rehearsal.Deployment
import RunReports.Settings

/-! # Trials

A command tried out on a rehearsal that starts without any rows: the settings say how reports
are generated and where notebooks go, and the scripted engine stands in for the one that the
settings name. -/
namespace RunReports.Rehearsal

open RunReports RunReports.Calendar RunReports.CommandLine RunReports.Report RunReports.Storage
  RunReports.Store

def Backend.ofSettings (s : Settings) : Except Failure Backend :=
  match s.backend standpoint with
  | .ok (.bucket place _) => .ok (.bucket place)
  | .ok (.directory place) => .ok (.directory place)
  | .error failure => .error failure

def trialTime : Moment := ⟨machineEpoch, none⟩

/-- A file tree with one more file, and the directories above it. A relative path stands in the
working directory. -/
def addFile (tree : FileTree) (file : String × List UInt8) : FileTree :=
  let names := namesIn workingDirectory (Path.read file.1)
  (tree.ensureDirectories names.dropLast).2.put names (.file file.2)

def treeOf (files : List (String × List UInt8)) : FileTree :=
  files.foldl addFile (FileTree.empty.put workingDirectory (.directory []))

def deploymentOn (tree : FileTree) : World Outside :=
  ⟨Session.on Tables.empty, Outside.fresh tree trialTime⟩

def tryOut (texts : List (String × String)) (files : List (String × List UInt8)) (c : Command)
    (words : List String) : Except Failure Ending := do
  let settings ← (Settings.read texts).mapError Failure.violations
  let backend ← Backend.ofSettings settings
  let generator ← settings.generator
  ((c.start (services backend) fileReader { generator with engine := engine } words).run
    (deploymentOn (treeOf files))).1

end RunReports.Rehearsal
