import RunReports.Rehearsal.Trial

/-! # Main program

The first word of the command line names a command, the words behind it are its options, and
the settings come from the environment. The command is tried out on a rehearsal, so nothing is
sent or stored. The exit code is that of the command. -/
namespace RunReports

open RunReports.CommandLine

def environmentTexts : IO (List (String × String)) :=
  Settings.names.filterMapM fun name => do
    let text ← IO.getEnv name
    pure (text.map fun s => (name, s))

def readFiles (paths : List String) : IO (List (String × List UInt8)) :=
  paths.filterMapM fun (path : String) => do
    try
      let content ← IO.FS.readBinFile path
      pure (some (path, content.toList))
    catch _ => pure none

def complain (code : UInt32) (text : String) : IO UInt32 := do
  IO.eprintln text
  pure code

def runLine : List String → IO UInt32
  | [] => complain 2 "A command is needed."
  | name :: words =>
    match Command.ofName? name with
    | none => complain 2 ("There is no command " ++ name ++ ".")
    | some c => do
      let files ← readFiles (c.files words)
      match Rehearsal.tryOut (← environmentTexts) files c words with
      | .error failure => complain 1 failure.message
      | .ok ending =>
        IO.print ending.output
        pure ending.code.toUInt32

end RunReports

def main (words : List String) : IO UInt32 := RunReports.runLine words
