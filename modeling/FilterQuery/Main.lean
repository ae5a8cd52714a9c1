import FilterQuery.CommandLine

namespace FilterQuery

open CommandLine

def entryAt (path : String) : IO File.Entry :=
  try
    return .content (← IO.FS.readBinFile path)
  catch
    | .noFileOrDirectory .. => return .unreachable .missing
    | _ => return .directory

/-- The entry at the path that some arguments name; nothing stands at other paths. -/
def entriesFor (arguments : List String) : IO (String → File.Entry) :=
  match Arguments.empty.readAll arguments with
  | .ok read =>
      match read.file with
      | some path => do
          let entry ← entryAt path
          return fun other => if other == path then entry else .unreachable .missing
      | none => return fun _ => .unreachable .missing
  | .error _ => return fun _ => .unreachable .missing

end FilterQuery

def main (arguments : List String) : IO UInt32 := do
  let report := FilterQuery.CommandLine.run (← FilterQuery.entriesFor arguments) arguments
  IO.print report.output
  match report.error with
  | some message => IO.eprintln message
  | none => pure ()
  return report.exitCode
