import RecordQuery.CommandLine.Run

/-!
# The program

Reads the files that the arguments name, prints the result and exits with its code.
-/

namespace RecordQuery.CommandLine

/-- The contents of a file, if it can be read. -/
def readContents (file : String) : IO (Option String) := do
  try
    pure (some (← IO.FS.readFile file))
  catch _ => pure none

/-- Reads the files of an invocation that are there. -/
def readAll (files : List String) : IO (List (String × String)) := do
  let contents ← files.mapM fun file => do
    pure ((← readContents file).map fun text => (file, text))
  pure (contents.filterMap id)

end RecordQuery.CommandLine

open RecordQuery.CommandLine in
def main (arguments : List String) : IO UInt32 := do
  let names := ((Invocation.ofArguments? arguments).map Invocation.files).getD []
  let contents ← readAll names
  let outcome := run arguments fun file => contents.lookup file
  IO.print outcome.printed
  match outcome with
  | .aborted failure => IO.eprintln s!"Error: {failure.message}"
  | _ => pure ()
  pure outcome.exitCode.toUInt32
