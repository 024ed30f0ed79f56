import SchemaMigration.CommandLine.Bundle

/-!
# The program

Runs the command of the arguments on the bundle that standard input holds. Its output goes to
standard output and an error to the standard error output; the exit code is 0, 1 for an error and 2
for wrong arguments.
-/

namespace SchemaMigration.CommandLine

/-- Reads a stream to its end. -/
partial def readAll (input : IO.FS.Stream) (before : String) : IO String := do
  let line ← input.getLine
  if line.isEmpty then return before else readAll input (before ++ line)

/-- Prints a result and gives its exit code. -/
def report (r : Result) : IO UInt32 := do
  match r with
  | .output text => IO.print text
  | .failed f => IO.eprintln ("Error: " ++ f.message)
  | .misused => IO.eprint About.help.text
  return UInt32.ofNat r.code

end SchemaMigration.CommandLine

open SchemaMigration.CommandLine in
/-- The command line. -/
def main (args : List String) : IO UInt32 := do
  let text ← readAll (← IO.getStdin) ""
  match Bundle.ofText? text with
  | some b => report (run (fun _ => .textsLast) b.files b.environment args)
  | none =>
    IO.eprintln "Error: standard input holds no bundle of files"
    return 1
