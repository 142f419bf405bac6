import TestPlan.CommandLine

/-! The program: reads the files of its command and prints the answer. -/

namespace TestPlan

/-- The text of a file, if there is a readable one. -/
def readText (path : String) : IO (Option String) := do
  try
    return some (← IO.FS.readFile path)
  catch _ => return none

end TestPlan

/-- Answers the command that the arguments describe. -/
def main (arguments : List String) : IO UInt32 := do
  match TestPlan.Command.ofArguments arguments with
  | none =>
    IO.eprintln "error: invalid arguments, try '--help'"
    return TestPlan.Answer.usage.exitCode.toUInt32
  | some command =>
    let texts ← command.files.mapM fun path => return (path, ← TestPlan.readText path)
    let answer := command.run fun path => (texts.lookup path).join
    IO.print answer.output
    match answer.failure with
    | some failure => IO.eprintln ("Error: " ++ failure)
    | none => pure ()
    return answer.exitCode.toUInt32
