import DocumentFilter.CommandLine.Run

/-!
# The program

Takes the words of the command line, the environment and at most one file, and does what the library
says.
-/

namespace DocumentFilter

/-- The reason why a file could not be read. -/
def readFault : IO.Error → ReadFault
  | .noFileOrDirectory .. => .notFound
  | .inappropriateType _ code _ => if code = 20 then .notADirectory else .isADirectory
  | error => .other (toString error)

/-- The bytes of a file. -/
def readBytes (path : String) : IO (Except ReadFault ByteArray) := do
  try
    return .ok (← IO.FS.readBinFile path)
  catch error =>
    return .error (readFault error)

end DocumentFilter

section

open DocumentFilter

/-- Runs the program. -/
def main (words : List String) : IO UInt32 := do
  let settingsPath? ← IO.getEnv "ODATA_FILTER_CONFIG"
  let logRules? ← IO.getEnv "RUST_LOG"
  let inv? := (CommandLine.Invocation.ofArguments words settingsPath?).toOption
  let file ← match inv?.bind (·.settingsPath?) with
    | some path => readBytes path
    | none => pure (.error .notFound)
  let outcome := CommandLine.run words { settingsPath?, logRules?, read := fun _ => file }
  (← IO.getStdout).putStr outcome.stdout
  (← IO.getStderr).putStr outcome.stderr
  return outcome.code.toUInt32

end
