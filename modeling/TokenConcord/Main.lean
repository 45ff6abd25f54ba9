import TokenConcord.CommandLine.Run

/-!
# The program

Reads files from the file system and prints what a run leaves behind.
-/

namespace TokenConcord

/-- The cause behind a fault of the file system. -/
def FileError.ofSystem : IO.Error → FileError
  | .noFileOrDirectory .. => .missing
  | .inappropriateType .. => .isDirectory
  | error => .other (toString error)

/-- Read a file. -/
def readFile : FileReader IO := fun path => do
  try
    return .ok (← IO.FS.readFile (String.ofList path)).toList
  catch error => return .error (.ofSystem error)

end TokenConcord

/-- Run the program and leave with its exit code. -/
def main (arguments : List String) : IO UInt32 := do
  let outcome ← TokenConcord.CommandLine.run TokenConcord.readFile (arguments.map (·.toList))
  IO.print outcome.stdout
  IO.eprint outcome.stderr
  return outcome.exit.toUInt32
