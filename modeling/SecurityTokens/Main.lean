/-
# The executable

Reads files for the program, prints what it says, and ends with its exit code.
-/

import SecurityTokens.CommandLine.Basic

namespace SecurityTokens
namespace CommandLine

/-- The number of a system error, which some calls give with its sign turned. -/
def errorNumber (code : UInt32) : UInt32 := if code < 0x80000000 then code else 0 - code

/-- The fault that a failed access to a file amounts to. -/
def faultOf : IO.Error → FileFault
  | .noFileOrDirectory .. => .notFound
  | .inappropriateType _ code details =>
    if errorNumber code = 21 then .isDirectory
    else if errorNumber code = 20 then .notDirectory
    else .other details
  | .invalidArgument _ code details =>
    if errorNumber code = 36 then .nameTooLong else .other details
  | error => .other (toString error)

/-- The bytes of a file. -/
def readBytes (path : String) : IO (Except FileFault Bytes) := do
  try
    let bytes ← IO.FS.readBinFile path
    return .ok bytes.toList
  catch error => return .error (faultOf error)

end CommandLine
end SecurityTokens

/-- Runs the program. -/
def main (arguments : List String) : IO UInt32 := do
  let outcome ← SecurityTokens.CommandLine.run SecurityTokens.CommandLine.readBytes arguments
  (← IO.getStdout).putStr outcome.output
  (← IO.getStderr).putStr outcome.errorOutput
  return outcome.exitCode
