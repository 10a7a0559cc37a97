import DebugBridge.CommandLine
import DebugBridge.Launch.Host
import DebugBridge.Launch.Taken

/-!
# The program

Reads what a command line needs and carries it out.
-/

namespace DebugBridge.Program

/-- The system's number of an error, which may come with its sign changed. -/
def systemNumber (code : UInt32) : Nat :=
  if code < 0x80000000 then code.toNat else (0 - code).toNat

/-- The system's wording of the errors that a path may cause. -/
def systemText : Nat → Option String
  | 2 => some "No such file or directory"
  | 13 => some "Permission denied"
  | 20 => some "Not a directory"
  | 21 => some "Is a directory"
  | 36 => some "File name too long"
  | _ => none

/-- The reason of a failure, with the system's number for it if there is one. -/
def reason : IO.Error → String
  | .noFileOrDirectory _ code text | .permissionDenied _ code text
  | .inappropriateType _ code text | .invalidArgument _ code text
  | .resourceExhausted _ code text | .otherError code text =>
    (systemText (systemNumber code)).getD text ++ " (os error " ++ toString (systemNumber code) ++ ")"
  | e => toString e

/-- The content of a file, or why it cannot be read. -/
def readFile (path : String) : IO (Except String Bytes) := do
  try
    let bytes ← IO.FS.readBinFile path
    return .ok bytes.data.toList
  catch e => return .error (reason e)

/-- The text of a system file, empty where there is none. -/
def readSystemFile (path : String) : IO String := do
  try IO.FS.readFile path
  catch _ => return ""

/-- The kernel process that the program is. -/
def ownKernel : IO Kernel := do
  let temporary := (← IO.getEnv "TMPDIR").getD "/tmp"
  let status ← readSystemFile "/proc/self/stat"
  return ⟨temporary, String.ofList (status.toList.takeWhile (· ≠ ' '))⟩

/-- What a command line finds outside. -/
def surroundings (args : List String) : IO CommandLine.Surroundings := do
  let home ← IO.getEnv "HOME"
  let files ← (CommandLine.paths home args).mapM fun path => do
    return (path, ← readFile path)
  let taken := Launch.takenPorts (← readSystemFile "/proc/net/tcp") ++
    Launch.takenPorts (← readSystemFile "/proc/net/tcp6")
  let seed ← IO.rand 0 1073741824
  return {
    kernel := ← ownKernel
    home
    read := fun path => (files.lookup path).getD (.error "not read")
    isFree := fun host port => Launch.isHost host && !taken.contains port
    draw := fun i => (stdNext (mkStdGen (seed + i))).1 }

end DebugBridge.Program

/-- Carries out the arguments and gives the exit code. -/
def main (args : List String) : IO UInt32 := do
  let outcome := DebugBridge.CommandLine.run (← DebugBridge.Program.surroundings args) args
  (← IO.getStdout).putStr outcome.output
  (← IO.getStderr).putStr outcome.diagnostics
  return outcome.code.toUInt32
