import VirtualCamera.CommandLine.Outcome

/-!
# The program

Reads the files that a command names, and prints its outcome.
-/

namespace VirtualCamera.Main

open CommandLine

/-- The contents of a file, if it can be read. -/
def contentOf (path : String) : IO (Option ByteArray) := do
  try
    return some (← IO.FS.readBinFile path)
  catch _ => return none

def defaultConfigPath? : IO (Option String) := do
  let tail := "/emulated-camera/config.json"
  match ← IO.getEnv "XDG_CONFIG_HOME" with
  | some dir => return some (dir ++ tail)
  | none => return (← IO.getEnv "HOME").map fun home => home ++ "/.config" ++ tail

def pathsOf : Command → List String
  | .run _ config characteristics => config.toList ++ characteristics.toList
  | .templates characteristics => characteristics.toList
  | .geometry .. | .help | .version => []

def filesOf (command : Command) : IO Files := do
  let named ← (pathsOf command).mapM fun path => return (path, ← contentOf path)
  let defaultConfig ← match ← defaultConfigPath? with
    | some path => contentOf path
    | none => pure none
  return { defaultConfig, content := fun path => (named.lookup path).join }

def perform (command : Command) : IO UInt32 := do
  let outcome := command.outcome (← filesOf command)
  outcome.lines.forM fun line => IO.println line
  outcome.errorLines.forM fun line => IO.eprintln line
  return outcome.exitCode.toUInt32

end VirtualCamera.Main

def main (arguments : List String) : IO UInt32 := do
  match VirtualCamera.CommandLine.Command.ofArguments? arguments with
  | some command => VirtualCamera.Main.perform command
  | none =>
    VirtualCamera.CommandLine.usage.forM fun line => IO.eprintln line
    return VirtualCamera.CommandLine.usageExitCode.toUInt32
