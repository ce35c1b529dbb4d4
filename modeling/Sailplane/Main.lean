import Sailplane.Command.Arguments
import Sailplane.Command.StartCheck

/-!
# Command line

The commands of the program, with the files and the environment they are run in. The program
opens no connections of its own, so a download finds no server.
-/
namespace Sailplane.Command

/-- The contents of a path. -/
def contentsAt (path : String) : IO Config.Contents := do
  try
    return .file (← IO.FS.readBinFile path).toList
  catch
    | .noFileOrDirectory .. => return .missing
    | .inappropriateType _ code _ =>
      return if code = 21 then .directory else .locked Disk.notDirectory
    | error => return .locked (toString error)

/-- Run a command. -/
def run : List String → IO Outcome
  | "download" :: words => do
    let environment ← IO.getEnv "SOAR_USER_AGENT"
    return (runDownload .refusing environment words .empty).1
  | "start-check" :: words => do
    match startCheckPaths words with
    | .ok (task, track) => return startCheck task (← contentsAt task) track (← contentsAt track)
    | .error error => return startCheckCommand.refuse none error
  | words => return unknownCommand words

end Sailplane.Command

/-- Run the command of the command line and print its outcome. -/
def main (words : List String) : IO UInt32 := do
  let outcome ← Sailplane.Command.run words
  for line in outcome.output do
    IO.println line
  for line in outcome.errors do
    IO.eprintln line
  return UInt32.ofNat outcome.code
