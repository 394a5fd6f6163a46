import Moniker.CommandLine.Help
import Moniker.CommandLine.Run
import Moniker.CommandLine.Scan
import Moniker.Host.Tools
import Moniker.Pattern.Dialect
import Moniker.Random.Stream

/-!
# The program

Reads the files that the arguments name, makes the run, prints its report and
ends with its status.  Commands are those of the built-in tools.
-/

namespace Moniker
namespace Program

/-- The files that were read before the run, by the paths that name them. -/
abbrev Files := List (Text × Except Fault Contents)

def host : Host Files where
  openFile path files := (files.lookup path).getD (.error .notFound)
  runCommand program arguments files := (Tools.run {} program arguments, files)

def faultOf : IO.Error -> Fault
  | .noFileOrDirectory .. => .notFound
  | .permissionDenied .. => .denied
  | .inappropriateType .. => .isFolder
  | error => .other (toString error).toList

def readFile (path : Text) : IO (Text × Except Fault Contents) := do
  try
    let content ← IO.FS.readBinFile (String.ofList path)
    return (path, .ok (.bytes content.toList))
  catch error =>
    match faultOf error with
    | .isFolder => return (path, .ok .folder)
    | fault => return (path, .error fault)

def pathsOf (a : CommandLine.Arguments) : List Text :=
  a.settingsFile?.toList
    ++ (if a.blacklist then [a.blacklistFile] else [])
    ++ (if a.accounts then [a.accountsFile] else [])

def randomStream : IO Stream := do
  let bytes ← IO.getRandomBytes 8
  return Stream.ofSeed (bytes.toList.foldl (fun seed b => seed * 256 + b.toUInt64) 0)

def printError (failure : Text) : IO Unit :=
  IO.eprintln ("error: " ++ String.ofList failure)

def perform (a : CommandLine.Arguments) : IO UInt32 := do
  let files ← (pathsOf a).mapM readFile
  let (conclusion, _) := a.run host Pattern.dialect (← randomStream) files
  IO.print (String.ofList conclusion.printed)
  match conclusion.outcome with
  | .ok _ => pure ()
  | .error failure => printError failure.message
  return (CommandLine.Conclusion.exitStatus conclusion.outcome).toUInt32

def refuse (refusal : CommandLine.Refusal) : IO UInt32 := do
  match refusal with
  | .help => IO.print (String.ofList CommandLine.helpText)
  | .version => IO.print (String.ofList CommandLine.versionText)
  | refusal => printError refusal.message
  return refusal.exitCode.toUInt32

def start (words : List String) : IO UInt32 :=
  match CommandLine.Arguments.read (words.map String.toList) with
  | .ok a => perform a
  | .error refusal => refuse refusal

end Program
end Moniker

def main (words : List String) : IO UInt32 :=
  Moniker.Program.start words
