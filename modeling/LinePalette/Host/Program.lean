import LinePalette.Host.Arguments
import LinePalette.Host.Session
import LinePalette.Settings.File

/-!
# The program

What one call of the program does.  Saved defaults are cleared and saved first,
the flags of the settings files and the command line are put together, a log file
is made when one is asked for, and the session runs over the standard input.

The flags of the command line are read twice: once to see whether the arguments
are in order, and once as a list of words like those of a settings file.  The
second reading is the one that takes effect.
-/

namespace LinePalette

namespace Invocation

structure Result where
  code : Nat
  output : Text
  /-- The report of a failure. -/
  report : Option Text
  disk : Disk

def versionText : Text := "rhed 0.3.2\n".toList

def helpText : Text :=
  "An ed-style command palette for text files and the clipboard

Usage: rhed [OPTIONS] [FILE]

Arguments:
  [FILE]  File to edit; the clipboard is used when omitted

Options:
      --terse            Start with terse `?` errors instead of verbose ones
      --no-prompt        Start without the `*` command prompt
      --json             Print each result as a JSON object
      --source <SOURCE>  How the file contents are interpreted
      --log-file <PATH>  Write log output to a file instead of stderr
      --save             Save current command-line flags as defaults
      --clear            Clear saved defaults
  -h, --help             Print help
  -V, --version          Print version\n".toList

def sessionReport : Text := "Session error".toList

def failed (failure : Failure) (disk : Disk) : Result :=
  { code := 1, output := [], report := some failure.message, disk := disk }

/-!
# Paths
-/

/-- The paths that one call may read or change, as far as the disk tells. -/
def paths (arguments : Arguments) (words : List Text) (folders : Settings.Folders)
    (disk : Disk) : List Text :=
  let globalPath := Settings.globalPath folders
  let saved (path : Text) : Flags := (Settings.load disk path).toOption.getD Flags.unset
  let flags := [Flags.ofWords words, saved globalPath, saved Settings.localPath]
  [globalPath, Settings.localPath] ++ arguments.file.toList ++ flags.filterMap Flags.logFile

/-!
# Preparation
-/

/-- The flags of the settings files; cleared defaults are not looked at. -/
def fileFlags (disk : Disk) (cleared : Bool) (globalPath : Text) : Except Failure Flags :=
  if cleared then
    .ok Flags.unset
  else do
    let globalFlags ← Settings.load disk globalPath
    let localFlags ← Settings.load disk Settings.localPath
    .ok (globalFlags.union localFlags)

def makeLogFile (disk : Disk) (logFile : Option Text) : Except Failure Disk :=
  match logFile with
  | none => .ok disk
  | some path =>
      match disk.writeFile? path [] with
      | some made => .ok made
      | none => .error (.makeLogFile path)

def hostFor (target : Target) (flags : Flags) : Host :=
  { target := target, source := flags.source.getD target.defaultSource,
    options := flags.options, json := flags.json }

def whenAsked (asked : Bool) (disk : Disk) (change : Disk -> Except Failure Unit × Disk) :
    Except Failure Unit × Disk :=
  if asked then change disk else (.ok (), disk)

/-- The host that the arguments lead to, or the failure met before, and the disk then. -/
def prepare (arguments : Arguments) (words : List Text) (folders : Settings.Folders)
    (disk : Disk) : Except Failure Host × Disk :=
  let globalPath := Settings.globalPath folders
  let wordFlags := Flags.ofWords words
  match whenAsked arguments.clear disk fun disk => Settings.clear disk globalPath with
  | (.error failure, disk) => (.error failure, disk)
  | (.ok (), disk) =>
      match whenAsked arguments.save disk fun disk => Settings.save disk globalPath wordFlags with
      | (.error failure, disk) => (.error failure, disk)
      | (.ok (), disk) =>
          match fileFlags disk arguments.clear globalPath with
          | .error failure => (.error failure, disk)
          | .ok saved =>
              let flags := saved.union wordFlags
              match makeLogFile disk flags.logFile with
              | .error failure => (.error failure, disk)
              | .ok disk =>
                  match Target.resolve disk arguments.file flags.source with
                  | .error failure => (.error failure, disk)
                  | .ok target => (.ok (hostFor target flags), disk)

/-!
# The session
-/

def runSession (host : Host) (disk : Disk) (input : Bytes) : Result :=
  match host.openPalette disk with
  | .error _ => { code := 1, output := [], report := some sessionReport, disk := disk }
  | .ok palette =>
      let run := host.run palette disk input
      match run.ending with
      | .ok _ => { code := 0, output := run.output, report := none, disk := run.disk }
      | .error _ =>
          { code := 1, output := run.output, report := some sessionReport, disk := run.disk }

def run (words : List Text) (folders : Settings.Folders) (disk : Disk) (input : Bytes) :
    Result :=
  match Arguments.parse words with
  | .misuse => { code := 2, output := [], report := none, disk := disk }
  | .version => { code := 0, output := versionText, report := none, disk := disk }
  | .help => { code := 0, output := helpText, report := none, disk := disk }
  | .session arguments =>
      match prepare arguments words folders disk with
      | (.error failure, disk) => failed failure disk
      | (.ok host, disk) => runSession host disk input

end Invocation
end LinePalette
