import LinePalette.Host.Program

/-!
# The command line

The program itself: it looks at the files that a call may need, makes the changes
that the call leads to, and talks over the standard streams line by line.  It has no
clipboard within reach.
-/

namespace LinePalette
namespace Console

/-!
# Files
-/

def pathTo (location : Location) : String :=
  String.ofList ('/' :: Text.join ['/'] location)

def entryOutside (path : Text) : IO (Option Entry) := do
  let name := String.ofList path
  match ← (IO.FS.readBinFile name).toBaseIO with
  | .ok content => return some (.file content.toList)
  | .error _ =>
      match ← (IO.FS.realPath (name ++ "/.")).toBaseIO with
      | .ok _ => return some .folder
      | .error _ => return none

def look (disk : Disk) (path : Text) : IO Disk := do
  match disk.locate? path with
  | none => return disk
  | some location =>
      match ← entryOutside path with
      | none => return disk
      | some entry => return disk.put location entry

/-- The disk with everything outside on the way to the given paths. -/
def lookAll (disk : Disk) (paths : List Text) : IO Disk :=
  (paths.flatMap Path.waypoints).foldlM look disk

def emptyDisk : IO Disk := do
  let here := (← IO.currentDir).toString.toList
  return { here := (Text.splitOn '/' here).filter (· != []), entries := [] }

def make : Disk.Change -> IO Unit
  | .make location => IO.FS.createDirAll (pathTo location)
  | .write location content => IO.FS.writeBinFile (pathTo location) content.toByteArray
  | .remove location => IO.FS.removeFile (pathTo location)

def makeChanges (before after : Disk) : IO Unit :=
  (Disk.changes before after).forM make

/-!
# Streams
-/

def say (text : Text) : IO Unit := do
  let output ← IO.getStdout
  output.putStr (String.ofList text)
  output.flush

def report (message : Text) : IO UInt32 := do
  IO.eprintln (String.ofList ("Error: ".toList ++ message))
  return 1

/-- The bytes up to the end of the line, after the given ones in reverse. -/
partial def readChunk (input : IO.FS.Stream) (reversed : Bytes) : IO Bytes := do
  match (← input.read 1).toList with
  | [] => return reversed.reverse
  | byte :: _ =>
      if byte = 10 then
        return (byte :: reversed).reverse
      else
        readChunk input (byte :: reversed)

/-!
# Sessions
-/

partial def converse (host : Host) (disk : Disk) (palette : Palette) : IO UInt32 := do
  say (host.promptText palette)
  let chunk ← readChunk (← IO.getStdin) []
  if chunk = [] then
    return 0
  match Host.lineOf? chunk with
  | none => report Invocation.sessionReport
  | some line =>
      match host.answer palette disk line with
      | .goesOn palette output =>
          say output
          converse host disk palette
      | .ended _ output changed ending =>
          say output
          makeChanges disk changed
          match ending with
          | .ok _ => return 0
          | .error _ => report Invocation.sessionReport

def runSession (arguments : Arguments) (words : List Text) : IO UInt32 := do
  let folders : Settings.Folders :=
    { xdg := (← IO.getEnv "XDG_CONFIG_HOME").map String.toList,
      home := (← IO.getEnv "HOME").map String.toList }
  let empty ← emptyDisk
  let first ← lookAll empty (Invocation.paths arguments words folders empty)
  let disk ← lookAll empty (Invocation.paths arguments words folders first)
  let (prepared, changed) := Invocation.prepare arguments words folders disk
  makeChanges disk changed
  match prepared with
  | .error failure => report failure.message
  | .ok host =>
      match host.openPalette changed with
      | .error _ => report Invocation.sessionReport
      | .ok palette => converse host changed palette

def run (words : List Text) : IO UInt32 := do
  match Arguments.parse words with
  | .version =>
      say Invocation.versionText
      return 0
  | .help =>
      say Invocation.helpText
      return 0
  | .misuse =>
      IO.eprint (String.ofList Invocation.helpText)
      return 2
  | .session arguments => runSession arguments words

end Console
end LinePalette

def main (words : List String) : IO UInt32 :=
  LinePalette.Console.run (words.map String.toList)
