import LinePalette.Files.Disk
import LinePalette.Host.Failure
import LinePalette.Settings.Flags

/-!
# Settings files

A settings file holds flags as words, separated by blanks.  Lines that start with
a number sign, after blanks, are comments.  A saved file has one flag on a line.
-/

namespace LinePalette
namespace Settings

/-!
# Locations
-/

/-- The environment that decides where settings are. -/
structure Folders where
  xdg : Option Text
  home : Option Text
deriving Repr, DecidableEq

def localPath : Text := ".rhedrc".toList

def globalPath (folders : Folders) : Text :=
  let below (parent : Text) (names : List String) : Text :=
    names.foldl (fun path name => Path.child path name.toList) parent
  match folders.xdg, folders.home with
  | some xdg, _ => below xdg ["rhed", "config"]
  | none, some home => below home [".config", "rhed", "config"]
  | none, none => localPath

/-!
# Contents
-/

def isCommentOrEmpty (line : Text) : Bool := line.isEmpty || line.head? == some '#'

def wordsOf (content : Text) : List Text :=
  (((Text.splitOn '\n' content).map Text.trim).filter fun line =>
    !isCommentOrEmpty line).flatMap Text.words

def parse (content : Text) : Flags := Flags.ofWords (wordsOf content)

def header : Text := "# rhed defaults (saved with --save)".toList

def linesOf (flags : Flags) : List Text :=
  [header] ++
    (if flags.terse then [Flags.terseWord] else []) ++
    (if flags.noPrompt then [Flags.noPromptWord] else []) ++
    (if flags.json then [Flags.jsonWord] else []) ++
    (match flags.source with
      | some source => [Flags.sourceWord ++ [' '] ++ source.flagName]
      | none => []) ++
    (match flags.logFile with
      | some path => [Flags.logFileWord ++ [' '] ++ path]
      | none => [])

def render (flags : Flags) : Text := Text.join ['\n'] (linesOf flags) ++ ['\n']

/-!
# Loading, saving and clearing
-/

/-- The flags in a settings file; a file that does not exist sets none. -/
def load (disk : Disk) (path : Text) : Except Failure Flags :=
  if disk.pathExists path then
    match disk.readText? path with
    | some content => .ok (parse content)
    | none => .error (.readSettings path)
  else
    .ok Flags.unset

/-- The outcome of saving and the disk afterwards; folders may have been made in vain. -/
def save (disk : Disk) (path : Text) (flags : Flags) : Except Failure Unit × Disk :=
  let folder := (Path.parent? path).getD []
  let made := disk.makeFolderPath folder
  if folder = [] ∨ made.isFolderPath folder then
    match made.writeFile? path (Utf8.encode (render flags)) with
    | none => (.error (.writeSettings path), made)
    | some written => (.ok (), written)
  else
    (.error (.makeSettingsFolder folder), made)

def clear (disk : Disk) (path : Text) : Except Failure Unit × Disk :=
  if disk.pathExists path then
    match disk.removeFile? path with
    | none => (.error (.removeSettings path), disk)
    | some removed => (.ok (), removed)
  else
    (.ok (), disk)

end Settings
end LinePalette
