import LinePalette.Highlight.Paint
import LinePalette.Files.Disk
import LinePalette.Host.Failure
import LinePalette.Palette.Session

/-!
# Hosted sessions

A host opens a palette over a file or the clipboard, feeds it lines of input and
does what the palette asks for.  A session ends when the buffer is written back,
when a highlight is shown, or when the input ends; in the last two cases nothing
is written.  A clipboard that cannot be read is opened over a diagnostic line.
-/

namespace LinePalette

inductive Target where
  | file (path : Text)
  | clipboard
deriving Repr, DecidableEq

namespace Target

def resolve (disk : Disk) (file : Option Text) (source : Option Source) :
    Except Failure Target :=
  match file, source with
  | some path, some .clipboard => .error (.clipboardWithFile path)
  | some path, _ =>
      if disk.pathExists path then .ok (.file path) else .error (.fileNotFound path)
  | none, some .textField => .error (.fileNeeded Source.textField.flagName)
  | none, some .editable => .error (.fileNeeded Source.editable.flagName)
  | none, _ => .ok .clipboard

def defaultSource : Target -> Source
  | file _ => .textField
  | clipboard => .clipboard

/-- The disk with a text in the target, unless the target refuses it. -/
def write? (target : Target) (disk : Disk) (text : Text) : Option Disk :=
  match target with
  | file path => disk.writeFile? path (Utf8.encode text)
  | clipboard => disk.copy? text

def writeFailure : Target -> Failure
  | file path => .writeFile path
  | clipboard => .writeClipboard

end Target

structure Host where
  target : Target
  source : Source
  options : Options
  /-- Whether outcomes are shown as JSON. -/
  json : Bool
deriving Repr, DecidableEq

inductive SessionEnd where
  | written
  | highlighted
  | endOfInput
deriving Repr, DecidableEq

/-- What a session has come to: the palette, the output so far, the disk and the end. -/
structure Run where
  palette : Palette
  output : Text
  disk : Disk
  ending : Except Failure SessionEnd

namespace Host

def openPalette (host : Host) (disk : Disk) : Except Failure Palette :=
  match host.target with
  | .file path =>
      match disk.readText? path with
      | some text => .ok (Palette.ofText host.source text host.options)
      | none => .error (.readFile path)
  | .clipboard =>
      .ok (Palette.ofLines host.source (clipboardLines disk.clipboard.contents) host.options)

/-!
# Writing back
-/

def writeBack (host : Host) (disk : Disk) (source : Source) (lines : List Text) :
    Except Failure SessionEnd × Disk :=
  match host.target.write? disk (source.exportLines lines) with
  | some written => (.ok .written, written)
  | none => (.error host.target.writeFailure, disk)

/-!
# Highlighting
-/

/-- The lines as segments: every line but the last ends with a newline. -/
def segmentsOf : List Text -> List Text
  | [] => []
  | [line] => [line]
  | line :: next :: lines => (line ++ ['\n']) :: segmentsOf (next :: lines)

def placeJson (place : Place) : Json :=
  .object
    [("column".toList, Json.ofNat place.offset),
      ("line".toList, Json.ofNat (place.segment + 1))]

def highlightJson (highlight : Highlight) : Json :=
  .object
    [("className".toList, .string (classOfGroup highlight.group)),
      ("end".toList, Json.ofNat highlight.flatStop),
      ("from".toList, placeJson highlight.start),
      ("group".toList, Json.ofNat highlight.group),
      ("start".toList, Json.ofNat highlight.flatStart),
      ("to".toList, placeJson highlight.stop)]

/-- The highlights from the first match on, lowest group first. -/
def highlightsJson (highlights : List Highlight) : Json :=
  .object [("highlights".toList, .array (highlights.reverse.map highlightJson))]

def highlightOutput (json : Bool) (regex : Text) (lines : List Text) : Text :=
  match Pattern.compile regex with
  | .error _ => if json then [] else "? invalid regex\n".toList
  | .ok pattern =>
      let segments := segmentsOf lines
      let highlights := Highlight.plan pattern segments
      if json then
        (highlightsJson highlights).compact ++ ['\n']
      else
        Paint.terminal (Segments.joined segments) (highlights.map Highlight.stroke) ++ ['\n']

def execute (host : Host) (disk : Disk) (message : Message) (lines : List Text) :
    Text × Except Failure SessionEnd × Disk :=
  match message with
  | .execute (.write buffer source) => ([], host.writeBack disk source buffer)
  | .execute (.highlight regex) =>
      (highlightOutput host.json regex lines, .ok .highlighted, disk)
  | _ => ([], .ok .endOfInput, disk)

/-!
# One line
-/

def promptText (host : Host) (palette : Palette) : Text :=
  if host.json then [] else palette.prompt

def answerText (host : Host) (outcome : Outcome) (action : Action) : Text :=
  if host.json then
    outcome.toJson.compact ++ ['\n']
  else
    match action, outcome with
    | .render (some text), _ => text ++ ['\n']
    | .broadcast _, .saved text _ => text ++ ['\n']
    | _, _ => []

inductive Turnout where
  | goesOn (palette : Palette) (output : Text)
  | ended (palette : Palette) (output : Text) (disk : Disk) (ending : Except Failure SessionEnd)

def answer (host : Host) (palette : Palette) (disk : Disk) (line : Text) : Turnout :=
  let (outcome, action, palette) := palette.submit line
  let shown := host.answerText outcome action
  match action with
  | .broadcast message =>
      match message.relay? with
      | none => .goesOn palette shown
      | some delivered =>
          let (output, ending, disk) := host.execute disk delivered palette.editor.buffer
          .ended palette (shown ++ output) disk ending
  | _ => .goesOn palette shown

/-!
# Input
-/

def isLineEnding (c : Char) : Bool := c == '\n' || c == '\r'

/-- The line of a chunk of input: its text without the line ending. -/
def lineOf? (chunk : Bytes) : Option Text :=
  (Utf8.decode? chunk).map (Text.trimEndWhile isLineEnding)

/-- Input in chunks that end with a newline, except perhaps the last. -/
def chunks : Bytes -> List Bytes
  | [] => []
  | byte :: rest =>
      if byte = 10 then
        [byte] :: chunks rest
      else
        match chunks rest with
        | [] => [[byte]]
        | chunk :: later => (byte :: chunk) :: later

def runChunks (host : Host) (palette : Palette) (disk : Disk) : List Bytes -> Run
  | [] =>
      { palette := palette, output := host.promptText palette, disk := disk,
        ending := .ok .endOfInput }
  | chunk :: later =>
      let prompt := host.promptText palette
      match lineOf? chunk with
      | none =>
          { palette := palette, output := prompt, disk := disk, ending := .error .readInput }
      | some line =>
          match host.answer palette disk line with
          | .ended palette output disk ending =>
              { palette := palette, output := prompt ++ output, disk := disk, ending := ending }
          | .goesOn palette output =>
              let run := runChunks host palette disk later
              { run with output := prompt ++ output ++ run.output }

def run (host : Host) (palette : Palette) (disk : Disk) (input : Bytes) : Run :=
  host.runChunks palette disk (chunks input)

end Host
end LinePalette
