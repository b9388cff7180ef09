import LinePalette.Editor.Session
import LinePalette.Palette.Message

/-!
# Palettes

A palette is an editor bound to a source.  It passes each line to the editor and
decides from the line and the outcome what the surroundings are to do next.  A
line of the form `/regex/H` asks for a highlight; the editor sees it as well.
-/

namespace LinePalette

inductive Action where
  /-- Text is being typed. -/
  | awaitInput
  /-- Show the text, or nothing. -/
  | render (text : Option Text)
  /-- Send the message and close. -/
  | broadcast (message : Message)
deriving Repr, DecidableEq

structure Palette where
  editor : Editor
  source : Source
deriving Repr, DecidableEq

namespace Palette

def ofLines (source : Source) (lines : List Text) (options : Options) : Palette :=
  { editor := Editor.start lines options, source := source }

def ofText (source : Source) (text : Text) (options : Options) : Palette :=
  ofLines source (source.importText text) options

def prompt (palette : Palette) : Text := palette.editor.prompt

/-!
# Routing
-/

def highlightRequest? (line : Text) : Option Text :=
  (Text.stripLeading? ['/'] line).bind (Text.stripTrailing? ['/', 'H'])

/-- The text of a render action; an empty text is not shown. -/
def shownText (outcome : Outcome) : Option Text :=
  outcome.text?.filter fun text => !text.isEmpty

def plainAction (source : Source) (outcome : Outcome) : Action :=
  match outcome with
  | .saved _ buffer => .broadcast (.broadcast (.write buffer source))
  | _ => .render (shownText outcome)

/-- What the surroundings do next, given whether text is being typed now. -/
def route (source : Source) (typing : Bool) (line : Text) (outcome : Outcome) : Action :=
  match outcome with
  | .input => .awaitInput
  | .more => .awaitInput
  | _ =>
      match if typing then none else highlightRequest? line with
      | some regex => .broadcast (.broadcast (.highlight regex))
      | none => plainAction source outcome

def submit (palette : Palette) (line : Text) : Outcome × Action × Palette :=
  let (outcome, editor) := palette.editor.process line
  (outcome, route palette.source editor.isTyping line outcome, { palette with editor := editor })

end Palette

/-!
# Outcomes on the wire
-/

def Outcome.toJson : Outcome -> Json
  | output text => .object [("output".toList, .string text)]
  | error text => .object [("error".toList, .string text)]
  | input => .object [("status".toList, .string "input".toList)]
  | more =>
      .object [("output".toList, .string []), ("status".toList, .string "input".toList)]
  | saved text buffer =>
      .object [("output".toList, .string text), ("buffer".toList, Json.ofTexts buffer)]

end LinePalette
