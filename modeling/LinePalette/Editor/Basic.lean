import LinePalette.Editor.Buffer
import LinePalette.Editor.Error
import LinePalette.Editor.LineRange

/-!
# Editors

An editor holds a buffer and a cursor.  It takes either commands or, in typing
mode, the lines of a text that a pending edit waits for.
-/

namespace LinePalette

structure Options where
  showPrompt : Bool
  verboseErrors : Bool
deriving Repr, DecidableEq

def Options.default : Options := { showPrompt := true, verboseErrors := false }

inductive EditKind where
  | append
  | insert
  | change
deriving Repr, DecidableEq

structure PendingEdit where
  kind : EditKind
  range : LineRange
  lines : List Text
deriving Repr, DecidableEq

inductive Mode where
  | command
  | typing (edit : PendingEdit)
deriving Repr, DecidableEq

structure Editor where
  buffer : Buffer
  /-- The current line, counted from zero. -/
  cursor : Nat
  mode : Mode
  options : Options
  /-- The latest error, kept until the next one. -/
  lastError : Option EditError
deriving Repr, DecidableEq

namespace Editor

/-!
# Sessions
-/

/-- A session over the given lines, with the cursor on the last one. -/
def start (lines : List Text) (options : Options) : Editor :=
  { buffer := lines, cursor := lines.length - 1, mode := .command, options := options,
    lastError := none }

def isTyping (editor : Editor) : Bool :=
  match editor.mode with
  | .typing _ => true
  | .command => false

def prompt (editor : Editor) : Text :=
  if editor.isTyping || !editor.options.showPrompt then [] else ['*']

/-- The cursor on the given line, or on the last one if there is no such line. -/
def moveTo (editor : Editor) (line : Nat) : Editor :=
  { editor with cursor := min line (editor.buffer.length - 1) }

end Editor
end LinePalette
