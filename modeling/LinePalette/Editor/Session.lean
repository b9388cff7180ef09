import LinePalette.Editor.Actions
import LinePalette.Editor.Address
import LinePalette.Editor.Command

/-!
# Editing sessions

A session gives the editor one line at a time.  In command mode a line is a
command with an address.  In typing mode lines are collected until a lone dot
carries the pending edit out; an edit that cannot be carried out leaves the
buffer alone, and typing mode ends either way.
-/

namespace LinePalette
namespace Editor

/-!
# Commands
-/

def runCommand (editor : Editor) (line : Text) : Result :=
  match Command.parse? line with
  | none => editor.stepForward
  | some command => do
      let range ← Address.resolve editor.buffer command.address editor.cursor
      editor.perform command.letter range command.tail

/-!
# Lines
-/

def errorText (verbose : Bool) (error : EditError) : Text :=
  if verbose then "? ".toList ++ error.message else ['?']

def fail (editor : Editor) (error : EditError) : Outcome × Editor :=
  (.error (errorText editor.options.verboseErrors error), { editor with lastError := some error })

/-- The answer to a result, where a failure leaves the given editor. -/
def settle (editor : Editor) (result : Result) : Outcome × Editor :=
  match result with
  | .ok answer => answer
  | .error error => editor.fail error

/-- The pending edit carried out; typing ends whether or not that succeeds. -/
def commit (editor : Editor) (edit : PendingEdit) : Outcome × Editor :=
  let ended := { editor with mode := .command }
  ended.settle ((ended.applyEdit edit).map fun changed => (.output [], changed))

def process (editor : Editor) (line : Text) : Outcome × Editor :=
  match editor.mode with
  | .command => editor.settle (editor.runCommand (Text.trim line))
  | .typing edit =>
      if line = ['.'] then
        editor.commit edit
      else
        (.more, { editor with mode := .typing { edit with lines := edit.lines ++ [line] } })

end Editor
end LinePalette
