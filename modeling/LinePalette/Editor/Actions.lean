import LinePalette.Editor.Basic
import LinePalette.Editor.Outcome
import LinePalette.Editor.Substitution
import LinePalette.Pattern.Template

/-!
# Actions

What each command does to an editor.  An action on a range checks that the lines
exist; one that fails changes nothing.
-/

namespace LinePalette
namespace Editor

/-!
# Texts
-/

def quitGuidance : Text :=
  "Type 'w' to save and 'q' again to exit.\nOr 'Q' to quit without saving.".toList

def resetMessage : Text := "Buffer reset.".toList

def savedMessage : Text := "Buffer written.".toList

def helpText : Text :=
  "\ned commands:
 a      - Append text after current line
 i      - Insert text before current line
 c      - Change lines
 d      - Delete lines
 p      - Print lines
 n      - Number and print lines
 s/old/new/g - Substitute (g for global)
 w      - Write the buffer back and close
 q      - Warn before quitting
 Q      - Quit without saving (empties the buffer)
 .      - Exit input mode / refer to current line
 $      - Refer to last line
 1,$p   - Print all lines
 /regex/ - Search for regex (forward)
 /regex/H - Highlight regex capture groups
 H      - Toggle verbose error messages
 P      - Toggle prompt\n".toList

def verboseMessage (on : Bool) : Text :=
  "Verbose errors ".toList ++ (if on then "enabled.".toList else "disabled.".toList)

abbrev Result := Except EditError (Outcome × Editor)

/-!
# Printing
-/

def stepForward (editor : Editor) : Result :=
  if editor.buffer = [] then
    .error .emptyBuffer
  else
    let next := (editor.cursor + 1) % editor.buffer.length
    .ok (.output (editor.buffer.getD next []), { editor with cursor := next })

def print (editor : Editor) (range : LineRange) (numbered : Bool) : Result :=
  if editor.buffer = [] then
    .error .emptyBuffer
  else do
    let (first, last) ← range.indices editor.buffer.length
    let lines := editor.buffer.between first last
    let shown := if numbered then Buffer.numbered (first + 1) lines else lines
    .ok (.output (Text.join ['\n'] shown), { editor with cursor := last })

/-!
# Editing
-/

def delete (editor : Editor) (range : LineRange) : Result :=
  if editor.buffer = [] then
    .error .emptyBuffer
  else do
    let (first, last) ← range.indices editor.buffer.length
    let buffer := editor.buffer.replaceLines first (last + 1) []
    .ok (.output [], { editor with buffer := buffer, cursor := min first (buffer.length - 1) })

/-- The lines put in at a position counted from zero, or behind the last line. -/
def insertAt (editor : Editor) (position : Int) (lines : List Text) : Except EditError Editor :=
  if position < 0 then
    .error .invalidAddress
  else
    let index := min position.toNat editor.buffer.length
    .ok
      { editor with
        buffer := editor.buffer.replaceLines index index lines,
        cursor := if lines = [] then editor.cursor else index + lines.length - 1 }

def changeLines (editor : Editor) (range : LineRange) (lines : List Text) :
    Except EditError Editor := do
  let (first, last) ← range.indices editor.buffer.length
  .ok
    { editor with
      buffer := editor.buffer.replaceLines first (last + 1) lines,
      cursor := first + lines.length - 1 }

def applyEdit (editor : Editor) (edit : PendingEdit) : Except EditError Editor :=
  match edit.kind with
  | .append => editor.insertAt edit.range.stop edit.lines
  | .insert => editor.insertAt (max (edit.range.start - 1) 0) edit.lines
  | .change => editor.changeLines edit.range edit.lines

/-!
# Substituting
-/

def substitute (editor : Editor) (range : LineRange) (tail : Text) : Result := do
  let substitution ← Substitution.parse tail
  if editor.buffer = [] then
    .error .emptyBuffer
  else
    match Pattern.compile substitution.pattern with
    | .error _ => .error .invalidRegex
    | .ok pattern => do
        let (first, last) ← range.indices editor.buffer.length
        let replacement := fun line =>
          pattern.replace line substitution.template substitution.everywhere
        match editor.buffer.alterLines replacement first last with
        | (_, none) => .error .noMatch
        | (buffer, some (index, line)) =>
            .ok (.output line, { editor with buffer := buffer, cursor := index })

/-!
# Commands
-/

def beginTyping (editor : Editor) (kind : EditKind) (range : LineRange) : Result :=
  .ok (.input, { editor with mode := .typing { kind := kind, range := range, lines := [] } })

def perform (editor : Editor) (letter : Char) (range : LineRange) (tail : Text) : Result :=
  match letter with
  | 'a' => editor.beginTyping .append range
  | 'i' => editor.beginTyping .insert range
  | 'c' => editor.beginTyping .change range
  | 'd' => editor.delete range
  | 'p' => editor.print range false
  | 'n' => editor.print range true
  | 's' => editor.substitute range tail
  | 'q' => .ok (.output quitGuidance, editor)
  | 'Q' => .ok (.output resetMessage, { editor with buffer := [], cursor := 0 })
  | 'w' => .ok (.saved savedMessage editor.buffer, editor)
  | 'h' => .ok (.output helpText, editor)
  | 'H' =>
      let on := !editor.options.verboseErrors
      .ok (.output (verboseMessage on),
        { editor with options := { editor.options with verboseErrors := on } })
  | 'P' =>
      .ok (.output [],
        { editor with
          options := { editor.options with showPrompt := !editor.options.showPrompt } })
  | _ => .error .unknownCommand

end Editor
end LinePalette
