import LinePalette.Text.Basic

/-!
# Outcomes

What the editor answers to one line.
-/

namespace LinePalette

inductive Outcome where
  /-- The command succeeded with this text, which may be empty. -/
  | output (text : Text)
  /-- The command failed; the text is what the editor says about it. -/
  | error (text : Text)
  /-- The editor now takes lines of text. -/
  | input
  /-- A line was added to the text being typed. -/
  | more
  /-- The buffer is to be written back. -/
  | saved (text : Text) (buffer : List Text)
deriving Repr, DecidableEq

namespace Outcome

def text? : Outcome -> Option Text
  | output text => some text
  | error text => some text
  | input => none
  | more => some []
  | saved text _ => some text

def isError : Outcome -> Bool
  | error _ => true
  | _ => false

end Outcome
end LinePalette
