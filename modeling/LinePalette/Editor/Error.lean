import LinePalette.Text.Basic

/-!
# Editing errors

Every way in which a line typed into the editor can fail, and what the editor
says about it when it explains its errors.
-/

namespace LinePalette

inductive EditError where
  | emptyBuffer
  | invalidAddress
  | invalidRange
  | noMatch
  | invalidRegex
  | invalidAddressRegex
  | invalidSubstitute
  | unknownCommand
deriving Repr, DecidableEq

def EditError.message : EditError -> Text
  | emptyBuffer => "empty buffer".toList
  | invalidAddress => "invalid address".toList
  | invalidRange => "invalid address range".toList
  | noMatch => "no match".toList
  | invalidRegex => "invalid regex".toList
  | invalidAddressRegex => "invalid regex in address".toList
  | invalidSubstitute => "invalid substitute command".toList
  | unknownCommand => "unknown command".toList

end LinePalette
