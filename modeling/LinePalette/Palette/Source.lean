import LinePalette.Palette.Markup

/-!
# Sources

Where the text of a session comes from, which decides how it is taken apart into
lines and put together again.
-/

namespace LinePalette

inductive Source where
  | textField
  | editable
  | clipboard
deriving Repr, DecidableEq

namespace Source

def importText (source : Source) (text : Text) : List Text :=
  match source with
  | textField => Text.splitOn '\n' text
  | editable => Markup.toLines text
  | clipboard => Text.splitOn '\n' text

def exportLines (source : Source) (lines : List Text) : Text :=
  match source with
  | textField => Text.join ['\n'] lines
  | editable => Markup.ofLines lines
  | clipboard => Text.join ['\n'] lines

def flagName : Source -> Text
  | textField => "text-field".toList
  | editable => "editable".toList
  | clipboard => "clipboard".toList

def ofFlagName? (name : Text) : Option Source :=
  [textField, editable, clipboard].find? fun source => source.flagName == name

def wireName : Source -> Text
  | textField => "textfield-value".toList
  | editable => "textfield-editable".toList
  | clipboard => "clipboard-edit".toList

def ofWireName? (name : Text) : Option Source :=
  [textField, editable, clipboard].find? fun source => source.wireName == name

end Source

def clipboardReadError : Text := "Error reading clipboard.".toList

/-- The lines of a clipboard, or the diagnostic line when it could not be read. -/
def clipboardLines (contents : Option Text) : List Text :=
  match contents with
  | some text => Source.clipboard.importText text
  | none => [clipboardReadError]

end LinePalette
