import LinePalette.Text.Basic

/-!
# Failures

What can go wrong outside the editor, and the sentence that reports it.
-/

namespace LinePalette

inductive Failure where
  | readFile (path : Text)
  | writeFile (path : Text)
  | writeClipboard
  | readInput
  | readSettings (path : Text)
  | makeSettingsFolder (path : Text)
  | writeSettings (path : Text)
  | removeSettings (path : Text)
  | makeLogFile (path : Text)
  | clipboardWithFile (path : Text)
  | fileNeeded (source : Text)
  | fileNotFound (path : Text)
deriving Repr, DecidableEq

namespace Failure

def message : Failure -> Text
  | readFile path => "Failed to read ".toList ++ path
  | writeFile path => "Failed to write ".toList ++ path
  | writeClipboard => "Failed to write clipboard".toList
  | readInput => "Failed to read input".toList
  | readSettings path => "Failed to read config ".toList ++ path
  | makeSettingsFolder path => "Failed to create config dir ".toList ++ path
  | writeSettings path => "Failed to write config ".toList ++ path
  | removeSettings path => "Failed to remove ".toList ++ path
  | makeLogFile path => "Failed to create log file ".toList ++ path
  | clipboardWithFile path =>
      "--source clipboard edits the clipboard; drop ".toList ++ path ++
        " or choose another source".toList
  | fileNeeded source => "--source ".toList ++ source ++ " needs a FILE to edit".toList
  | fileNotFound path => "File not found: ".toList ++ path

end Failure
end LinePalette
