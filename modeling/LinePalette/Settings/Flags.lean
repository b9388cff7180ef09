import LinePalette.Editor.Session
import LinePalette.Palette.Source

/-!
# Flags

Flags come from the command line and from settings files as a list of words.
Words that are no flags are passed over.  Where two lists of flags meet, a switch
is on if it is on in either, and a choice made in the later list wins.
-/

namespace LinePalette

structure Flags where
  terse : Bool
  noPrompt : Bool
  json : Bool
  source : Option Source
  logFile : Option Text
deriving Repr, DecidableEq

namespace Flags

def unset : Flags :=
  { terse := false, noPrompt := false, json := false, source := none, logFile := none }

def union (earlier later : Flags) : Flags :=
  { terse := earlier.terse || later.terse,
    noPrompt := earlier.noPrompt || later.noPrompt,
    json := earlier.json || later.json,
    source := later.source.or earlier.source,
    logFile := later.logFile.or earlier.logFile }

/-- The editor options that the flags ask for; errors are explained unless terse. -/
def options (flags : Flags) : Options :=
  { showPrompt := !flags.noPrompt, verboseErrors := !flags.terse }

/-!
# Words
-/

def terseWord : Text := "--terse".toList

def noPromptWord : Text := "--no-prompt".toList

def jsonWord : Text := "--json".toList

def sourceWord : Text := "--source".toList

def logFileWord : Text := "--log-file".toList

def read (flags : Flags) : List Text -> Flags
  | [] => flags
  | word :: words =>
      if word = terseWord then
        read { flags with terse := true } words
      else if word = noPromptWord then
        read { flags with noPrompt := true } words
      else if word = jsonWord then
        read { flags with json := true } words
      else if word = sourceWord then
        match words with
        | [] => flags
        | value :: words => read { flags with source := Source.ofFlagName? value } words
      else if word = logFileWord then
        match words with
        | [] => flags
        | value :: words => read { flags with logFile := some value } words
      else
        match Text.stripLeading? (sourceWord ++ ['=']) word with
        | some value => read { flags with source := Source.ofFlagName? value } words
        | none =>
            match Text.stripLeading? (logFileWord ++ ['=']) word with
            | some value => read { flags with logFile := some value } words
            | none => read flags words

def ofWords (words : List Text) : Flags := read unset words

end Flags
end LinePalette
