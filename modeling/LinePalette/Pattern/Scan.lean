import LinePalette.Pattern.Regex

/-!
# Scanning pattern text

Flags, causes of failure, and the small scans that the readers of groups,
escapes and character classes share.  With the verbose flag on, blanks and
comments between the characters of a pattern are skipped.
-/

namespace LinePalette

inductive PatternError where
  | unclosedGroup
  | unopenedGroup
  | groupName
  | groupFlags
  | lookAround
  | nothingToRepeat
  | repetitionCount
  | unclosedClass
  | classMember
  | classRange
  | escape
  | unknownProperty
  | notText
  | tooDeep
  | tooLarge
deriving Repr, DecidableEq

namespace Pattern

structure Flags where
  ignoreCase : Bool
  multiLine : Bool
  dotAll : Bool
  swapGreed : Bool
  unicode : Bool
  crlf : Bool
  verbose : Bool
deriving Repr, DecidableEq

def Flags.initial : Flags :=
  { ignoreCase := false, multiLine := false, dotAll := false, swapGreed := false,
    unicode := true, crlf := false, verbose := false }

def Flags.switch? (flags : Flags) (letter : Char) (on : Bool) : Option Flags :=
  match letter with
  | 'i' => some { flags with ignoreCase := on }
  | 'm' => some { flags with multiLine := on }
  | 's' => some { flags with dotAll := on }
  | 'U' => some { flags with swapGreed := on }
  | 'u' => some { flags with unicode := on }
  | 'R' => some { flags with crlf := on }
  | 'x' => some { flags with verbose := on }
  | _ => none

/-!
# Skipping
-/

/-- The text without leading blanks and comments, inside or outside a comment. -/
def skipIgnored (inComment : Bool) : Text -> Text
  | [] => []
  | c :: rest =>
      if inComment then
        skipIgnored (c != '\n') rest
      else if Text.isBlank c then
        skipIgnored false rest
      else if c = '#' then
        skipIgnored true rest
      else
        c :: rest

def Flags.skip (flags : Flags) (text : Text) : Text :=
  if flags.verbose then skipIgnored false text else text

/-- The text after its first character and whatever is to be skipped there. -/
def Flags.next (flags : Flags) (text : Text) : Text := flags.skip (text.drop 1)

/--
The next character that a look past the current one meets.  A comment hides
only the mark that opens it.
-/
def lookPast (inComment : Bool) : Text -> Option Char
  | [] => none
  | c :: rest =>
      if Text.isBlank c then
        lookPast inComment rest
      else if !inComment && c = '#' then
        lookPast true rest
      else
        some c

def Flags.peek (flags : Flags) (text : Text) : Option Char :=
  let plain := (text.drop 1).head?
  if flags.verbose then (lookPast false (text.drop 1)).or plain else plain

/-!
# Runs
-/

def takeRun (flags : Flags) (keep : Char -> Bool) : Nat -> Text -> Text × Text
  | 0, text => ([], text)
  | _ + 1, [] => ([], [])
  | fuel + 1, c :: rest =>
      if keep c then
        let (run, after) := takeRun flags keep fuel (flags.skip rest)
        (c :: run, after)
      else
        ([], c :: rest)

def Flags.run (flags : Flags) (keep : Char -> Bool) (text : Text) : Text × Text :=
  takeRun flags keep text.length text

def countLimit : Nat := 4294967295

def readCount (flags : Flags) (text : Text) : Except PatternError (Nat × Text) :=
  let (digits, after) := flags.run Char.isDigit (text.dropWhile Text.isBlank)
  let value := Text.decimalValue digits
  if digits.isEmpty || value > countLimit then
    .error .repetitionCount
  else
    .ok (value, after.dropWhile Text.isBlank)

end Pattern
end LinePalette
