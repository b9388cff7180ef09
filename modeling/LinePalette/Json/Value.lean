import LinePalette.Text.Basic

/-!
# JSON values

A JSON number keeps the characters it was written with.  Members of an object
keep their order, and a name may occur more than once.
-/

namespace LinePalette

inductive Json where
  | null
  | bool (value : Bool)
  | number (literal : Text)
  | string (text : Text)
  | array (items : List Json)
  | object (members : List (Text × Json))
deriving Repr

namespace Json

def ofNat (n : Nat) : Json := number (Text.ofNat n)

def ofTexts (texts : List Text) : Json := array (texts.map string)

/-!
# Compact text

The compact text of a value has no blanks.  In strings, quotes, backslashes and
control characters are escaped, and nothing else is.
-/

def hexDigit (n : Nat) : Char :=
  if n < 10 then Char.ofNat ('0'.toNat + n) else Char.ofNat ('a'.toNat + (n - 10))

def escapeChar (c : Char) : Text :=
  if c = '"' then ['\\', '"']
  else if c = '\\' then ['\\', '\\']
  else if c = '\x08' then ['\\', 'b']
  else if c = '\x0C' then ['\\', 'f']
  else if c = '\n' then ['\\', 'n']
  else if c = '\r' then ['\\', 'r']
  else if c = '\t' then ['\\', 't']
  else if c.toNat < 0x20 then
    ['\\', 'u', '0', '0', hexDigit (c.toNat / 16), hexDigit (c.toNat % 16)]
  else [c]

def quote (text : Text) : Text := ['"'] ++ text.flatMap escapeChar ++ ['"']

mutual

def compact : Json -> Text
  | null => "null".toList
  | bool value => if value then "true".toList else "false".toList
  | number literal => literal
  | string text => quote text
  | array items => ['['] ++ compactItems items ++ [']']
  | object members => ['\x7b'] ++ compactMembers members ++ ['\x7d']

def compactItems : List Json -> Text
  | [] => []
  | [item] => compact item
  | item :: next :: items => compact item ++ [','] ++ compactItems (next :: items)

def compactMembers : List (Text × Json) -> Text
  | [] => []
  | [(name, value)] => quote name ++ [':'] ++ compact value
  | (name, value) :: next :: members =>
      quote name ++ [':'] ++ compact value ++ [','] ++ compactMembers (next :: members)

end

end Json
end LinePalette
