import LinePalette.Json.Value

/-!
# Reading JSON

The reader goes through a text from left to right and reports the first fault it
meets: the text ends too early, or it is malformed.  Nesting is limited, numbers
must not be too large for a double-precision number, and half of a surrogate
pair is no character.
-/

namespace LinePalette

/-- Why a text cannot be decoded: cut off, malformed, or well formed but of the wrong shape. -/
inductive JsonFault where
  | cutOff
  | malformed
  | wrongShape
deriving Repr, DecidableEq

namespace Json

def isSpace (c : Char) : Bool := c == ' ' || c == '\n' || c == '\t' || c == '\r'

def skipSpaces (text : Text) : Text := text.dropWhile isSpace

/-!
# Strings
-/

def hexDigitValue? (c : Char) : Option Nat :=
  if '0' ≤ c ∧ c ≤ '9' then some (c.toNat - '0'.toNat)
  else if 'a' ≤ c ∧ c ≤ 'f' then some (c.toNat - 'a'.toNat + 10)
  else if 'A' ≤ c ∧ c ≤ 'F' then some (c.toNat - 'A'.toNat + 10)
  else none

/-- Four hexadecimal digits.  With fewer than four bytes left the text has ended too early. -/
def readUnit (text : Text) : Except JsonFault (Nat × Text) :=
  if Text.byteSize text < 4 then
    .error .cutOff
  else
    match text with
    | a :: b :: c :: d :: rest =>
        match hexDigitValue? a, hexDigitValue? b, hexDigitValue? c, hexDigitValue? d with
        | some a, some b, some c, some d => .ok (((a * 16 + b) * 16 + c) * 16 + d, rest)
        | _, _, _, _ => .error .malformed
    | _ => .error .malformed

def isLeadingSurrogate (unit : Nat) : Bool := 0xD800 ≤ unit && unit ≤ 0xDBFF

def isTrailingSurrogate (unit : Nat) : Bool := 0xDC00 ≤ unit && unit ≤ 0xDFFF

/-- The character of a numeric escape whose text starts after its letter. -/
def readCodeEscape (text : Text) : Except JsonFault (Char × Text) := do
  let (unit, rest) ← readUnit text
  if isTrailingSurrogate unit then
    .error .malformed
  else if isLeadingSurrogate unit then
    match rest with
    | [] => .error .cutOff
    | '\\' :: [] => .error .cutOff
    | '\\' :: 'u' :: rest => do
        let (second, rest) ← readUnit rest
        if isTrailingSurrogate second then
          .ok (Char.ofNat (0x10000 + (unit - 0xD800) * 0x400 + (second - 0xDC00)), rest)
        else
          .error .malformed
    | _ => .error .malformed
  else
    .ok (Char.ofNat unit, rest)

def readEscape (text : Text) : Except JsonFault (Char × Text) :=
  match text with
  | [] => .error .cutOff
  | c :: rest =>
      match c with
      | '"' => .ok ('"', rest)
      | '\\' => .ok ('\\', rest)
      | '/' => .ok ('/', rest)
      | 'b' => .ok ('\x08', rest)
      | 'f' => .ok ('\x0C', rest)
      | 'n' => .ok ('\n', rest)
      | 'r' => .ok ('\r', rest)
      | 't' => .ok ('\t', rest)
      | 'u' => readCodeEscape rest
      | _ => .error .malformed

/-- A string whose text starts after its opening quote. -/
def readStringFrom : Nat -> Text -> Except JsonFault (Text × Text)
  | 0, _ => .error .cutOff
  | _ + 1, [] => .error .cutOff
  | fuel + 1, c :: rest =>
      if c = '"' then
        .ok ([], rest)
      else if c = '\\' then do
        let (decoded, rest) ← readEscape rest
        let (text, after) ← readStringFrom fuel rest
        .ok (decoded :: text, after)
      else if c.toNat < 0x20 then
        .error .malformed
      else do
        let (text, after) ← readStringFrom fuel rest
        .ok (c :: text, after)

def readString (text : Text) : Except JsonFault (Text × Text) :=
  readStringFrom (text.length + 1) text

/-!
# Numbers

A number is an optional minus, an integer without a leading zero, an optional
fraction and an optional exponent.  Its size is judged by its first digits as
long as they fit into 64 bits, scaled by a power of ten.
-/

def digitsOf (text : Text) : Text := text.takeWhile Char.isDigit

def maxWhole : Nat := 18446744073709551615

/-- The nearest number with a significand of 53 bits, a half going to the even neighbour. -/
def roundToDouble (n : Nat) : Nat :=
  let shift := n.log2 + 1 - 53
  let unit := Nat.pow 2 shift
  let low := n / unit
  let rest := n % unit
  let up := 2 * rest > unit ∨ (2 * rest = unit ∧ low % 2 = 1)
  (if up then low + 1 else low) * unit

/-- The size from which on a product no longer rounds to a double-precision number. -/
def overflowBound : Nat := Nat.pow 2 1024 - Nat.pow 2 970

def overflows (significand : Nat) (exponent : Int) : Bool :=
  if significand = 0 ∨ exponent < 0 then
    false
  else if 308 < exponent then
    true
  else
    roundToDouble significand * roundToDouble (Nat.pow 10 exponent.toNat) ≥ overflowBound

/-- The value of the digits that fit after `value`, and how many were taken. -/
def gather (value taken : Nat) : Text -> Nat × Nat
  | [] => (value, taken)
  | digit :: digits =>
      let next := value * 10 + (digit.toNat - '0'.toNat)
      if next > maxWhole then (value, taken) else gather next (taken + 1) digits

def isTooLarge (whole fraction exponent : Text) (exponentNegative : Bool) : Bool :=
  let (head, takenWhole) := gather 0 0 whole
  let (significand, takenFraction) := gather head 0 fraction
  let base : Int := (whole.length - takenWhole : Nat) - (takenFraction : Int)
  let power : Int := Text.decimalValue exponent
  overflows significand (if exponentNegative then base - power else base + power)

def readFraction (text : Text) : Except JsonFault (Text × Text × Text) :=
  match text with
  | '.' :: rest =>
      let digits := digitsOf rest
      if digits.isEmpty then
        .error (if rest.isEmpty then .cutOff else .malformed)
      else
        .ok (digits, '.' :: digits, rest.drop digits.length)
  | _ => .ok ([], [], text)

def readExponent (text : Text) : Except JsonFault (Text × Bool × Text × Text) :=
  match text with
  | mark :: rest =>
      if mark = 'e' ∨ mark = 'E' then
        let (sign, unsigned) :=
          match rest with
          | '+' :: unsigned => (['+'], unsigned)
          | '-' :: unsigned => (['-'], unsigned)
          | _ => ([], rest)
        let digits := digitsOf unsigned
        if digits.isEmpty then
          .error (if unsigned.isEmpty then .cutOff else .malformed)
        else
          .ok (digits, sign = ['-'], mark :: sign ++ digits, unsigned.drop digits.length)
      else
        .ok ([], false, [], text)
  | [] => .ok ([], false, [], [])

def readMagnitude (text : Text) : Except JsonFault (Text × Text) := do
  let whole := digitsOf text
  match whole with
  | [] => .error (if text.isEmpty then .cutOff else .malformed)
  | '0' :: _ :: _ => .error .malformed
  | _ => do
      let (fraction, fractionText, afterFraction) ← readFraction (text.drop whole.length)
      let (exponent, negative, exponentText, after) ← readExponent afterFraction
      if isTooLarge whole fraction exponent negative then
        .error .malformed
      else
        .ok (whole ++ fractionText ++ exponentText, after)

def readNumber (text : Text) : Except JsonFault (Text × Text) :=
  match text with
  | '-' :: rest => (readMagnitude rest).map fun (literal, after) => ('-' :: literal, after)
  | _ => readMagnitude text

/-!
# Values
-/

def readWord : Text -> Text -> Except JsonFault Text
  | [], text => .ok text
  | _ :: _, [] => .error .cutOff
  | w :: word, c :: rest => if c = w then readWord word rest else .error .malformed

inductive Turn where
  | item (text : Text)
  | done (text : Text)

def nextItem (first : Bool) (text : Text) : Except JsonFault Turn :=
  match skipSpaces text with
  | [] => .error .cutOff
  | ']' :: rest => .ok (.done rest)
  | c :: rest =>
      if first then
        .ok (.item (c :: rest))
      else if c = ',' then
        match skipSpaces rest with
        | [] => .error .cutOff
        | ']' :: _ => .error .malformed
        | after => .ok (.item after)
      else
        .error .malformed

def nextName (first : Bool) (text : Text) : Except JsonFault Turn :=
  match skipSpaces text with
  | [] => .error .cutOff
  | '\x7d' :: rest => .ok (.done rest)
  | c :: rest =>
      if first then
        if c = '"' then .ok (.item rest) else .error .malformed
      else if c = ',' then
        match skipSpaces rest with
        | [] => .error .cutOff
        | '"' :: after => .ok (.item after)
        | _ => .error .malformed
      else
        .error .malformed

def readColon (text : Text) : Except JsonFault Text :=
  match skipSpaces text with
  | [] => .error .cutOff
  | ':' :: rest => .ok rest
  | _ => .error .malformed

/-- How many containers may be nested, one more than that being too many. -/
def nestingLimit : Nat := 127

mutual

def readValue (room : Nat) : Nat -> Text -> Except JsonFault (Json × Text)
  | 0, _ => .error .cutOff
  | fuel + 1, text =>
      match skipSpaces text with
      | [] => .error .cutOff
      | c :: rest =>
          if c = 'n' then (readWord "ull".toList rest).map fun after => (null, after)
          else if c = 't' then (readWord "rue".toList rest).map fun after => (bool true, after)
          else if c = 'f' then (readWord "alse".toList rest).map fun after => (bool false, after)
          else if c = '"' then (readString rest).map fun (text, after) => (string text, after)
          else if c = '-' ∨ c.isDigit then
            (readNumber (c :: rest)).map fun (literal, after) => (number literal, after)
          else if c = '[' then
            match room with
            | 0 => .error .malformed
            | room + 1 =>
                (readItems room fuel true rest).map fun (items, after) => (array items, after)
          else if c = '\x7b' then
            match room with
            | 0 => .error .malformed
            | room + 1 =>
                (readMembers room fuel true rest).map fun (members, after) =>
                  (object members, after)
          else
            .error .malformed

def readItems (room : Nat) : Nat -> Bool -> Text -> Except JsonFault (List Json × Text)
  | 0, _, _ => .error .cutOff
  | fuel + 1, first, text => do
      match ← nextItem first text with
      | .done rest => .ok ([], rest)
      | .item rest =>
          let (item, after) ← readValue room fuel rest
          let (items, after) ← readItems room fuel false after
          .ok (item :: items, after)

def readMembers (room : Nat) :
    Nat -> Bool -> Text -> Except JsonFault (List (Text × Json) × Text)
  | 0, _, _ => .error .cutOff
  | fuel + 1, first, text => do
      match ← nextName first text with
      | .done rest => .ok ([], rest)
      | .item rest =>
          let (name, after) ← readString rest
          let afterColon ← readColon after
          let (value, after) ← readValue room fuel afterColon
          let (members, after) ← readMembers room fuel false after
          .ok ((name, value) :: members, after)

end

def readFuel (text : Text) : Nat := 2 * text.length + 2

end Json
end LinePalette
