import LinePalette.Pattern.Scan

/-!
# Single elements of a pattern

A single element is a character, a set of characters or an assertion, as written
by one character or by an escape.  Which set an escape stands for depends on the
flags, and so does whether it is allowed: without the Unicode flag only sets of
ASCII characters are, since others could split the encoding of a character.
-/

namespace LinePalette
namespace Pattern

inductive Element where
  /-- A character, and whether it was written as a byte in two hexadecimal digits. -/
  | char (c : Char) (asByte : Bool)
  | oneOf (set : CharSet)
  | look (assertion : Assertion)
deriving Repr, DecidableEq

/-!
# Case
-/

def asciiFoldClosure (set : CharSet) : CharSet :=
  (List.range 26).foldl
    (fun closed k =>
      let upper := 'A'.toNat + k
      let lower := 'a'.toNat + k
      if set.contains upper || set.contains lower then
        (closed.insert upper upper).insert lower lower
      else
        closed)
    set

def Flags.fold (flags : Flags) (set : CharSet) : CharSet :=
  if flags.ignoreCase then
    if flags.unicode then Unicode.foldClosure set else asciiFoldClosure set
  else
    set

/-- The set after case and negation have been applied, if the flags allow it. -/
def Flags.finish (flags : Flags) (negated : Bool) (set : CharSet) :
    Except PatternError CharSet :=
  let folded := flags.fold set
  if flags.unicode then
    .ok (if negated then folded.complement else folded)
  else if negated || !folded.isAscii then
    .error .notText
  else
    .ok folded

/-!
# Hexadecimal escapes
-/

def isHexDigit (c : Char) : Bool :=
  c.isDigit || ('a' ≤ c && c ≤ 'f') || ('A' ≤ c && c ≤ 'F')

def charOfCode? (code : Nat) : Option Char :=
  if code < 0xD800 ∨ (0xDFFF < code ∧ code < 0x110000) then some (Char.ofNat code) else none

def readDigits (flags : Flags) : Nat -> Text -> Option (Text × Text)
  | 0, text => some ([], text)
  | _ + 1, [] => none
  | count + 1, c :: rest =>
      if isHexDigit c then
        (readDigits flags count (flags.skip rest)).map fun (digits, after) => (c :: digits, after)
      else
        none

def readHex (flags : Flags) (width : Nat) (text : Text) : Except PatternError (Element × Text) :=
  match text with
  | [] => .error .escape
  | '{' :: rest =>
      let (digits, after) := flags.run isHexDigit (flags.skip rest)
      match after, charOfCode? (CharSet.hexValue digits) with
      | '}' :: after, some c =>
          if digits.isEmpty then .error .escape else .ok (.char c false, flags.skip after)
      | _, _ => .error .escape
  | _ =>
      match readDigits flags width text with
      | none => .error .escape
      | some (digits, after) =>
          match charOfCode? (CharSet.hexValue digits) with
          | none => .error .escape
          | some c => .ok (.char c (width == 2), after)

/-!
# Property escapes
-/

/-- The two sides of the first place where the separator stands. -/
def cutAt? (separator : Text) : Text -> Option (Text × Text)
  | [] => none
  | c :: rest =>
      match Text.stripLeading? separator (c :: rest) with
      | some after => some ([], after)
      | none => (cutAt? separator rest).map fun (before, after) => (c :: before, after)

/-- The set a property in braces stands for, and whether its relation negates it. -/
def propertySet? (name : Text) : Option (CharSet × Bool) :=
  match cutAt? "!=".toList name with
  | some (key, value) => (Unicode.valued? key value).map (·, true)
  | none =>
      match (cutAt? ":".toList name).or (cutAt? "=".toList name) with
      | some (key, value) => (Unicode.valued? key value).map (·, false)
      | none => (Unicode.named? name).map (·, false)

def readProperty (flags : Flags) (negated : Bool) (text : Text) :
    Except PatternError (Element × Text) :=
  let named : Option (Text × Text) :=
    match text with
    | '{' :: rest =>
        match flags.run (· != '}') (flags.skip rest) with
        | (name, '}' :: after) => some (name, after)
        | _ => none
    | c :: rest => if c = '\\' then none else some ([c], flags.skip rest)
    | [] => none
  match named with
  | none => .error .escape
  | some (name, after) =>
      if !flags.unicode then
        .error .notText
      else
        match propertySet? name with
        | none => .error .unknownProperty
        | some (set, reversed) => do
            let finished ← flags.finish (negated != reversed) set
            .ok (.oneOf finished, after)

/-!
# Short classes
-/

def asciiDigits : CharSet := CharSet.range '0'.toNat '9'.toNat

def asciiBlanks : CharSet := ⟨[(9, 13), (32, 32)]⟩

def asciiWordCharacters : CharSet :=
  ⟨[('0'.toNat, '9'.toNat), ('A'.toNat, 'Z'.toNat), ('_'.toNat, '_'.toNat),
    ('a'.toNat, 'z'.toNat)]⟩

/-- The set of a short class, wide under the Unicode flag and ASCII without it. -/
def shortClass (flags : Flags) (negated : Bool) (wide ascii : CharSet) :
    Except PatternError CharSet :=
  if flags.unicode then
    .ok (if negated then wide.complement else wide)
  else if negated then
    .error .notText
  else
    .ok ascii

/-!
# Word boundaries with a name
-/

def isEdgeNameCharacter (c : Char) : Bool :=
  ('a' ≤ c && c ≤ 'z') || ('A' ≤ c && c ≤ 'Z') || c == '-'

def edgeOfName? (name : Text) : Option WordEdge :=
  if name == "start".toList then some .start
  else if name == "end".toList then some .stop
  else if name == "start-half".toList then some .startHalf
  else if name == "end-half".toList then some .stopHalf
  else none

/--
What follows a word boundary.  A brace with a letter or hyphen in it names a kind
of boundary; any other brace is a repetition and is left alone.
-/
def readEdge (flags : Flags) (text : Text) : Except PatternError (WordEdge × Text) :=
  match text with
  | '{' :: rest =>
      match flags.skip rest with
      | [] => .error .escape
      | c :: inner =>
          if isEdgeNameCharacter c then
            match flags.run isEdgeNameCharacter (c :: inner) with
            | (name, '}' :: after) =>
                match edgeOfName? name with
                | some edge => .ok (edge, after)
                | none => .error .escape
            | _ => .error .escape
          else
            .ok (.boundary, text)
  | _ => .ok (.boundary, text)

/-!
# Escapes
-/

def isEscapable (c : Char) : Bool :=
  c.toNat < 0x80 && !c.isAlphanum && c != '<' && c != '>'

def controlOf? (letter : Char) : Option Char :=
  match letter with
  | 'a' => some '\x07'
  | 'f' => some '\x0C'
  | 't' => some '\t'
  | 'n' => some '\n'
  | 'r' => some '\r'
  | 'v' => some '\x0B'
  | _ => none

def readEscape (flags : Flags) (text : Text) : Except PatternError (Element × Text) :=
  let short (negated : Bool) (wide ascii : CharSet) (after : Text) :
      Except PatternError (Element × Text) := do
    let set ← shortClass flags negated wide ascii
    .ok (.oneOf set, after)
  let edge (kind : WordEdge) : Element := .look (.word kind (!flags.unicode))
  match text with
  | [] => .error .escape
  | c :: rest =>
      match c with
      | 'x' => readHex flags 2 (flags.skip rest)
      | 'u' => readHex flags 4 (flags.skip rest)
      | 'U' => readHex flags 8 (flags.skip rest)
      | 'p' => readProperty flags false (flags.skip rest)
      | 'P' => readProperty flags true (flags.skip rest)
      | 'd' => short false Unicode.digits asciiDigits rest
      | 'D' => short true Unicode.digits asciiDigits rest
      | 's' => short false Unicode.blanks asciiBlanks rest
      | 'S' => short true Unicode.blanks asciiBlanks rest
      | 'w' => short false Unicode.wordCharacters asciiWordCharacters rest
      | 'W' => short true Unicode.wordCharacters asciiWordCharacters rest
      | 'A' => .ok (.look .textStart, rest)
      | 'z' => .ok (.look .textStop, rest)
      | 'b' => do
          let (kind, after) ← readEdge flags rest
          .ok (edge kind, after)
      | 'B' => .ok (edge .noBoundary, rest)
      | '<' => .ok (edge .start, rest)
      | '>' => .ok (edge .stop, rest)
      | _ =>
          match controlOf? c with
          | some control => .ok (.char control false, rest)
          | none => if isEscapable c then .ok (.char c false, rest) else .error .escape

end Pattern
end LinePalette
