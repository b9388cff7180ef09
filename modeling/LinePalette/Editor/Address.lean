import LinePalette.Editor.LineRange
import LinePalette.Pattern.Match
import LinePalette.Text.Blank

/-!
# Addresses

An address names a range of lines.  Resolving it does not check that the lines
exist; the command that uses the range decides.  A run of digits too long for a
line number is no number.
-/

namespace LinePalette

namespace Address

/-!
# Numbers
-/

/-- A run of leading digits with an optional sign, after blanks; what follows is ignored. -/
def leadingInteger? (text : Text) : Option Int :=
  let (negative, unsigned) :=
    match Text.trimStart text with
    | '-' :: rest => (true, rest)
    | '+' :: rest => (false, rest)
    | rest => (false, rest)
  let digits := unsigned.takeWhile Char.isDigit
  let value := Text.decimalValue digits
  if digits.isEmpty ∨ maxLineNumber < value then
    none
  else
    some (if negative then -(value : Int) else (value : Int))

/-!
# Searches
-/

inductive Wrap where
  | around
  | stop
deriving Repr, DecidableEq

/-- The lines a search visits, counted from zero, in order. -/
def searchOrder (length : Nat) (reference : Int) (wrap : Wrap) : List Nat :=
  let behind := (reference + 1).toNat
  let wrapped :=
    match wrap with
    | .around => if reference < 0 then 0 else min behind length
    | .stop => 0
  List.range' behind (length - behind) ++ List.range wrapped

def searchLine (pattern : Pattern) (lines : List Text) (reference : Int) (wrap : Wrap) :
    Except EditError Int :=
  match (searchOrder lines.length reference wrap).find? fun index =>
      (lines[index]?).any pattern.isMatch with
  | some index => .ok (lineNumber index + 1)
  | none => .error .noMatch

def search (source : Text) (lines : List Text) (reference : Int) (wrap : Wrap) :
    Except EditError Int :=
  match Pattern.compile source with
  | .error _ => .error .invalidAddressRegex
  | .ok pattern => searchLine pattern lines reference wrap

/-!
# Single addresses and ranges
-/

def slashed? (text : Text) : Option Text :=
  (Text.stripLeading? ['/'] text).bind (Text.stripTrailing? ['/'])

def resolveOne (lines : List Text) (text : Text) (reference : Int) (wrap : Wrap) :
    Except EditError Int :=
  if text = [] ∨ text = ['.'] then
    .ok (reference + 1)
  else if text = ['$'] then
    .ok (lineNumber lines.length)
  else
    match leadingInteger? text with
    | some number => .ok number
    | none =>
        match slashed? text with
        | some source => search source lines reference wrap
        | none => .error .invalidAddress

/-- A side of a two-sided address, or what stands for it when it is empty. -/
def sideOr (default side : Text) : Text := if side = [] then default else side

/-- A two-sided address; the right side is relative to the left one and never wraps. -/
def resolvePair (lines : List Text) (left right : Text) (cursor : Int) :
    Except EditError LineRange := do
  let start ← resolveOne lines left cursor .around
  let stop ← resolveOne lines right (start - 1) .stop
  if stop < start then .error .invalidRange else .ok { start := start, stop := stop }

def resolve (lines : List Text) (text : Text) (cursor : Nat) : Except EditError LineRange :=
  let current := lineNumber cursor
  if text = [] then
    .ok (LineRange.single (current + 1))
  else if text = [','] ∨ text = ['%'] then
    .ok { start := 1, stop := max (lineNumber lines.length) 1 }
  else
    match Text.splitOn ',' text with
    | left :: right :: _ =>
        resolvePair lines (sideOr ['1'] left) (sideOr ['$'] right) current
    | _ => (resolveOne lines text current .around).map LineRange.single

end Address
end LinePalette
