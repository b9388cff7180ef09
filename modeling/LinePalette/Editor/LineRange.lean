import LinePalette.Editor.Error

/-!
# Line ranges

A range names lines counted from one.  Its ends may be zero, negative or past the
last line until a command checks them against a buffer.  Line numbers are bounded
by what 64 signed bits can hold.
-/

namespace LinePalette

def maxLineNumber : Nat := 9223372036854775807

def lineNumber (count : Nat) : Int := (min count maxLineNumber : Nat)

/-!
# Ranges
-/

/-- The first and the last line of a range, both counted from one. -/
structure LineRange where
  start : Int
  stop : Int
deriving Repr, DecidableEq

namespace LineRange

def single (line : Int) : LineRange := { start := line, stop := line }

/-- The first and last line counted from zero, when the range lies in a buffer of that length. -/
def indices (range : LineRange) (length : Nat) : Except EditError (Nat × Nat) :=
  if range.start < 1 ∨ lineNumber length < range.stop ∨ range.stop < range.start then
    .error .invalidAddress
  else
    .ok ((range.start - 1).toNat, (range.stop - 1).toNat)

end LineRange
end LinePalette
