import LinePalette.Unicode.Query

/-!
# Regular expressions

The abstract form of a pattern, after flags have been worked into it: character
sets already know about case, and assertions about lines and words.
-/

namespace LinePalette

/-!
# Assertions

An assertion looks at the characters on both sides of a position and consumes
nothing.
-/

inductive WordEdge where
  | boundary
  | noBoundary
  | start
  | stop
  | startHalf
  | stopHalf
deriving Repr, DecidableEq

inductive Assertion where
  | textStart
  | textStop
  | lineStart
  | lineStop
  | crlfLineStart
  | crlfLineStop
  | word (edge : WordEdge) (ascii : Bool)
deriving Repr, DecidableEq

def isAsciiWord (c : Char) : Bool := c.isAlphanum || c == '_'

def isWordCharacter (ascii : Bool) (c : Char) : Bool :=
  isAsciiWord c || (!ascii && c.toNat ≥ 0x80 && Unicode.wordCharacters.contains c.toNat)

def WordEdge.holds (edge : WordEdge) (before after : Bool) : Bool :=
  match edge with
  | boundary => before != after
  | noBoundary => before == after
  | start => !before && after
  | stop => before && !after
  | startHalf => !before
  | stopHalf => !after

def Assertion.holds (assertion : Assertion) (before after : Option Char) : Bool :=
  match assertion with
  | textStart => before.isNone
  | textStop => after.isNone
  | lineStart => before.isNone || before == some '\n'
  | lineStop => after.isNone || after == some '\n'
  | crlfLineStart =>
      before.isNone || before == some '\n' || (before == some '\r' && after != some '\n')
  | crlfLineStop =>
      after.isNone || after == some '\r' || (after == some '\n' && before != some '\r')
  | word edge ascii =>
      edge.holds (before.any (isWordCharacter ascii)) (after.any (isWordCharacter ascii))

/-!
# Expressions
-/

inductive Regex where
  | empty
  | oneOf (set : CharSet)
  | look (assertion : Assertion)
  | group (index : Nat) (inner : Regex)
  | seq (first second : Regex)
  | alt (first second : Regex)
  | rep (inner : Regex) (low : Nat) (high : Option Nat) (greedy : Bool)
deriving Repr, DecidableEq

namespace Regex

/-- Whether every match of the expression is empty, as far as its form shows. -/
def isZeroWidth : Regex -> Bool
  | empty => true
  | oneOf _ => false
  | look _ => true
  | group _ inner => inner.isZeroWidth
  | seq first second => first.isZeroWidth && second.isZeroWidth
  | alt first second => first.isZeroWidth && second.isZeroWidth
  | rep inner _ high _ => inner.isZeroWidth && high.isSome

/--
Repetition of an expression.  Repeating something of zero width more than once
adds nothing, repeating zero times leaves nothing, and repeating exactly once is
the expression itself.
-/
def repeated (inner : Regex) (low : Nat) (high : Option Nat) (greedy : Bool) : Regex :=
  let low' := if inner.isZeroWidth then min low 1 else low
  let high' := if inner.isZeroWidth then some (min (high.getD 1) 1) else high
  if low' = 0 ∧ high' = some 0 then
    empty
  else if low' = 1 ∧ high' = some 1 then
    inner
  else
    rep inner low' high' greedy

def sequence : List Regex -> Regex
  | [] => empty
  | [only] => only
  | first :: rest => seq first (sequence rest)

/-- A choice between expressions, earlier ones preferred. -/
def choice : List Regex -> Regex
  | [] => empty
  | [only] => only
  | first :: rest => alt first (choice rest)

def highestGroup : Regex -> Nat
  | empty => 0
  | oneOf _ => 0
  | look _ => 0
  | group index inner => max index inner.highestGroup
  | seq first second => max first.highestGroup second.highestGroup
  | alt first second => max first.highestGroup second.highestGroup
  | rep inner _ _ _ => inner.highestGroup

/-!
# Size

The room an expression takes when its repetitions are written out, in bytes.
Sets of characters beyond ASCII take room for the byte sequences of their
ranges.  The room is an estimate: alternatives of single characters are not
folded into one set and common beginnings are not shared before it is counted, so
a pattern close to the limit may be judged otherwise than by an exact count.
-/

/-- Room for the states that read one character of the set, estimated by its ranges. -/
def setSize (set : CharSet) : Nat :=
  if set.isAscii then
    64 + 8 * set.ranges.length
  else
    64 + 70 * set.ranges.length

/-- An estimate of the room for the whole expression. -/
def size : Regex -> Nat
  | empty => 32
  | oneOf set =>
      match set.ranges with
      | [(low, high)] => if low = high then 32 * (Char.ofNat low).utf8Size else setSize set
      | _ => setSize set
  | look _ => 32
  | group _ inner => 64 + inner.size
  | seq first second => first.size + second.size
  | alt first second => 64 + first.size + second.size
  | rep inner low high _ =>
      match high with
      | none => (max low 1) * inner.size + 96
      | some high => low * inner.size + (high - low) * (inner.size + 40) + 32

def sizeLimit : Nat := 10485760

end Regex
end LinePalette
