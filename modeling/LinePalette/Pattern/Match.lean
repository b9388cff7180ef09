import LinePalette.Pattern.Reader
import LinePalette.Pattern.Search

/-!
# Patterns and their matches

A pattern is a text that has been read as a regular expression and written out
as a program.  Its matches in a text do not overlap and come from left to right;
an empty match right behind the previous match does not count.
-/

namespace LinePalette

/-- A stretch of a text, by character positions. -/
structure Span where
  start : Nat
  stop : Nat
  start_le_stop : start ≤ stop
deriving DecidableEq

namespace Span

def ofEnds? (start stop : Nat) : Option Span :=
  if h : start ≤ stop then some { start := start, stop := stop, start_le_stop := h } else none

def isEmpty (span : Span) : Bool := span.start == span.stop

def of (span : Span) (text : Text) : Text := Text.slice span.start span.stop text

end Span

/-- A match with its capture groups in order, absent where a group took no part. -/
structure Match where
  whole : Span
  groups : List (Option Span)
deriving DecidableEq

namespace Match

def count (found : Match) : Nat := found.groups.length + 1

/-- The span of a group; number zero is the whole match. -/
def group? (found : Match) : Nat -> Option Span
  | 0 => some found.whole
  | n + 1 => (found.groups[n]?).join

end Match

structure Pattern where
  source : Text
  groupCount : Nat
  program : Program

namespace Pattern

def compile (source : Text) : Except PatternError Pattern := do
  let regex ← readRegex source
  .ok
    { source := source,
      groupCount := regex.highestGroup,
      program := Program.ofRegex regex }

def groupSpan? (marks : List (Nat × Nat)) (group : Nat) : Option Span :=
  match marks.lookup (Program.openSlot group), marks.lookup (Program.closeSlot group) with
  | some start, some stop => Span.ofEnds? start stop
  | _, _ => none

def matchOfFinding? (groupCount : Nat) (finding : Finding) : Option Match :=
  (Span.ofEnds? finding.start finding.stop).map fun whole =>
    { whole := whole,
      groups := (List.range groupCount).map fun k => groupSpan? finding.marks (k + 1) }

def find? (pattern : Pattern) (text : Text) (start : Nat) : Option Match :=
  if start ≤ text.length then
    (pattern.program.search text start).bind (matchOfFinding? pattern.groupCount)
  else
    none

def isMatch (pattern : Pattern) (text : Text) : Bool := (pattern.find? text 0).isSome

/-!
# Successive matches
-/

/--
The next match from a position.  When the previous match stops there, an empty
match at the position is passed over.
-/
def nextMatch? (pattern : Pattern) (text : Text) (start : Nat) (behindMatch : Bool) :
    Option Match :=
  match pattern.find? text start with
  | none => none
  | some found =>
      if behindMatch && found.whole.isEmpty && found.whole.start == start then
        pattern.find? text (start + 1)
      else
        some found

def matchesFrom (pattern : Pattern) (text : Text) : Nat -> Nat -> Bool -> List Match
  | 0, _, _ => []
  | fuel + 1, start, behindMatch =>
      match pattern.nextMatch? text start behindMatch with
      | none => []
      | some found => found :: matchesFrom pattern text fuel found.whole.stop true

/-- All matches in a text; every one but the first stops further right than the one before. -/
def matchesIn (pattern : Pattern) (text : Text) : List Match :=
  pattern.matchesFrom text (text.length + 2) 0 false

end Pattern
end LinePalette
