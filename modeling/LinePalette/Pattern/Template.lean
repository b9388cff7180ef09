import LinePalette.Pattern.Match

/-!
# Replacement templates

In a template `$$` stands for a dollar sign, `$&` for the match, a dollar sign
with a backtick for the text before the match, one with an apostrophe for the
text after it, and `$1` to `$99` for capture groups.  Two digits are read as one
number when the match has that many groups.  Every other dollar sign stands for
itself.
-/

namespace LinePalette
namespace Template

inductive Piece where
  | literal (c : Char)
  | before
  | after
  | group (number : Nat)
deriving Repr, DecidableEq

/-!
# Reading templates
-/

def digitValue (c : Char) : Nat := c.toNat - '0'.toNat

/-- The group that the digits name among `count` parts, and how many digits it takes. -/
def groupReference? (count : Nat) (first : Char) (rest : Text) : Option (Piece × Nat) :=
  let one := digitValue first
  let single : Option (Piece × Nat) :=
    if 1 ≤ one ∧ one < count then some (.group one, 1) else none
  match rest with
  | second :: _ =>
      let two := one * 10 + digitValue second
      if second.isDigit ∧ 1 ≤ two ∧ two < count then some (.group two, 2) else single
  | [] => single

/-- What a dollar sign before the given text stands for, and how much of the text it takes. -/
def reference? (count : Nat) (text : Text) : Option (Piece × Nat) :=
  match text with
  | [] => none
  | c :: rest =>
      if c = '$' then some (.literal '$', 1)
      else if c = '&' then some (.group 0, 1)
      else if c.toNat = 0x60 then some (.before, 1)
      else if c = '\'' then some (.after, 1)
      else if c.isDigit then groupReference? count c rest
      else none

/-- The pieces of a template whose first `skip` characters have been used. -/
def piecesFrom (count : Nat) : Nat -> Text -> List Piece
  | _, [] => []
  | skip + 1, _ :: rest => piecesFrom count skip rest
  | 0, c :: rest =>
      if c = '$' then
        match reference? count rest with
        | some (piece, used) => piece :: piecesFrom count used rest
        | none => .literal c :: piecesFrom count 0 rest
      else
        .literal c :: piecesFrom count 0 rest

def pieces (count : Nat) (template : Text) : List Piece := piecesFrom count 0 template

/-!
# Filling in
-/

def Piece.fill (line : Text) (found : Match) : Piece -> Text
  | literal c => [c]
  | before => line.take found.whole.start
  | after => line.drop found.whole.stop
  | group number =>
      match found.group? number with
      | some span => span.of line
      | none => []

def expand (template line : Text) (found : Match) : Text :=
  (pieces found.count template).flatMap (Piece.fill line found)

def splice (line : Text) (replacement : Match -> Text) : Nat -> List Match -> Text
  | position, [] => line.drop position
  | position, found :: later =>
      Text.slice position found.whole.start line ++ replacement found ++
        splice line replacement found.whole.stop later

end Template

def Pattern.replace (pattern : Pattern) (line template : Text) (everywhere : Bool) : Text :=
  let found := pattern.matchesIn line
  let replaced := if everywhere then found else found.take 1
  Template.splice line (Template.expand template line) 0 replaced

end LinePalette
