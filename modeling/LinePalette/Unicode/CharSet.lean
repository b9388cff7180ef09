import LinePalette.Text.Blank

/-!
# Sets of characters

A set of characters is a list of ranges of code points.  The operations keep the
list sorted, without overlaps and without neighbouring ranges that touch, so a
set has one representation.
-/

namespace LinePalette

structure CharSet where
  ranges : List (Nat × Nat)
deriving Repr, DecidableEq

namespace CharSet

def lastCode : Nat := 0x10FFFF

def empty : CharSet := ⟨[]⟩

def contains (set : CharSet) (code : Nat) : Bool :=
  set.ranges.any fun (low, high) => low ≤ code && code ≤ high

/-!
# Adding ranges

A new range swallows every range that it overlaps or touches.
-/

def insertRange (low high : Nat) : List (Nat × Nat) -> List (Nat × Nat)
  | [] => [(low, high)]
  | (a, b) :: rest =>
      if high + 1 < a then
        (low, high) :: (a, b) :: rest
      else if b + 1 < low then
        (a, b) :: insertRange low high rest
      else
        insertRange (min a low) (max b high) rest

def insert (set : CharSet) (low high : Nat) : CharSet :=
  ⟨insertRange low high set.ranges⟩

def range (low high : Nat) : CharSet := ⟨[(low, high)]⟩

def singleton (c : Char) : CharSet := range c.toNat c.toNat

def union (left right : CharSet) : CharSet :=
  right.ranges.foldl (fun set (low, high) => set.insert low high) left

def unions (sets : List CharSet) : CharSet := sets.foldl union empty

/-!
# Complement and what follows from it
-/

/-- The code points from `next` on that lie in none of the sorted ranges. -/
def gaps (next : Nat) : List (Nat × Nat) -> List (Nat × Nat)
  | [] => if next ≤ lastCode then [(next, lastCode)] else []
  | (a, b) :: rest =>
      if next < a then
        (next, a - 1) :: gaps (b + 1) rest
      else
        gaps (b + 1) rest

def complement (set : CharSet) : CharSet := ⟨gaps 0 set.ranges⟩

def inter (left right : CharSet) : CharSet :=
  (left.complement.union right.complement).complement

def diff (left right : CharSet) : CharSet := left.inter right.complement

def symmDiff (left right : CharSet) : CharSet :=
  (left.diff right).union (right.diff left)

def isAscii (set : CharSet) : Bool :=
  set.ranges.all fun (_, high) => high < 0x80

/-!
# Reading tables

A table of code points is a text of hexadecimal ranges such as `41-5A 5F`.
-/

def hexDigitValue (c : Char) : Nat :=
  if '0' ≤ c ∧ c ≤ '9' then
    c.toNat - '0'.toNat
  else if 'a' ≤ c ∧ c ≤ 'f' then
    c.toNat - 'a'.toNat + 10
  else
    c.toNat - 'A'.toNat + 10

def hexValue (digits : Text) : Nat :=
  digits.foldl (fun value digit => value * 16 + hexDigitValue digit) 0

def rangeOfText (text : Text) : Nat × Nat :=
  match Text.splitOn '-' text with
  | [low, high] => (hexValue low, hexValue high)
  | _ => (hexValue text, hexValue text)

def ofTable (table : String) : CharSet :=
  ⟨(Text.words table.toList).map rangeOfText⟩

end CharSet

namespace Unicode

/-- A set of code points with the names it goes by, in lower case without separators. -/
structure Table where
  names : List String
  codes : String

def Table.set (table : Table) : CharSet := CharSet.ofTable table.codes

def Table.find? (tables : List Table) (name : Text) : Option Table :=
  tables.find? fun table => table.names.any fun known => known.toList == name

def Table.lookup? (tables : List Table) (name : Text) : Option CharSet :=
  (Table.find? tables name).map Table.set

end Unicode
end LinePalette
