import LinePalette.Text.Basic

/-!
# Commands

A command line is an address, a letter and a tail.  Letters between slashes
belong to a pattern in the address, so the command letter is the first ASCII
letter that an even number of slashes precedes.
-/

namespace LinePalette

structure Command where
  address : Text
  letter : Char
  tail : Text
deriving Repr, DecidableEq

namespace Command

def defaultLetter : Char := 'p'

/-- The text before the first letter outside slashes, the letter, and the text after it. -/
def splitAtLetter? (inPattern : Bool) : Text -> Option (Text × Char × Text)
  | [] => none
  | c :: rest =>
      if c = '/' then
        (splitAtLetter? (!inPattern) rest).map fun (before, found) => (c :: before, found)
      else if !inPattern && c.isAlpha then
        some ([], c, rest)
      else
        (splitAtLetter? inPattern rest).map fun (before, found) => (c :: before, found)

/-- The command of a trimmed line; an empty line holds none. -/
def parse? (line : Text) : Option Command :=
  match splitAtLetter? false line with
  | some (address, letter, tail) =>
      some { address := address, letter := letter, tail := tail }
  | none =>
      if line = [] then
        none
      else
        some { address := line, letter := defaultLetter, tail := [] }

end Command
end LinePalette
