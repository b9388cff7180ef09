import LinePalette.Highlight.Segments
import LinePalette.Pattern.Match

/-!
# Highlights

A highlight is a capture group of a match that took part in it with some text.
The highlights of a pattern are listed from the last match to the first and,
within a match, from the highest group to the lowest.
-/

namespace LinePalette

structure Highlight where
  group : Nat
  start : Place
  stop : Place
  /-- The byte offsets of the highlight in the joined text. -/
  flatStart : Nat
  flatStop : Nat
deriving Repr, DecidableEq

inductive Color where
  | yellow
  | blue
  | green
deriving Repr, DecidableEq

namespace Color

def ofGroup (group : Nat) : Color :=
  match (group - 1) % 3 with
  | 0 => yellow
  | 1 => blue
  | _ => green

end Color

def classOfGroup (group : Nat) : Text :=
  "rh-highlight-span rh-highlight-g".toList ++ Text.ofNat group

namespace Highlight

/-- The highlight of one group of a match, if the group took part with some text. -/
def ofGroup? (segments : List Text) (found : Match) (group : Nat) : Option Highlight :=
  match found.group? group with
  | none => none
  | some span =>
      if span.isEmpty then
        none
      else
        let text := Segments.joined segments
        let flatStart := Text.byteOffset text span.start
        let flatStop := Text.byteOffset text span.stop
        (Segments.locate segments flatStart flatStop).map fun (start, stop) =>
          { group := group, start := start, stop := stop,
            flatStart := flatStart, flatStop := flatStop }

def ofMatch (segments : List Text) (found : Match) : List Highlight :=
  ((List.range found.groups.length).reverse.map (· + 1)).filterMap (ofGroup? segments found)

/-- The highlights of a pattern in the segments, last match first. -/
def plan (pattern : Pattern) (segments : List Text) : List Highlight :=
  (pattern.matchesIn (Segments.joined segments)).reverse.flatMap (ofMatch segments)

end Highlight
end LinePalette
