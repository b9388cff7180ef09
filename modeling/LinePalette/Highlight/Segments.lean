import LinePalette.Text.Basic

/-!
# Segments

The text of a page comes in segments that a pattern may match across.  A stretch
of the joined text, given by byte offsets, is found again in the segments: it
starts in the first segment that ends behind its start, and it stops in the
first segment that ends at or behind its end.
-/

namespace LinePalette

structure Place where
  segment : Nat
  offset : Nat
deriving Repr, DecidableEq

namespace Segments

def joined (segments : List Text) : Text := segments.flatten

/--
The places of a stretch in the segments from number `index` on, which start at
the byte offset `base`, given where the stretch starts if that is known.
-/
def locateFrom (start stop : Nat) :
    Nat -> Nat -> Option Place -> List Text -> Option (Place × Place)
  | _, _, _, [] => none
  | index, base, known, segment :: segments =>
      let top := base + Text.byteSize segment
      let known :=
        match known with
        | some place => some place
        | none =>
            if start < top then some { segment := index, offset := start - base } else none
      if stop ≤ top then
        known.map fun place => (place, { segment := index, offset := stop - base })
      else
        locateFrom start stop (index + 1) top known segments

def locate (segments : List Text) (start stop : Nat) : Option (Place × Place) :=
  locateFrom start stop 0 0 none segments

end Segments
end LinePalette
