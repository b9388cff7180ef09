import LinePalette.Highlight.Plan

/-!
# Painting

A text is painted by cutting it at every end of a stretch.  Each piece takes the
colour of the highest group whose stretch covers it.
-/

namespace LinePalette

/-- A stretch of text to paint, by byte offsets, for a group. -/
structure Stroke where
  group : Nat
  start : Nat
  stop : Nat
deriving Repr, DecidableEq

structure PaintedPiece where
  group : Option Nat
  text : Text
deriving Repr, DecidableEq

def Highlight.stroke (highlight : Highlight) : Stroke :=
  { group := highlight.group, start := highlight.flatStart, stop := highlight.flatStop }

namespace Paint

/-!
# Cuts
-/

def insertCut (cut : Nat) : List Nat -> List Nat
  | [] => [cut]
  | first :: rest =>
      if cut < first then
        cut :: first :: rest
      else if cut = first then
        first :: rest
      else
        first :: insertCut cut rest

/-- The offsets at which a text of the given byte size is cut, in order. -/
def cuts (size : Nat) (strokes : List Stroke) : List Nat :=
  (strokes.flatMap fun stroke => [stroke.start, stroke.stop]).foldr insertCut
    (insertCut size [0])

/-!
# Pieces
-/

/-- The highest group among the strokes that cover a piece. -/
def owner? (strokes : List Stroke) (start stop : Nat) : Option Nat :=
  ((strokes.filter fun stroke => stroke.start ≤ start && stop ≤ stroke.stop).map
    Stroke.group).max?

def piecesBetween (text : Text) (strokes : List Stroke) : List Nat -> List PaintedPiece
  | start :: stop :: later =>
      { group := owner? strokes start stop, text := Text.sliceBytes start stop text } ::
        piecesBetween text strokes (stop :: later)
  | _ => []

def pieces (text : Text) (strokes : List Stroke) : List PaintedPiece :=
  piecesBetween text strokes (cuts (Text.byteSize text) strokes)

/-!
# Terminal colours
-/

def background : Color -> Text
  | .yellow => "48;5;11".toList
  | .blue => "48;2;173;216;230".toList
  | .green => "48;2;144;238;144".toList

def sequence (parameters : Text) : Text := '\x1b' :: '[' :: parameters ++ ['m']

def terminalPiece (piece : PaintedPiece) : Text :=
  match piece.group with
  | none => piece.text
  | some group =>
      sequence (background (Color.ofGroup group)) ++ sequence "38;5;0".toList ++ piece.text ++
        sequence "49".toList ++ sequence "39".toList

def terminal (text : Text) (strokes : List Stroke) : Text :=
  (pieces text strokes).flatMap terminalPiece

end Paint
end LinePalette
