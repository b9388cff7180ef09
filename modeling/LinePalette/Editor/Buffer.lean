import LinePalette.Text.Basic

/-!
# Buffers

A buffer is a list of lines.  Lines are counted from zero here; a stretch of lines
is given by its first line and its last, or by its first line and the line behind
it.
-/

namespace LinePalette

abbrev Buffer := List Text

namespace Buffer

def between (buffer : Buffer) (first last : Nat) : List Text :=
  (buffer.drop first).take (last + 1 - first)

/-- The buffer with the lines from `first` up to but not including `stop` replaced. -/
def replaceLines (buffer : Buffer) (first stop : Nat) (lines : List Text) : Buffer :=
  buffer.take first ++ lines ++ buffer.drop stop

def numbered : Nat -> List Text -> List Text
  | _, [] => []
  | number, line :: lines =>
      (Text.ofNat number ++ ['\t'] ++ line) :: numbered (number + 1) lines

/--
The buffer with the lines from `first` to `last` altered, and the last of them
that has become different.  The lines are counted from `index` on.
-/
def alterFrom (alter : Text -> Text) (first last : Nat) :
    Nat -> Buffer -> Buffer × Option (Nat × Text)
  | _, [] => ([], none)
  | index, line :: lines =>
      let (rest, changed) := alterFrom alter first last (index + 1) lines
      if first ≤ index ∧ index ≤ last then
        (alter line :: rest,
          changed.or (if alter line = line then none else some (index, alter line)))
      else
        (line :: rest, changed)

def alterLines (buffer : Buffer) (alter : Text -> Text) (first last : Nat) :
    Buffer × Option (Nat × Text) :=
  alterFrom alter first last 0 buffer

/-!
# Lengths

Replacing lines changes the length by what goes and what comes, and altering
does not change it.
-/

theorem length_replaceLines (buffer : Buffer) (first stop : Nat) (lines : List Text) :
    (buffer.replaceLines first stop lines).length =
      min first buffer.length + lines.length + (buffer.length - stop) := by
  simp [replaceLines]
  omega

theorem length_alterFrom (alter : Text -> Text) (first last index : Nat)
    (buffer : Buffer) :
    (alterFrom alter first last index buffer).1.length = buffer.length := by
  induction buffer generalizing index with
  | nil => rfl
  | cons line lines ih =>
      simp only [alterFrom]
      split
      · simp [ih]
      · simp [ih]

end Buffer
end LinePalette
