import LinePalette.Proofs.Editor.Bounds

/-!
# Ranges that name lines

A range names lines of a buffer when it is in order and lies between the first line
and the last.  Actions that need their lines are carried out on such ranges and
refused on all others.
-/

namespace LinePalette
namespace LineRange

variable {range : LineRange} {length : Nat}

/-- Every line that the range names is one of that many lines. -/
def Within (range : LineRange) (length : Nat) : Prop :=
  1 ≤ range.start ∧ range.start ≤ range.stop ∧ range.stop ≤ lineNumber length

def Selects (range : LineRange) (index : Nat) : Prop :=
  range.start ≤ index + 1 ∧ index + 1 ≤ range.stop

instance (range : LineRange) (index : Nat) : Decidable (range.Selects index) :=
  inferInstanceAs (Decidable (range.start ≤ index + 1 ∧ index + 1 ≤ range.stop))

theorem within_iff (hlength : length ≤ maxLineNumber) :
    range.Within length ↔
      1 ≤ range.start ∧ range.start ≤ range.stop ∧ range.stop ≤ length := by
  unfold Within
  rw [lineNumber_of_le hlength]

theorem Within.pos (h : range.Within length) : 0 < length := by
  have hlast := lineNumber_le length
  rcases h with ⟨hstart, horder, hstop⟩
  omega

theorem indices_of_within (h : range.Within length) :
    range.indices length = .ok ((range.start - 1).toNat, (range.stop - 1).toNat) := by
  rcases h with ⟨hstart, horder, hstop⟩
  apply if_neg
  omega

theorem indices_of_not_within (h : ¬range.Within length) :
    range.indices length = .error .invalidAddress := by
  apply if_pos
  unfold Within at h
  omega

end LineRange

namespace Editor

variable {editor : Editor} {line : Text} {command : Command} {range : LineRange}

theorem process_parsed (hmode : editor.mode = .command)
    (hparse : Command.parse? (Text.trim line) = some command) :
    editor.process line =
      editor.settle
        (Address.resolve editor.buffer command.address editor.cursor >>= fun range =>
          editor.perform command.letter range command.tail) := by
  unfold process runCommand
  rw [hmode, hparse]

theorem process_command (hmode : editor.mode = .command)
    (hparse : Command.parse? (Text.trim line) = some command)
    (hrange : Address.resolve editor.buffer command.address editor.cursor = .ok range) :
    editor.process line = editor.settle (editor.perform command.letter range command.tail) := by
  rw [process_parsed hmode hparse, hrange]
  rfl

theorem buffer_ne_nil_of_within (h : range.Within editor.buffer.length) : editor.buffer ≠ [] :=
  List.length_pos_iff.mp h.pos

end Editor
end LinePalette
