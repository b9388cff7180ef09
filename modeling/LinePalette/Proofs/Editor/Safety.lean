import LinePalette.Proofs.Editor.Agreement

/-!
# Safety

Wherever an editor has been led, the next line finds every line and every stretch
of lines that it touches inside the buffer, so it is always answered.
-/

namespace LinePalette
namespace Editor

/--
In a reachable editor the cursor is on a line if there is one, a pending edit has
its range in order and no line that ends its text, and editing in place answers
every line as the editor does.  The limit stands for the largest number that
words hold; it is large enough when every line number and the number of lines fit.
-/
theorem reachable_process_in_bounds {editor : Editor} (h : editor.Reachable) :
    (editor.buffer = [] -> editor.cursor = 0) ∧
      (editor.buffer ≠ [] -> editor.cursor < editor.buffer.length) ∧
      (∀ edit, editor.mode = .typing edit ->
        edit.range.start ≤ edit.range.stop ∧ ∀ line ∈ edit.lines, line ≠ ['.']) ∧
      ∀ (line : Text) (limit : Nat), maxLineNumber ≤ limit -> editor.buffer.length ≤ limit ->
        InPlace.process limit line editor =
          .ok (editor.process line).1 (editor.process line).2 := by
  have hsound := h.sound
  refine ⟨?_, ?_, ?_, ?_⟩
  · intro hempty
    have hcursor := hsound.cursor_le
    rw [hempty] at hcursor
    exact Nat.le_zero.mp hcursor
  · intro hlines
    exact hsound.cursor_lt hlines
  · intro edit hmode
    have hedit := hsound.pending edit hmode
    constructor
    · exact hedit.resolved.start_le_stop
    · intro line hline hdot
      rw [hdot] at hline
      exact hedit.no_dot hline
  · intro line limit hmax hlength
    exact InPlace.process_eq ⟨hmax, hlength⟩ hsound line

theorem reachable_process_in_bounds_changing :
    let changing :=
      (((start [['a'], ['b']] Options.default).process ['1', ',', '2', 'c']).2.moveTo 0).process
        ['x']
    changing.2.Reachable ∧
      changing.2.mode =
        .typing { kind := .change, range := { start := 1, stop := 2 }, lines := [['x']] } ∧
      InPlace.process maxLineNumber ['.'] changing.2 =
        .ok (.output [])
          { buffer := [['x']], cursor := 0, mode := .command, options := Options.default,
            lastError := none } := by
  have hreachable := ((Reachable.start [['a'], ['b']] Options.default).process
    ['1', ',', '2', 'c']).moveTo 0 |>.process ['x']
  rcases reachable_process_in_bounds hreachable with ⟨_, _, _, hprocess⟩
  refine ⟨hreachable, by decide, ?_⟩
  exact hprocess ['.'] maxLineNumber (Nat.le_refl _) (by decide)

end Editor
end LinePalette
