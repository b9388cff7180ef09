import LinePalette.Proofs.Host.Sessions
import LinePalette.Proofs.Palette.Highlights

/-!
# Highlights that close a session

The highlight that ends a session is shown in the lines that the last line of input has
left.  They are the lines there were before it, unless the pattern holds a slash and what
follows it deletes lines or empties the buffer.
-/

namespace LinePalette
namespace Host

/--
A line has a highlight shown only if it is of the form `/regex/H`.  All lines that it leaves
are lines there were, in their order, and they are all of them unless it is taken for a
command that deletes or empties and succeeds with lines to take.  A pattern without a slash
leaves all lines alone.  In a session the highlight is looked for in the lines that are left,
and ends the session.
-/
theorem highlight_shows_lines_that_are_left (palette : Palette) :
    (∀ line regex,
      (palette.submit line).2.1 = .broadcast (.broadcast (.highlight regex)) ->
        let before := palette.editor.buffer
        let after := (palette.submit line).2.2.editor.buffer
        (line = '/' :: (regex ++ ['/', 'H']) ∧ palette.editor.mode = .command) ∧
          after.Sublist before ∧
          (after ≠ before ↔
            (palette.submit line).1.isError = false ∧ before ≠ [] ∧
              palette.editor.Commanded ['d', 'Q'] line) ∧
          ('/' ∉ regex -> after = before)) ∧
      ∀ (host : Host) (disk : Disk) (front chunk rest : Bytes) (line regex : Text),
        EndsLine front -> IsLine chunk rest ->
        (host.run palette disk front).ending = .ok .endOfInput ->
        lineOf? chunk = some line ->
        let last := (host.run palette disk front).palette
        (last.submit line).2.1 = .broadcast (.broadcast (.highlight regex)) ->
          let run := host.run palette disk (front ++ chunk ++ rest)
          run.ending = .ok .highlighted ∧ run.palette = (last.submit line).2.2 ∧
            run.output =
              (host.run palette disk front).output ++
                (host.answerText (last.submit line).1 (last.submit line).2.1 ++
                  highlightOutput host.json regex run.palette.editor.buffer) := by
  constructor
  · intro line regex haction before after
    rcases Palette.submit_highlight haction with ⟨hline, hmode⟩
    rcases Editor.process_highlight hmode hline with ⟨hsublist, hchanged⟩
    refine ⟨⟨hline, hmode⟩, hsublist, hchanged, ?_⟩
    intro hslash
    apply Classical.byContradiction
    intro hother
    exact Editor.not_commanded_highlight hslash hline (hchanged.mp hother).2.2
  · intro host disk front chunk rest line regex hfront hchunk hending hline last haction run
    have hrun : run = _ := run_closing hfront hchunk hending hline haction
    rw [hrun]
    exact ⟨rfl, rfl, rfl⟩

theorem highlight_shows_lines_that_are_left_deleting :
    let host : Host :=
      { target := .clipboard, source := .clipboard, options := Options.default, json := true }
    let disk : Disk := { here := [], entries := [] }
    let palette := Palette.ofLines .clipboard [['a'], ['b']] Options.default
    let line := ['/', 'a', '/', 'd', '/', 'H']
    let run := host.run palette disk ([49, 10] ++ Utf8.encode line)
    (palette.submit line).2.1 = .broadcast (.broadcast (.highlight ['a', '/', 'd'])) ∧
      (palette.submit line).2.2.editor.buffer.Sublist [['a'], ['b']] ∧
      palette.editor.Commanded ['d', 'Q'] line ∧
      run.ending = .ok .highlighted := by
  intro host disk palette line run
  rcases highlight_shows_lines_that_are_left palette with ⟨hsubmit, hsession⟩
  have haction : (palette.submit line).2.1 =
      .broadcast (.broadcast (.highlight ['a', '/', 'd'])) := rfl
  rcases hsubmit line ['a', '/', 'd'] haction with ⟨_, hsublist, hchanged, _⟩
  have hrun := hsession host disk [49, 10] (Utf8.encode line) [] line ['a', '/', 'd']
    (Or.inr rfl) ⟨rfl, Or.inr rfl⟩ rfl rfl rfl
  refine ⟨haction, hsublist, ?_, ?_⟩
  · have hdeleted : (palette.submit line).2.2.editor.buffer ≠ palette.editor.buffer := by
      decide +kernel
    exact (hchanged.mp hdeleted).2.2
  · exact hrun.left

/-- A request that deletes the line it is about. -/
theorem highlight_request_edits_lines :
    let palette := Palette.ofLines .textField [['a'], ['b']] Options.default
    let line := ['/', 'a', '/', 'd', '/', 'H']
    palette.editor.mode = .command ∧
      (palette.submit line).2.1 = .broadcast (.broadcast (.highlight ['a', '/', 'd'])) ∧
      (palette.submit line).2.2.editor.buffer = [['b']] ∧
      palette.editor.buffer = [['a'], ['b']] :=
  ⟨rfl, rfl, rfl, rfl⟩

end Host
end LinePalette
