import LinePalette.Proofs.Host.Frame

/-!
# Saving lines

A line that saves the buffer closes the palette, and its message is shown.  What
has been saved reaches the file only when the line does not have the form of a
highlight request as well: such a line ends the session with a highlight, after
the buffer has been announced as written.
-/

namespace LinePalette
namespace Host

variable {host : Host} {disk : Disk} {palette : Palette}

theorem answerText_saved (hjson : host.json = false) (text : Text) (buffer : List Text)
    (message : Message) :
    host.answerText (.saved text buffer) (.broadcast message) = text ++ ['\n'] := by
  unfold answerText
  rw [hjson]
  rfl

theorem closing_output (disk : Disk) {line text : Text} {buffer : List Text} {payload : Payload}
    (hjson : host.json = false)
    (hsaved : (palette.submit line).1 = .saved text buffer)
    (haction : (palette.submit line).2.1 = .broadcast (.broadcast payload)) :
    ∃ more,
      (host.closing disk palette line payload).output =
        Editor.savedMessage ++ ['\n'] ++ more := by
  have houtput : (host.closing disk palette line payload).output =
      host.answerText (palette.submit line).1 (palette.submit line).2.1 ++
        (host.execute disk (.execute payload) (palette.submit line).2.2.editor.buffer).1 := rfl
  refine ⟨(host.execute disk (.execute payload) (palette.submit line).2.2.editor.buffer).1, ?_⟩
  rw [houtput, hsaved, haction, answerText_saved hjson, (Palette.submit_saved hsaved).1]

/--
A palette has its buffer written exactly for the lines that save it and do not have
the form of a highlight request.  In a session over a file the first line that saves
the buffer ends the session with the buffer written back, or with a failure to do
so, unless it is of that form; then the file is left as it was.
-/
theorem saved_line_written_unless_highlight (palette : Palette) :
    (∀ line buffer,
        (palette.submit line).2.1 = .broadcast (.broadcast (.write buffer palette.source)) ↔
          (∃ text, (palette.submit line).1 = .saved text buffer) ∧
            ¬Palette.IsHighlight line) ∧
      (∀ line text buffer regex,
        (palette.submit line).1 = .saved text buffer ->
        line = '/' :: (regex ++ ['/', 'H']) ->
          (palette.submit line).2.1 = .broadcast (.broadcast (.highlight regex))) ∧
      ∀ (host : Host) (path : Text) (disk : Disk) (front chunk rest : Bytes) (line text : Text)
        (buffer : List Text),
        host.target = .file path -> EndsLine front -> IsLine chunk rest ->
        (host.run palette disk front).ending = .ok .endOfInput ->
        lineOf? chunk = some line ->
        ((host.run palette disk front).palette.submit line).1 = .saved text buffer ->
          let run := host.run palette disk (front ++ chunk ++ rest)
          (¬Palette.IsHighlight line ->
              (run.ending = .ok .written ∧
                  run.disk.readFile? path =
                    some (Utf8.encode (palette.source.exportLines buffer))) ∨
                (run.ending = .error (.writeFile path) ∧ run.disk = disk)) ∧
            (Palette.IsHighlight line ->
              run.ending = .ok .highlighted ∧ run.disk = disk) ∧
            (host.json = false ->
              ∃ more,
                run.output =
                  (host.run palette disk front).output ++ (Editor.savedMessage ++ ['\n']) ++
                    more) := by
  refine ⟨?_, ?_, ?_⟩
  · intro line buffer
    exact Palette.submit_write_iff
  · intro line text buffer regex hsaved hregex
    exact Palette.submit_saved_highlight hsaved hregex
  · intro host path disk front chunk rest line text buffer htarget hfront hchunk hending hline
      hsaved run
    have hclosing : ∀ payload,
        ((host.run palette disk front).palette.submit line).2.1 =
          .broadcast (.broadcast payload) ->
        run = _ :=
      fun payload haction => run_closing hfront hchunk hending hline haction
    refine ⟨?_, ?_, ?_⟩
    · intro hother
      have hback : host.writeBack disk (host.run palette disk front).palette.source buffer =
          (run.ending, run.disk) := by
        rw [hclosing _ (Palette.submit_saved_write hsaved hother)]
        rfl
      rw [run_source hending] at hback
      rcases writeBack_file htarget hback with ⟨hfailed, hdisk⟩ | ⟨hwritten, hdisk⟩
      · exact Or.inr ⟨hfailed, hdisk⟩
      · exact Or.inl ⟨hwritten, Disk.readFile?_of_writeFile? hdisk⟩
    · rintro ⟨regex, hregex⟩
      rw [hclosing _ (Palette.submit_saved_highlight hsaved hregex)]
      exact ⟨rfl, rfl⟩
    · intro hjson
      rcases Palette.submit_saved_broadcast hsaved with ⟨payload, haction⟩
      rcases closing_output disk hjson hsaved haction with ⟨more, hmore⟩
      refine ⟨more, ?_⟩
      rw [hclosing payload haction]
      simp only [hmore, List.append_assoc]

theorem saved_line_written_unless_highlight_deleting :
    let host : Host :=
      { target := .file ['f'], source := .textField, options := Options.default, json := false }
    let disk : Disk := { here := [], entries := [([['f']], .file [97, 10, 98])] }
    let palette := Palette.ofLines .textField [['a'], ['b']] Options.default
    let run := host.run palette disk [49, 100, 10, 119, 10]
    (palette.submit ['w']).2.1 =
        .broadcast (.broadcast (.write [['a'], ['b']] .textField)) ∧
      run.ending = .ok .written ∧ run.disk.readFile? ['f'] = some [98] := by
  intro host disk palette run
  rcases saved_line_written_unless_highlight palette with ⟨hsubmit, _, hsession⟩
  have hplain : ¬Palette.IsHighlight ['w'] := by
    rintro ⟨regex, hline⟩
    cases hline
  have hrun := hsession host ['f'] disk [49, 100, 10] [119, 10] [] ['w'] Editor.savedMessage
    [['b']] rfl (Or.inr rfl) ⟨rfl, Or.inr rfl⟩ rfl rfl rfl
  constructor
  · exact (hsubmit ['w'] [['a'], ['b']]).mpr ⟨⟨Editor.savedMessage, rfl⟩, hplain⟩
  · rcases hrun.left hplain with hwritten | ⟨hfailed, _⟩
    · exact hwritten
    · cases hfailed

/-- The same line deleted and saved, by a line that is taken for a highlight request. -/
theorem saved_line_not_written :
    let host : Host :=
      { target := .file ['f'], source := .textField, options := Options.default, json := false }
    let disk : Disk := { here := [], entries := [([['f']], .file [97, 10, 98])] }
    let palette := Palette.ofLines .textField [['a'], ['b']] Options.default
    let line := ['/', 'b', '/', 'w', '/', 'H']
    let run := host.run palette disk ([49, 100, 10] ++ Utf8.encode line)
    (palette.submit line).1 = .saved Editor.savedMessage [['a'], ['b']] ∧
      (palette.submit line).2.1 ≠
        .broadcast (.broadcast (.write [['a'], ['b']] .textField)) ∧
      run.ending = .ok .highlighted ∧ run.disk.readFile? ['f'] = some [97, 10, 98] := by
  intro host disk palette line run
  refine ⟨rfl, ?_, rfl, rfl⟩
  intro hwrite
  cases hwrite

end Host
end LinePalette
