import LinePalette.Proofs.Editor.Characters
import LinePalette.Proofs.Host.Frame
import LinePalette.Proofs.Palette.Markup

/-!
# Opening a written file again

A file that a session has written is opened again by the same host.  No line of a
session over a text field ever holds a newline, so the lines are found again as the
session left them.  Lines seen in markup are seen again when they are written back
as they are.
-/

namespace LinePalette
namespace Host

variable {host : Host} {disk : Disk} {palette : Palette} {path : Text}

/-!
# Opening
-/

theorem openPalette_of_readFile? {text : Text} (htarget : host.target = .file path)
    (hfile : disk.readFile? path = some (Utf8.encode text)) :
    host.openPalette disk = .ok (Palette.ofText host.source text host.options) := by
  unfold openPalette
  simp only [htarget, Disk.readText?_of_readFile? hfile]

theorem openPalette_of_written (htarget : host.target = .file path)
    (hsource : palette.source = host.source) {input : Bytes}
    (h : (host.run palette disk input).ending = .ok .written) :
    host.openPalette (host.run palette disk input).disk =
      .ok (Palette.ofText host.source
        (host.source.exportLines (host.run palette disk input).palette.editor.buffer)
        host.options) := by
  rcases run_frame_file htarget palette input with ⟨hother, _⟩ | ⟨_, hwrite⟩
  · exact absurd h hother
  · rw [hsource] at hwrite
    exact openPalette_of_readFile? htarget (Disk.readFile?_of_writeFile? hwrite)

/-!
# Saving at once
-/

theorem submit_save (hmode : palette.editor.mode = .command) :
    (palette.submit ['w']).1 = .saved Editor.savedMessage palette.editor.buffer := by
  show (palette.editor.process ['w']).1 = _
  unfold Editor.process
  rw [hmode]
  rfl

theorem run_save {chunk rest : Bytes} (htarget : host.target = .file path)
    (hmode : palette.editor.mode = .command) (hchunk : IsLine chunk rest)
    (hline : lineOf? chunk = some ['w']) :
    let run := host.run palette disk (chunk ++ rest)
    run.palette = palette ∧
      ((run.ending = .ok .written ∧
          disk.writeFile? path
            (Utf8.encode (palette.source.exportLines palette.editor.buffer)) =
            some run.disk) ∨
        (run.ending = .error (.writeFile path) ∧ run.disk = disk)) := by
  intro run
  have hsaved := submit_save hmode
  have hplain : ¬Palette.IsHighlight ['w'] := by
    rintro ⟨regex, hregex⟩
    cases hregex
  have hrun : run = _ := run_closing (Or.inl rfl) hchunk rfl hline
    (Palette.submit_saved_write hsaved hplain)
  have hback : host.writeBack disk palette.source palette.editor.buffer =
      (run.ending, run.disk) := by
    rw [hrun]
    rfl
  constructor
  · rw [hrun]
    exact (Palette.submit_saved hsaved).2.2.1
  · rcases writeBack_file htarget hback with ⟨hfailed, hdisk⟩ | ⟨hwritten, hdisk⟩
    · exact Or.inr ⟨hfailed, hdisk⟩
    · exact Or.inl ⟨hwritten, hdisk⟩

/-!
# Markup
-/

/--
A reader of written markup sees the lines as one text, trimmed and split again.  So
lines that were seen in markup are seen again once they are written, and a file of
markup that is opened and saved at once opens as the same palette, unless it could
not be written and is left as it was.
-/
theorem written_markup_seen_again :
    (∀ lines : List Text,
        Markup.toLines (Markup.ofLines lines) =
          Text.splitOn '\n' (Text.trim (Text.join ['\n'] lines))) ∧
      (∀ markup : Text,
        let seen := Source.editable.importText markup
        Source.editable.importText (Source.editable.exportLines seen) = seen) ∧
      ∀ (host : Host) (path : Text) (disk : Disk) (markup : Text) (chunk rest : Bytes),
        host.target = .file path -> host.source = .editable ->
        disk.readFile? path = some (Utf8.encode markup) ->
        IsLine chunk rest -> lineOf? chunk = some ['w'] ->
          let palette := Palette.ofText .editable markup host.options
          let run := host.run palette disk (chunk ++ rest)
          host.openPalette disk = .ok palette ∧
            ((run.ending = .ok .written ∧ host.openPalette run.disk = .ok palette) ∨
              (run.ending = .error (.writeFile path) ∧ run.disk = disk)) := by
  refine ⟨Markup.toLines_ofLines, Markup.toLines_ofLines_toLines, ?_⟩
  intro host path disk markup chunk rest htarget hsource hfile hchunk hline palette run
  constructor
  · rw [openPalette_of_readFile? htarget hfile, hsource]
  · have hsave : run.palette = palette ∧ _ := run_save htarget rfl hchunk hline
    rcases hsave with ⟨hpalette, ⟨hwritten, _⟩ | ⟨hfailed, hdisk⟩⟩
    · left
      refine ⟨hwritten, ?_⟩
      have hagain : host.openPalette run.disk = .ok (Palette.ofText host.source
          (host.source.exportLines run.palette.editor.buffer) host.options) :=
        openPalette_of_written htarget hsource.symm hwritten
      have hlines : Source.editable.importText
          (Source.editable.exportLines (Source.editable.importText markup)) = _ :=
        Markup.toLines_ofLines_toLines markup
      rw [hagain, hpalette, hsource]
      show Except.ok (Palette.ofLines .editable (Source.editable.importText
        (Source.editable.exportLines (Source.editable.importText markup))) host.options) = _
      rw [hlines]
      rfl
    · exact Or.inr ⟨hfailed, hdisk⟩

theorem written_markup_seen_again_paragraph :
    let host : Host :=
      { target := .file ['f'], source := .editable, options := Options.default, json := false }
    let markup := "<p>1 &lt; 2</p>".toList
    let disk : Disk := { here := [], entries := [([['f']], .file (Utf8.encode markup))] }
    let palette := Palette.ofLines .editable ["1 < 2".toList] Options.default
    let run := host.run palette disk [119, 10]
    run.disk.readFile? ['f'] = some (Utf8.encode "1 &lt; 2".toList) ∧
      host.openPalette disk = .ok palette ∧ host.openPalette run.disk = .ok palette := by
  intro host markup disk palette run
  have hpalette : Palette.ofText .editable markup host.options = palette := by decide
  rcases written_markup_seen_again with ⟨_, _, hsession⟩
  have hrun := hsession host ['f'] disk markup [119, 10] [] rfl rfl rfl ⟨rfl, Or.inl (Or.inr rfl)⟩
    rfl
  rw [hpalette] at hrun
  rcases hrun with ⟨hopen, ⟨_, hagain⟩ | ⟨hfailed, _⟩⟩
  · exact ⟨rfl, hopen, hagain⟩
  · cases hfailed

/-!
# Text fields
-/

theorem ofText_freeOf (text : Text) (options : Options) :
    (Palette.ofText .textField text options).editor.FreeOf '\n' :=
  Editor.start_freeOf (fun _ hline => Text.not_mem_of_mem_splitOn hline) options

theorem runChunks_freeOf {input : Bytes} {before later : List Bytes}
    (hinput : chunks input = before ++ later) (h : palette.editor.FreeOf '\n') :
    (host.runChunks palette disk before).palette.editor.FreeOf '\n' := by
  have hstep : ∀ chunk ∈ before, ∀ line, lineOf? chunk = some line ->
      ∀ palette : Palette, palette.editor.FreeOf '\n' ->
        (palette.submit line).2.2.editor.FreeOf '\n' := by
    intro chunk hchunk line hline palette hfree
    have hmem : chunk ∈ chunks input := by
      rw [hinput]
      exact List.mem_append_left later hchunk
    exact Editor.process_freeOf hfree (newline_not_mem_line hmem hline)
  exact runChunks_keeps hstep h

theorem importText_exportLines {lines : List Text} (h : ∀ line ∈ lines, '\n' ∉ line) :
    Source.textField.importText (Source.textField.exportLines lines) =
      if lines = [] then [[]] else lines := by
  show Text.splitOn '\n' (Text.join ['\n'] lines) = _
  split
  · next hempty =>
      rw [hempty]
      rfl
  · next hlines => exact Text.splitOn_join hlines h

/--
In a session over a text field no line of the buffer holds a newline, after any of
the lines of input.  When the buffer has been written, the file opens as the lines
that the session left, or as one empty line when it left none.  Saving at once
leaves every file as it was.
-/
theorem text_field_opens_as_left {text : Text} (htarget : host.target = .file path)
    (hsource : host.source = .textField)
    (hfile : disk.readFile? path = some (Utf8.encode text)) :
    let palette := Palette.ofText .textField text host.options
    host.openPalette disk = .ok palette ∧
      (∀ (input : Bytes) (before later : List Bytes), chunks input = before ++ later ->
        ∀ line ∈ (host.runChunks palette disk before).palette.editor.buffer, '\n' ∉ line) ∧
      (∀ input : Bytes,
        let run := host.run palette disk input
        let left := run.palette.editor.buffer
        run.ending = .ok .written ->
          host.openPalette run.disk =
            .ok (Palette.ofLines .textField (if left = [] then [[]] else left) host.options)) ∧
      ∀ chunk rest : Bytes, IsLine chunk rest -> lineOf? chunk = some ['w'] ->
        let run := host.run palette disk (chunk ++ rest)
        (run.ending = .ok .written ∨ run.ending = .error (.writeFile path)) ∧
          ∀ location, run.disk.get? location = disk.get? location := by
  intro palette
  have hfree : palette.editor.FreeOf '\n' := ofText_freeOf text host.options
  refine ⟨?_, ?_, ?_, ?_⟩
  · rw [openPalette_of_readFile? htarget hfile, hsource]
  · intro input before later hinput
    exact (runChunks_freeOf hinput hfree).buffer
  · intro input run left hwritten
    have hlines : ∀ line ∈ left, '\n' ∉ line :=
      (runChunks_freeOf (List.append_nil _).symm hfree).buffer
    have hagain : host.openPalette run.disk = .ok (Palette.ofText host.source
        (host.source.exportLines left) host.options) :=
      openPalette_of_written htarget hsource.symm hwritten
    rw [hagain, hsource]
    show Except.ok (Palette.ofLines .textField
      (Source.textField.importText (Source.textField.exportLines left)) host.options) = _
    rw [importText_exportLines hlines]
  · intro chunk rest hchunk hline run
    have hsave : run.palette = palette ∧ _ := run_save htarget rfl hchunk hline
    rcases hsave with ⟨_, ⟨hwritten, hwrite⟩ | ⟨hfailed, hdisk⟩⟩
    · refine ⟨Or.inl hwritten, ?_⟩
      have hsame : palette.source.exportLines palette.editor.buffer = text :=
        Text.join_splitOn '\n' text
      rw [hsame] at hwrite
      exact Disk.get?_of_writeFile?_same hfile hwrite
    · refine ⟨Or.inr hfailed, ?_⟩
      intro location
      rw [hdisk]

theorem text_field_opens_as_left_adding :
    let host : Host :=
      { target := .file ['f'], source := .textField, options := Options.default, json := false }
    let disk : Disk := { here := [], entries := [([['f']], .file [97, 10])] }
    let palette := Palette.ofText .textField ['a', '\n'] Options.default
    let run := host.run palette disk (Utf8.encode "1s/a/$&$&/\na\nx\x0d\n.\nw\n".toList)
    host.openPalette disk = .ok palette ∧
      host.openPalette run.disk =
        .ok (Palette.ofLines .textField [['a', 'a'], ['x'], []] Options.default) ∧
      (host.run palette disk [119]).disk.get? [['f']] = some (.file [97, 10]) := by
  intro host disk palette run
  have hfile : disk.readFile? ['f'] = some (Utf8.encode ['a', '\n']) := rfl
  have htarget : host.target = .file ['f'] := rfl
  have hlines : run.palette.editor.buffer = [['a', 'a'], ['x'], []] := by decide +kernel
  rcases text_field_opens_as_left htarget rfl hfile with ⟨hopen, _, hagain, hsame⟩
  have hleft : host.openPalette run.disk = .ok (Palette.ofLines .textField
      (if run.palette.editor.buffer = [] then [[]] else run.palette.editor.buffer) _) :=
    hagain _ rfl
  rw [hlines] at hleft
  refine ⟨hopen, hleft, ?_⟩
  exact (hsame [119] [] ⟨rfl, Or.inr rfl⟩ rfl).2 [['f']]

end Host
end LinePalette
