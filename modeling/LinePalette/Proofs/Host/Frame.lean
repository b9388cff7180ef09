import LinePalette.Proofs.Files.Writing
import LinePalette.Proofs.Host.Sessions

/-!
# What sessions leave on the disk

A session changes the disk only by writing its last buffer back to its target, and only
the line that closes the session does that.  A file is written among other files, and a
clipboard beside them all.
-/

namespace LinePalette
namespace Host

variable {host : Host} {disk : Disk} {palette : Palette} {path : Text}

/-!
# Opening
-/

theorem openPalette_source (h : host.openPalette disk = .ok palette) :
    palette.source = host.source := by
  unfold openPalette at h
  split at h
  · split at h
    · cases h
      rfl
    · cases h
  · cases h
    rfl

/-!
# Closing
-/

theorem writeBack_cases {source : Source} {lines : List Text} {left : Disk}
    {ending : Except Failure SessionEnd} (h : host.writeBack disk source lines = (ending, left)) :
    (ending = .error host.target.writeFailure ∧ left = disk) ∨
      (ending = .ok .written ∧
        host.target.write? disk (source.exportLines lines) = some left) := by
  unfold writeBack at h
  cases hwrite : host.target.write? disk (source.exportLines lines) with
  | none =>
      rw [hwrite] at h
      cases h
      exact Or.inl ⟨rfl, rfl⟩
  | some written =>
      rw [hwrite] at h
      cases h
      exact Or.inr ⟨rfl, rfl⟩

theorem writeBack_file {source : Source} {lines : List Text} {left : Disk}
    {ending : Except Failure SessionEnd} (htarget : host.target = .file path)
    (h : host.writeBack disk source lines = (ending, left)) :
    (ending = .error (.writeFile path) ∧ left = disk) ∨
      (ending = .ok .written ∧
        disk.writeFile? path (Utf8.encode (source.exportLines lines)) = some left) := by
  have hcases := writeBack_cases h
  rw [htarget] at hcases
  exact hcases

/-- What is written when a session ends is the buffer that its palette is left with. -/
theorem Ends.frame {chunk : Bytes} {run : Run} (h : Ends host disk palette chunk run) :
    (run.ending ≠ .ok .written ∧ run.disk = disk) ∨
      (run.ending = .ok .written ∧
        host.target.write? disk (palette.source.exportLines run.palette.editor.buffer) =
          some run.disk) := by
  cases h with
  | unreadable _ =>
      left
      constructor
      · intro hending
        cases hending
      · rfl
  | answered _ hanswer =>
      rcases answer_ended hanswer with ⟨hclosed, payload, output, haction, hexecute⟩
      rcases Palette.route_broadcast haction with ⟨regex, hmessage, _⟩ |
        ⟨text, buffer, hmessage, hsaved, _⟩
      · cases hmessage
        cases hexecute
        left
        constructor
        · intro hending
          cases hending
        · rfl
      · cases hmessage
        rcases Palette.submit_saved hsaved with ⟨_, hbuffer, hafter, _⟩
        have hback : host.writeBack disk palette.source buffer = _ :=
          congrArg Prod.snd hexecute
        rcases writeBack_cases hback with ⟨hending, hleft⟩ | ⟨hending, hwrite⟩
        · left
          constructor
          · intro hwritten
            rw [hending] at hwritten
            cases hwritten
          · exact hleft
        · right
          refine ⟨hending, ?_⟩
          rw [hclosed, hafter, ← hbuffer]
          exact hwrite

/-!
# Whole sessions
-/

theorem run_frame (host : Host) (disk : Disk) (palette : Palette) (input : Bytes) :
    let run := host.run palette disk input
    (run.ending ≠ .ok .written ∧ run.disk = disk) ∨
      (run.ending = .ok .written ∧
        host.target.write? disk (palette.source.exportLines run.palette.editor.buffer) =
          some run.disk) := by
  intro run
  have hrun : host.run palette disk input = run := rfl
  rcases run_cases host disk palette input with ⟨last, output, hgoes⟩ |
    ⟨front, line, rest, last, output, ended, hinput, hfront, hline, hbefore, hends⟩
  · have hend : run = _ := hgoes.runChunks_eq
    rw [hend]
    left
    constructor
    · intro hwritten
      cases hwritten
    · rfl
  · have hframe := hends.frame
    rw [hbefore.source_eq] at hframe
    rw [← hrun, hinput, run_of_ends hfront hline hbefore hends]
    exact hframe

theorem run_frame_file (htarget : host.target = .file path) (palette : Palette) (input : Bytes) :
    let run := host.run palette disk input
    (run.ending ≠ .ok .written ∧ run.disk = disk) ∨
      (run.ending = .ok .written ∧
        disk.writeFile? path
          (Utf8.encode (palette.source.exportLines run.palette.editor.buffer)) =
          some run.disk) := by
  have hframe := run_frame host disk palette input
  rw [htarget] at hframe
  exact hframe

theorem clipboard_of_run_file (htarget : host.target = .file path) (palette : Palette)
    (input : Bytes) : (host.run palette disk input).disk.clipboard = disk.clipboard := by
  rcases run_frame_file htarget palette input with ⟨_, hdisk⟩ | ⟨_, hwrite⟩
  · rw [hdisk]
  · exact Disk.clipboard_of_writeFile? hwrite

/-- A session over the clipboard leaves every file alone, and the clipboard too unless it ends
with its buffer copied; then the host opens what it has exported. -/
theorem run_copies_only_when_written (htarget : host.target = .clipboard) (palette : Palette)
    (input : Bytes) :
    let run := host.run palette disk input
    let exported := palette.source.exportLines run.palette.editor.buffer
    (∀ location, run.disk.get? location = disk.get? location) ∧
      (run.ending ≠ .ok .written -> run.disk = disk) ∧
      (run.ending = .ok .written ->
        host.openPalette run.disk =
          .ok (Palette.ofLines host.source (Source.clipboard.importText exported)
            host.options)) := by
  intro run exported
  have hframe : (run.ending ≠ .ok .written ∧ run.disk = disk) ∨
      (run.ending = .ok .written ∧ host.target.write? disk exported = some run.disk) :=
    run_frame host disk palette input
  rw [htarget] at hframe
  rcases hframe with ⟨hother, hdisk⟩ | ⟨hwritten, hwrite⟩
  · refine ⟨?_, fun _ => hdisk, fun hwritten => absurd hwritten hother⟩
    intro location
    rw [hdisk]
  · have hcopy : disk.copy? exported = some run.disk := hwrite
    refine ⟨Disk.get?_of_copy? hcopy, fun hother => absurd hwritten hother, ?_⟩
    intro _
    unfold openPalette
    rw [htarget]
    simp only [Disk.contents_of_copy? hcopy]
    rfl

theorem run_ended_by_line {input : Bytes}
    (h : (host.run palette disk input).ending ≠ .ok .endOfInput) :
    ∃ front line rest,
      input = front ++ line ++ rest ∧ EndsLine front ∧ IsLine line rest ∧
      (host.run palette disk front).ending = .ok .endOfInput ∧
      ∀ other, IsLine line other ->
        host.run palette disk (front ++ line ++ other) = host.run palette disk input := by
  rcases run_cases host disk palette input with ⟨last, output, hgoes⟩ |
    ⟨front, line, rest, last, output, ended, hinput, hfront, hline, hbefore, hends⟩
  · have hend : host.run palette disk input = _ := hgoes.runChunks_eq
    rw [hend] at h
    exact absurd rfl h
  · refine ⟨front, line, rest, hinput, hfront, hline, ?_, ?_⟩
    · have hgoes : host.run palette disk front = _ := hbefore.runChunks_eq
      rw [hgoes]
    · intro other hother
      rw [hinput, run_of_ends hfront hline hbefore hends, run_of_ends hfront hother hbefore hends]

/--
Whatever is typed, a session over a file leaves the disk alone unless it ends with
its buffer written.  Then the file holds the last buffer and nothing else is
different.  The line that ends a session is the last one that matters.
-/
theorem run_changes_target_only_when_written (htarget : host.target = .file path)
    (hopen : host.openPalette disk = .ok palette) (input : Bytes) :
    let run := host.run palette disk input
    (run.ending = .ok .endOfInput ∨ run.ending = .ok .highlighted ∨
        run.ending = .error .readInput ->
      run.disk = disk) ∧
    (run.ending = .ok .written ->
      run.disk.readFile? path =
          some (Utf8.encode (host.source.exportLines run.palette.editor.buffer)) ∧
        ∃ location,
          disk.locate? path = some location ∧
          ∀ other, other ≠ location -> run.disk.get? other = disk.get? other) ∧
    (run.ending ≠ .ok .endOfInput ->
      ∃ front line rest,
        input = front ++ line ++ rest ∧ EndsLine front ∧ IsLine line rest ∧
        (host.run palette disk front).ending = .ok .endOfInput ∧
        ∀ other, IsLine line other ->
          host.run palette disk (front ++ line ++ other) = run) := by
  intro run
  have hframe : (run.ending ≠ .ok .written ∧ run.disk = disk) ∨ _ :=
    run_frame_file htarget palette input
  refine ⟨?_, ?_, ?_⟩
  · intro hending
    rcases hframe with ⟨_, hdisk⟩ | ⟨hwritten, _⟩
    · exact hdisk
    · rw [hwritten] at hending
      rcases hending with hending | hending | hending <;> cases hending
  · intro hwritten
    rcases hframe with ⟨hother, _⟩ | ⟨_, hwrite⟩
    · exact absurd hwritten hother
    · rw [openPalette_source hopen] at hwrite
      exact ⟨Disk.readFile?_of_writeFile? hwrite, Disk.get?_of_writeFile? hwrite⟩
  · intro hending
    exact run_ended_by_line hending

theorem run_changes_target_only_when_written_deleting :
    let host : Host :=
      { target := .file ['f'], source := .textField, options := Options.default, json := false }
    let disk : Disk :=
      { here := [], entries := [([['f']], .file [97, 10, 98]), ([['g']], .file [99])] }
    let palette := Palette.ofLines .textField [['a'], ['b']] Options.default
    let run := host.run palette disk [49, 100, 10, 119, 10, 255]
    (host.target = .file ['f'] ∧ host.openPalette disk = .ok palette) ∧
      run.disk.readFile? ['f'] = some [98] ∧
      run.disk.get? [['g']] = some (.file [99]) := by
  intro host disk palette run
  have hopen : host.openPalette disk = .ok palette := rfl
  obtain ⟨_, hwritten, _⟩ :=
    run_changes_target_only_when_written rfl hopen [49, 100, 10, 119, 10, 255]
  rcases hwritten rfl with ⟨hread, location, hlocate, hother⟩
  refine ⟨⟨rfl, hopen⟩, hread, ?_⟩
  have hlocation : location = [['f']] := Option.some.inj (hlocate.symm.trans rfl)
  rw [hother [['g']] (by rw [hlocation]; decide)]
  rfl

end Host
end LinePalette
