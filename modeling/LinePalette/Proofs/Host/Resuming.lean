import LinePalette.Proofs.Host.Sessions

/-!
# Sessions in parts

A session whose input has run out can be taken up with more input, as if all of it had
been there from the start.  What it has come to is all in its palette, in text that is
still being typed as well, and only the prompt it printed last is printed again.
-/

namespace LinePalette
namespace Host

variable {host : Host} {disk : Disk} {palette last : Palette}

theorem GoesOn.run_append {front : Bytes} {output : Text} (hfront : EndsLine front)
    (h : GoesOn host disk palette (chunks front) last output) (back : Bytes) :
    host.run palette disk (front ++ back) =
      { host.run last disk back with output := output ++ (host.run last disk back).output } := by
  unfold Host.run
  rw [chunks_append hfront, h.runChunks_append]

/--
A session over two parts of input comes to what the session over the second part comes to
that takes up the palette and the disk of the first.  The first part stops at the end of a
line, and its session with it.  What is printed is what the first session prints without
its last prompt, and then what the second prints.
-/
theorem session_taken_up_where_input_stopped {front : Bytes} (hfront : EndsLine front)
    (hending : (host.run palette disk front).ending = .ok .endOfInput) (back : Bytes) :
    let first := host.run palette disk front
    let second := host.run first.palette first.disk back
    let whole := host.run palette disk (front ++ back)
    whole.ending = second.ending ∧ whole.palette = second.palette ∧
      whole.disk = second.disk ∧
      ∃ shown,
        first.output = shown ++ host.promptText first.palette ∧
        whole.output = shown ++ second.output := by
  intro first second whole
  rcases goesOn_of_run hending with ⟨last, shown, hgoes⟩
  have hfirst : first = _ := hgoes.runChunks_eq
  have hwhole : whole = _ := hgoes.run_append hfront back
  have hsecond : second = host.run last disk back := by
    show host.run first.palette first.disk back = _
    rw [hfirst]
  rw [hwhole, hsecond]
  refine ⟨rfl, rfl, rfl, shown, ?_, rfl⟩
  rw [hfirst]

/-- Input that stops within a text is taken up there, and what was typed is written back. -/
theorem session_taken_up_where_input_stopped_typing :
    let host : Host :=
      { target := .file ['f'], source := .textField, options := Options.default, json := false }
    let disk : Disk := { here := [], entries := [([['f']], .file [97])] }
    let palette := Palette.ofLines .textField [['a']] Options.default
    let front : Bytes := [97, 10, 98, 13, 10]
    let back : Bytes := [46, 10, 119, 10]
    let first := host.run palette disk front
    let whole := host.run palette disk (front ++ back)
    first.ending = .ok .endOfInput ∧
      first.palette.editor.mode =
        .typing { kind := .append, range := { start := 1, stop := 1 }, lines := [['b']] } ∧
      whole.ending = .ok .written ∧
      whole.disk.readFile? ['f'] = some [97, 10, 98] ∧
      whole.output = ['*'] ++ "*Buffer written.\n".toList := by
  intro host disk palette front back first whole
  have hending : (host.run palette disk front).ending = .ok .endOfInput := rfl
  obtain ⟨hwhole, _, hdisk, shown, hshown, houtput⟩ :=
    session_taken_up_where_input_stopped (Or.inr rfl) hending back
  have hfirst : shown = ['*'] := (List.append_nil shown).symm.trans hshown.symm
  refine ⟨hending, rfl, hwhole.trans rfl, ?_, ?_⟩
  · rw [hdisk]
    rfl
  · rw [houtput, hfirst]
    rfl

end Host
end LinePalette
