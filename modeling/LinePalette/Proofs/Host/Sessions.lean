import LinePalette.Proofs.Host.Lines
import LinePalette.Proofs.Palette.Routing

/-!
# Sessions

A session goes on line by line until one line ends it.  What comes before the
line that ends it changes the palette only, and what comes behind it is not
looked at.
-/

namespace LinePalette
namespace Host

variable {host : Host} {disk : Disk} {palette last : Palette}

/-!
# One line
-/

theorem execute_execute_ending {payload : Payload} {lines : List Text} {output : Text}
    {ending : Except Failure SessionEnd} {left : Disk}
    (h : host.execute disk (.execute payload) lines = (output, ending, left)) :
    ending ≠ .ok .endOfInput := by
  intro hending
  subst hending
  cases payload with
  | highlight regex => cases h
  | write buffer source =>
      have hback : host.writeBack disk source buffer = (.ok .endOfInput, left) :=
        congrArg Prod.snd h
      unfold writeBack at hback
      split at hback
      · cases hback
      · cases hback

theorem answer_eq (line : Text) :
    host.answer palette disk line =
      let after := (palette.submit line).2.2
      let shown := host.answerText (palette.submit line).1 (palette.submit line).2.1
      match (palette.submit line).2.1 with
      | .broadcast message =>
          match message.relay? with
          | none => .goesOn after shown
          | some delivered =>
              let (output, ending, left) := host.execute disk delivered after.editor.buffer
              .ended after (shown ++ output) left ending
      | _ => .goesOn after shown := rfl

theorem answer_goesOn {next : Palette} {line shown : Text}
    (h : host.answer palette disk line = .goesOn next shown) :
    next = (palette.submit line).2.2 ∧
      ∀ payload, (palette.submit line).2.1 ≠ .broadcast (.broadcast payload) := by
  rw [answer_eq] at h
  split at h
  · next message haction =>
      split at h
      · next hrelay =>
          cases h
          refine ⟨rfl, ?_⟩
          intro payload hpayload
          rw [haction] at hpayload
          cases hpayload
          cases hrelay
      · cases h
  · next hother =>
      cases h
      refine ⟨rfl, ?_⟩
      intro payload hpayload
      exact hother _ hpayload

theorem answer_ended {closed : Palette} {line shown : Text} {left : Disk}
    {ending : Except Failure SessionEnd}
    (h : host.answer palette disk line = .ended closed shown left ending) :
    closed = (palette.submit line).2.2 ∧
      ∃ payload output,
        (palette.submit line).2.1 = .broadcast (.broadcast payload) ∧
        host.execute disk (.execute payload) closed.editor.buffer = (output, ending, left) := by
  rw [answer_eq] at h
  split at h
  · next message haction =>
      split at h
      · cases h
      · next delivered hrelay =>
          cases h
          cases message with
          | toggle => cases hrelay
          | execute payload => cases hrelay
          | broadcast payload =>
              cases hrelay
              exact ⟨rfl, payload, _, haction, rfl⟩
  · cases h

/-- What comes of a line that closes the palette, from the answer to it on. -/
def closing (host : Host) (disk : Disk) (palette : Palette) (line : Text) (payload : Payload) :
    Run :=
  let (outcome, action, closed) := palette.submit line
  let (output, ending, left) := host.execute disk (.execute payload) closed.editor.buffer
  { palette := closed, output := host.answerText outcome action ++ output, disk := left,
    ending := ending }

theorem answer_broadcast {line : Text} {payload : Payload}
    (h : (palette.submit line).2.1 = .broadcast (.broadcast payload)) :
    host.answer palette disk line =
      let closed := host.closing disk palette line payload
      .ended closed.palette closed.output closed.disk closed.ending := by
  rw [answer_eq]
  simp only [h]
  unfold closing
  simp only [h]
  rfl

theorem answer_of_no_broadcast {line : Text}
    (h : ∀ payload, (palette.submit line).2.1 ≠ .broadcast (.broadcast payload)) :
    host.answer palette disk line =
      .goesOn (palette.submit line).2.2
        (host.answerText (palette.submit line).1 (palette.submit line).2.1) := by
  rw [answer_eq]
  split
  · next message haction =>
      cases message with
      | toggle => rfl
      | execute payload => rfl
      | broadcast payload => exact absurd haction (h payload)
  · rfl

/-!
# Lines that go on

Chunks that take one palette to another, with what is printed for them.
-/

inductive GoesOn (host : Host) (disk : Disk) :
    Palette -> List Bytes -> Palette -> Text -> Prop where
  | nil (palette : Palette) : GoesOn host disk palette [] palette []
  | cons {palette next last : Palette} {chunk : Bytes} {later : List Bytes}
      {line shown output : Text} :
      lineOf? chunk = some line ->
      host.answer palette disk line = .goesOn next shown ->
      GoesOn host disk next later last output ->
      GoesOn host disk palette (chunk :: later) last
        (host.promptText palette ++ shown ++ output)

theorem GoesOn.source_eq {before : List Bytes} {output : Text}
    (h : GoesOn host disk palette before last output) : last.source = palette.source := by
  induction h with
  | nil palette => rfl
  | cons _ hanswer _ ih =>
      rw [ih, (answer_goesOn hanswer).1]
      rfl

theorem runChunks_goesOn {next : Palette} {chunk : Bytes} {line shown : Text}
    (hline : lineOf? chunk = some line)
    (hanswer : host.answer palette disk line = .goesOn next shown) (later : List Bytes) :
    host.runChunks palette disk (chunk :: later) =
      { host.runChunks next disk later with
        output :=
          host.promptText palette ++ shown ++ (host.runChunks next disk later).output } := by
  rw [runChunks, hline]
  simp only [hanswer]

theorem GoesOn.runChunks_append {before : List Bytes} {output : Text}
    (h : GoesOn host disk palette before last output) (rest : List Bytes) :
    host.runChunks palette disk (before ++ rest) =
      { host.runChunks last disk rest with
        output := output ++ (host.runChunks last disk rest).output } := by
  induction h with
  | nil palette => rfl
  | cons hline hanswer _ ih =>
      rw [List.cons_append, runChunks_goesOn hline hanswer, ih]
      simp only [List.append_assoc]

theorem GoesOn.runChunks_eq {before : List Bytes} {output : Text}
    (h : GoesOn host disk palette before last output) :
    host.runChunks palette disk before =
      { palette := last, output := output ++ host.promptText last, disk := disk,
        ending := .ok .endOfInput } := by
  have hrun := h.runChunks_append []
  rw [List.append_nil] at hrun
  exact hrun

/-!
# Lines that end a session
-/

theorem runChunks_ended {closed : Palette} {chunk : Bytes} {line shown : Text} {left : Disk}
    {ending : Except Failure SessionEnd} (hline : lineOf? chunk = some line)
    (hanswer : host.answer palette disk line = .ended closed shown left ending)
    (rest : List Bytes) :
    host.runChunks palette disk (chunk :: rest) =
      { palette := closed, output := host.promptText palette ++ shown, disk := left,
        ending := ending } := by
  rw [runChunks, hline]
  simp only [hanswer]

theorem runChunks_unreadable {chunk : Bytes} (hline : lineOf? chunk = none)
    (rest : List Bytes) :
    host.runChunks palette disk (chunk :: rest) =
      { palette := palette, output := host.promptText palette, disk := disk,
        ending := .error .readInput } := by
  rw [runChunks, hline]

/-- The chunk ends a session: it is not text, or its line closes the palette. -/
inductive Ends (host : Host) (disk : Disk) (palette : Palette) (chunk : Bytes) : Run -> Prop where
  | unreadable : lineOf? chunk = none ->
      Ends host disk palette chunk
        { palette := palette, output := host.promptText palette, disk := disk,
          ending := .error .readInput }
  | answered {closed : Palette} {line shown : Text} {left : Disk}
      {ending : Except Failure SessionEnd} :
      lineOf? chunk = some line ->
      host.answer palette disk line = .ended closed shown left ending ->
      Ends host disk palette chunk
        { palette := closed, output := host.promptText palette ++ shown, disk := left,
          ending := ending }

theorem Ends.runChunks_eq {chunk : Bytes} {run : Run} (h : Ends host disk palette chunk run)
    (rest : List Bytes) : host.runChunks palette disk (chunk :: rest) = run := by
  cases h with
  | unreadable hline => exact runChunks_unreadable hline rest
  | answered hline hanswer => exact runChunks_ended hline hanswer rest

theorem Ends.ending_ne {chunk : Bytes} {run : Run} (h : Ends host disk palette chunk run) :
    run.ending ≠ .ok .endOfInput := by
  cases h with
  | unreadable _ =>
      intro hending
      cases hending
  | answered _ hanswer =>
      rcases answer_ended hanswer with ⟨_, payload, output, _, hexecute⟩
      exact execute_execute_ending hexecute

theorem goesOn_or_ends (host : Host) (disk : Disk) (palette : Palette) (input : List Bytes) :
    (∃ last output, GoesOn host disk palette input last output) ∨
      ∃ before chunk later last output run,
        input = before ++ chunk :: later ∧ GoesOn host disk palette before last output ∧
        Ends host disk last chunk run := by
  induction input generalizing palette with
  | nil => exact Or.inl ⟨palette, [], GoesOn.nil palette⟩
  | cons chunk later ih =>
      cases hline : lineOf? chunk with
      | none =>
          exact Or.inr ⟨[], chunk, later, palette, [], _, rfl, GoesOn.nil palette,
            Ends.unreadable hline⟩
      | some line =>
          cases hanswer : host.answer palette disk line with
          | ended closed shown left ending =>
              exact Or.inr ⟨[], chunk, later, palette, [], _, rfl, GoesOn.nil palette,
                Ends.answered hline hanswer⟩
          | goesOn next shown =>
              rcases ih next with ⟨last, output, hrest⟩ |
                ⟨before, other, more, last, output, run, hsplit, hbefore, hends⟩
              · exact Or.inl ⟨last, _, GoesOn.cons hline hanswer hrest⟩
              · refine Or.inr ⟨chunk :: before, other, more, last, _, run, ?_,
                  GoesOn.cons hline hanswer hbefore, hends⟩
                rw [hsplit]
                rfl

/-!
# Invariants
-/

/-- What every line keeps of a palette, a session keeps. -/
theorem runChunks_keeps {Holds : Palette -> Prop} {input : List Bytes}
    (hstep : ∀ chunk ∈ input, ∀ line, lineOf? chunk = some line -> ∀ palette, Holds palette ->
      Holds (palette.submit line).2.2)
    (h : Holds palette) : Holds (host.runChunks palette disk input).palette := by
  induction input generalizing palette with
  | nil => exact h
  | cons chunk later ih =>
      rcases List.forall_mem_cons.mp hstep with ⟨hchunk, hlater⟩
      cases hline : lineOf? chunk with
      | none =>
          rw [runChunks_unreadable hline]
          exact h
      | some line =>
          have hnext := hchunk line hline palette h
          cases hanswer : host.answer palette disk line with
          | ended closed shown left ending =>
              rw [runChunks_ended hline hanswer, (answer_ended hanswer).1]
              exact hnext
          | goesOn next shown =>
              rw [← (answer_goesOn hanswer).1] at hnext
              rw [runChunks_goesOn hline hanswer]
              exact ih hlater hnext

/-!
# Whole sessions
-/

theorem run_of_ends {front chunk rest : Bytes} {output : Text} {run : Run}
    (hfront : EndsLine front) (hline : IsLine chunk rest)
    (hbefore : GoesOn host disk palette (chunks front) last output)
    (hends : Ends host disk last chunk run) :
    host.run palette disk (front ++ chunk ++ rest) =
      { run with output := output ++ run.output } := by
  unfold Host.run
  rw [chunks_line hfront hline, hbefore.runChunks_append, hends.runChunks_eq]

theorem goesOn_of_run {input : Bytes}
    (h : (host.run palette disk input).ending = .ok .endOfInput) :
    ∃ last output, GoesOn host disk palette (chunks input) last output := by
  rcases goesOn_or_ends host disk palette (chunks input) with hgoes |
    ⟨before, chunk, later, last, output, run, hsplit, hbefore, hends⟩
  · exact hgoes
  · unfold Host.run at h
    rw [hsplit, hbefore.runChunks_append, hends.runChunks_eq] at h
    exact absurd h hends.ending_ne

theorem run_source {input : Bytes}
    (h : (host.run palette disk input).ending = .ok .endOfInput) :
    (host.run palette disk input).palette.source = palette.source := by
  rcases goesOn_of_run h with ⟨last, output, hgoes⟩
  have hrun : host.run palette disk input = _ := hgoes.runChunks_eq
  rw [hrun]
  exact hgoes.source_eq

theorem run_closing {front chunk rest : Bytes} {line : Text} {payload : Payload}
    (hfront : EndsLine front) (hchunk : IsLine chunk rest)
    (hending : (host.run palette disk front).ending = .ok .endOfInput)
    (hline : lineOf? chunk = some line)
    (haction : ((host.run palette disk front).palette.submit line).2.1 =
      .broadcast (.broadcast payload)) :
    let before := host.run palette disk front
    let closed := host.closing disk before.palette line payload
    host.run palette disk (front ++ chunk ++ rest) =
      { closed with output := before.output ++ closed.output } := by
  rcases goesOn_of_run hending with ⟨last, output, hgoes⟩
  have hbefore : host.run palette disk front = _ := hgoes.runChunks_eq
  rw [hbefore] at haction ⊢
  have hends : Ends host disk last chunk _ := Ends.answered hline (answer_broadcast haction)
  rw [run_of_ends hfront hchunk hgoes hends]
  simp only [List.append_assoc]

/-- A session ends with its input, or at a line whatever comes behind the line. -/
theorem run_cases (host : Host) (disk : Disk) (palette : Palette) (input : Bytes) :
    (∃ last output, GoesOn host disk palette (chunks input) last output) ∨
      ∃ front chunk rest last output run,
        input = front ++ chunk ++ rest ∧ EndsLine front ∧ IsLine chunk rest ∧
        GoesOn host disk palette (chunks front) last output ∧ Ends host disk last chunk run := by
  rcases goesOn_or_ends host disk palette (chunks input) with hgoes |
    ⟨before, chunk, later, last, output, run, hsplit, hbefore, hends⟩
  · exact Or.inl hgoes
  · rcases chunks_eq_append_cons hsplit with ⟨front, rest, hinput, hfront, hended, hline⟩
    rw [← hfront] at hbefore
    exact Or.inr ⟨front, chunk, rest, last, output, run, hinput, hended, hline, hbefore, hends⟩

end Host
end LinePalette
