import LinePalette.Proofs.Host.Sessions

/-!
# Transcripts

A session submits the lines of its input one by one, as far as it gets.  The
transcript of a session lists the lines that it has submitted, with what the palette
answered and the palette after each of them.
-/

namespace LinePalette

structure Exchange where
  line : Text
  outcome : Outcome
  action : Action
  /-- The palette after the line. -/
  after : Palette

def Palette.exchange (palette : Palette) (line : Text) : Exchange :=
  let (outcome, action, after) := palette.submit line
  { line := line, outcome := outcome, action := action, after := after }

namespace Host

/-- The lines that a session over chunks of input submits. -/
def transcript (host : Host) (palette : Palette) (disk : Disk) : List Bytes -> List Exchange
  | [] => []
  | chunk :: later =>
      match lineOf? chunk with
      | none => []
      | some line =>
          match host.answer palette disk line with
          | .goesOn next _ => palette.exchange line :: transcript host next disk later
          | .ended _ _ _ _ => [palette.exchange line]

variable {host : Host} {disk : Disk} {palette last : Palette}

theorem transcript_unreadable {chunk : Bytes} (hline : lineOf? chunk = none)
    (later : List Bytes) : host.transcript palette disk (chunk :: later) = [] := by
  rw [transcript, hline]

theorem transcript_goesOn {next : Palette} {chunk : Bytes} {line shown : Text}
    (hline : lineOf? chunk = some line)
    (hanswer : host.answer palette disk line = .goesOn next shown) (later : List Bytes) :
    host.transcript palette disk (chunk :: later) =
      palette.exchange line :: host.transcript next disk later := by
  rw [transcript, hline]
  simp only [hanswer]

theorem transcript_ended {closed : Palette} {chunk : Bytes} {line shown : Text} {left : Disk}
    {ending : Except Failure SessionEnd} (hline : lineOf? chunk = some line)
    (hanswer : host.answer palette disk line = .ended closed shown left ending)
    (later : List Bytes) :
    host.transcript palette disk (chunk :: later) = [palette.exchange line] := by
  rw [transcript, hline]
  simp only [hanswer]

theorem transcript_lines (input : List Bytes) :
    (host.transcript palette disk input).map (fun exchange => some exchange.line) <+:
      input.map lineOf? := by
  induction input generalizing palette with
  | nil => exact List.nil_prefix
  | cons chunk later ih =>
      cases hline : lineOf? chunk with
      | none =>
          rw [transcript_unreadable hline]
          exact List.nil_prefix
      | some line =>
          rw [List.map_cons, hline]
          cases hanswer : host.answer palette disk line with
          | ended closed shown left ending =>
              rw [transcript_ended hline hanswer]
              exact List.prefix_append _ _
          | goesOn next shown =>
              rw [transcript_goesOn hline hanswer, List.map_cons]
              exact (List.prefix_cons_inj _).mpr ih

def lastPalette (palette : Palette) (exchanges : List Exchange) : Palette :=
  exchanges.foldl (fun _ exchange => exchange.after) palette

theorem runChunks_palette (input : List Bytes) :
    (host.runChunks palette disk input).palette =
      lastPalette palette (host.transcript palette disk input) := by
  induction input generalizing palette with
  | nil => rfl
  | cons chunk later ih =>
      cases hline : lineOf? chunk with
      | none =>
          rw [transcript_unreadable hline, runChunks_unreadable hline]
          rfl
      | some line =>
          cases hanswer : host.answer palette disk line with
          | ended closed shown left ending =>
              rw [transcript_ended hline hanswer, runChunks_ended hline hanswer]
              exact (answer_ended hanswer).1
          | goesOn next shown =>
              rw [transcript_goesOn hline hanswer, runChunks_goesOn hline hanswer]
              show (host.runChunks next disk later).palette = _
              rw [ih, (answer_goesOn hanswer).1]
              rfl

theorem GoesOn.transcript_append {before : List Bytes} {output : Text}
    (h : GoesOn host disk palette before last output) (rest : List Bytes) :
    host.transcript palette disk (before ++ rest) =
      host.transcript palette disk before ++ host.transcript last disk rest := by
  induction h with
  | nil palette => rfl
  | cons hline hanswer _ ih =>
      rw [List.cons_append, transcript_goesOn hline hanswer, transcript_goesOn hline hanswer, ih]
      rfl

theorem GoesOn.transcript_lines {before : List Bytes} {output : Text}
    (h : GoesOn host disk palette before last output) :
    (host.transcript palette disk before).map (fun exchange => some exchange.line) =
      before.map lineOf? := by
  induction h with
  | nil palette => rfl
  | cons hline hanswer _ ih =>
      rw [transcript_goesOn hline hanswer, List.map_cons, List.map_cons, hline, ih]
      rfl

end Host
end LinePalette
