import LinePalette.Proofs.Host.Listing
import LinePalette.Proofs.Host.Transcripts

/-!
# The output of JSON sessions

A session that prints JSON prints a line for each line that it submits, and nothing
else but one more line when it ends by showing highlights.  The outcomes are read
back from what has been printed.
-/

namespace LinePalette
namespace Host

variable {host : Host} {disk : Disk} {palette last : Palette}

/-!
# How a session ends
-/

/-- The session was ended by a line that asks for the highlights of the pattern. -/
def EndedByHighlight (run : Run) (exchanges : List Exchange) (pattern : Pattern) : Prop :=
  run.ending = .ok .highlighted ∧
    ∃ exchange regex,
      exchanges.getLast? = some exchange ∧ exchange.line = '/' :: (regex ++ ['/', 'H']) ∧
      Pattern.compile regex = .ok pattern

theorem endedByHighlight_concat {run : Run} {exchanges : List Exchange} {exchange : Exchange}
    {regex : Text} {pattern : Pattern} (hending : run.ending = .ok .highlighted)
    (hline : exchange.line = '/' :: (regex ++ ['/', 'H'])) :
    EndedByHighlight run (exchanges ++ [exchange]) pattern ↔
      Pattern.compile regex = .ok pattern := by
  unfold EndedByHighlight
  rw [List.getLast?_concat]
  constructor
  · rintro ⟨_, other, spelled, hlast, hother, hcompile⟩
    cases hlast
    rw [hline] at hother
    have hregex : regex = spelled := List.append_cancel_right (List.cons.inj hother).right
    rw [hregex]
    exact hcompile
  · intro hcompile
    exact ⟨hending, exchange, regex, rfl, hline, hcompile⟩

/-- What a session prints behind its answers: highlights, if it was ended by a request for them. -/
structure Behind (run : Run) (exchanges : List Exchange) (behind : Text) : Prop where
  highlights : ∀ pattern, EndedByHighlight run exchanges pattern ->
    ∃ listing,
      ListsHighlights pattern run.palette.editor.buffer listing ∧ behind = listing ++ ['\n']
  nothing : (∀ pattern, ¬EndedByHighlight run exchanges pattern) -> behind = []

theorem Behind.of_ending_ne {run : Run} {exchanges : List Exchange}
    (h : run.ending ≠ .ok .highlighted) : Behind run exchanges [] := by
  constructor
  · intro pattern hended
    exact absurd hended.left h
  · intro _
    rfl

theorem Behind.of_highlight {run : Run} {exchanges : List Exchange} {exchange : Exchange}
    {regex : Text} (hending : run.ending = .ok .highlighted)
    (hline : exchange.line = '/' :: (regex ++ ['/', 'H'])) :
    Behind run (exchanges ++ [exchange])
      (highlightOutput true regex run.palette.editor.buffer) := by
  constructor
  · intro pattern hended
    exact highlightOutput_json_ok ((endedByHighlight_concat hending hline).mp hended) _
  · intro hnone
    cases hcompile : Pattern.compile regex with
    | error error => exact highlightOutput_json_error hcompile _
    | ok pattern =>
        exact absurd ((endedByHighlight_concat hending hline).mpr hcompile) (hnone pattern)

theorem Behind.ofLines_eq_nil {run : Run} {exchanges : List Exchange} {behind : Text}
    (h : Behind run exchanges behind) : Outcome.ofLines behind = [] := by
  have hnil : Outcome.ofLines [] = [] := by decide
  by_cases hended : ∃ pattern, EndedByHighlight run exchanges pattern
  · rcases hended with ⟨pattern, hpattern⟩
    rcases h.highlights pattern hpattern with ⟨listing, hlisting, rfl⟩
    rw [Outcome.ofLines_line hlisting.printable, hlisting.ofLine?_eq_none, hnil]
    rfl
  · rw [h.nothing fun pattern hpattern => hended ⟨pattern, hpattern⟩]
    exact hnil

theorem writeBack_ending_ne (lines : List Text) (source : Source) :
    (host.writeBack disk source lines).1 ≠ .ok .highlighted := by
  unfold writeBack
  split
  · exact fun h => nomatch h
  · exact fun h => nomatch h

/-!
# One line
-/

theorem promptText_json (hjson : host.json = true) (palette : Palette) :
    host.promptText palette = [] := by
  unfold promptText
  rw [hjson]
  rfl

theorem answerText_json (hjson : host.json = true) (outcome : Outcome) (action : Action) :
    host.answerText outcome action = Outcome.printLines [outcome] := by
  unfold answerText
  rw [hjson, if_pos rfl]
  exact (List.append_nil _).symm

theorem answer_goesOn_json (hjson : host.json = true) {next : Palette} {line shown : Text}
    (h : host.answer palette disk line = .goesOn next shown) :
    shown = Outcome.printLines [(palette.exchange line).outcome] := by
  rw [answer_of_no_broadcast (answer_goesOn h).2] at h
  cases h
  exact answerText_json hjson _ _

theorem answer_ended_json (hjson : host.json = true) {closed : Palette} {line shown : Text}
    {left : Disk} {ending : Except Failure SessionEnd}
    (h : host.answer palette disk line = .ended closed shown left ending) :
    ∃ behind,
      shown = Outcome.printLines [(palette.exchange line).outcome] ++ behind ∧
      ((ending ≠ .ok .highlighted ∧ behind = []) ∨
        ∃ regex,
          ending = .ok .highlighted ∧ line = '/' :: (regex ++ ['/', 'H']) ∧
          behind = highlightOutput true regex closed.editor.buffer) := by
  rcases answer_ended h with ⟨hclosed, payload, output, hsent, hexecute⟩
  rw [answer_broadcast hsent] at h
  have hshown : (host.closing disk palette line payload).output = shown := by
    cases h
    rfl
  refine ⟨output, ?_, ?_⟩
  · rw [← hshown]
    unfold closing
    rw [hclosed] at hexecute
    simp only [hexecute, answerText_json hjson]
    rfl
  · cases payload with
    | write buffer source =>
        rcases Prod.mk.inj hexecute with ⟨houtput, hback⟩
        refine Or.inl ⟨?_, houtput.symm⟩
        intro hending
        apply host.writeBack_ending_ne buffer source
        rw [hback]
        exact hending
    | highlight regex =>
        cases hexecute
        rcases Palette.route_broadcast hsent with ⟨asked, hpayload, hline⟩ |
          ⟨_, _, hpayload, _, _⟩
        · cases hpayload
          rw [hjson]
          exact Or.inr ⟨regex, rfl, Palette.highlightRequest?_eq_some_iff.mp hline, rfl⟩
        · cases hpayload

/-!
# Whole sessions
-/

theorem GoesOn.output_json (hjson : host.json = true) {before : List Bytes} {output : Text}
    (h : GoesOn host disk palette before last output) :
    output = Outcome.printLines ((host.transcript palette disk before).map Exchange.outcome) := by
  induction h with
  | nil palette => rfl
  | cons hline hanswer _ ih =>
      rw [transcript_goesOn hline hanswer, promptText_json hjson,
        answer_goesOn_json hjson hanswer, ih]
      exact (Outcome.printLines_append [_] _).symm

theorem runChunks_output_json (hjson : host.json = true) (palette : Palette) (disk : Disk)
    (input : List Bytes) :
    let run := host.runChunks palette disk input
    let exchanges := host.transcript palette disk input
    ∃ behind,
      run.output = Outcome.printLines (exchanges.map Exchange.outcome) ++ behind ∧
      Behind run exchanges behind := by
  rcases goesOn_or_ends host disk palette input with ⟨last, output, hgoes⟩ |
    ⟨before, chunk, later, last, output, ended, hsplit, hbefore, hends⟩
  · rw [hgoes.runChunks_eq, hgoes.output_json hjson, promptText_json hjson]
    exact ⟨[], rfl, Behind.of_ending_ne fun h => nomatch h⟩
  · rw [hsplit, hbefore.runChunks_append, hends.runChunks_eq, hbefore.transcript_append,
      hbefore.output_json hjson]
    cases hends with
    | unreadable hline =>
        rw [transcript_unreadable hline, promptText_json hjson, List.append_nil]
        exact ⟨[], by simp only [List.append_nil], Behind.of_ending_ne fun h => nomatch h⟩
    | answered hline hanswer =>
        rw [transcript_ended hline hanswer, promptText_json hjson, List.nil_append]
        rcases answer_ended_json hjson hanswer with ⟨behind, hshown, hbehind⟩
        refine ⟨behind, ?_, ?_⟩
        · simp only [hshown, List.map_append, Outcome.printLines_append, List.append_assoc]
          rfl
        · rcases hbehind with ⟨hending, rfl⟩ | ⟨regex, rfl, hregex, rfl⟩
          · exact Behind.of_ending_ne hending
          · exact Behind.of_highlight rfl hregex

/--
A session that prints JSON submits lines from the front of its input, all of them if
it is not ended before, and prints for each one line that holds its outcome.  One more
line comes behind them if the session was ended by a request for the highlights of a
pattern that can be read: the one object that lists them in the lines of the last
buffer.  Nothing comes behind the outcomes otherwise.  No line holds a line ending, no
two outcomes are printed alike, and the outcomes are found again in the output.
-/
theorem json_output_lists_outcomes (hjson : host.json = true) (palette : Palette) (disk : Disk)
    (input : Bytes) :
    let run := host.run palette disk input
    let exchanges := host.transcript palette disk (chunks input)
    let outcomes := exchanges.map Exchange.outcome
    exchanges.map (fun exchange => some exchange.line) <+: (chunks input).map lineOf? ∧
      (run.ending = .ok .endOfInput ->
        exchanges.map (fun exchange => some exchange.line) = (chunks input).map lineOf?) ∧
      (∀ pattern, EndedByHighlight run exchanges pattern ->
        ∃ listing,
          ListsHighlights pattern run.palette.editor.buffer listing ∧
          run.output = Outcome.printLines outcomes ++ (listing ++ ['\n'])) ∧
      ((∀ pattern, ¬EndedByHighlight run exchanges pattern) ->
        run.output = Outcome.printLines outcomes) ∧
      (∀ outcome : Outcome, '\n' ∉ outcome.toJson.compact) ∧
      (∀ pattern lines listing, ListsHighlights pattern lines listing ->
        '\n' ∉ listing ∧ ∀ other, ListsHighlights pattern lines other -> listing = other) ∧
      (∀ outcome other : Outcome,
        outcome.toJson.compact = other.toJson.compact -> outcome = other) ∧
      Outcome.ofOutput (Utf8.encode run.output) = outcomes := by
  intro run exchanges outcomes
  rcases runChunks_output_json hjson palette disk (chunks input) with ⟨behind, houtput, hbehind⟩
  change run.output = Outcome.printLines outcomes ++ behind at houtput
  change Behind run exchanges behind at hbehind
  refine ⟨transcript_lines _, ?_, ?_, ?_, ?_, ?_, ?_, ?_⟩
  · intro hending
    rcases goesOn_of_run hending with ⟨last, output, hgoes⟩
    exact hgoes.transcript_lines
  · intro pattern hended
    rcases hbehind.highlights pattern hended with ⟨listing, hlisting, hline⟩
    refine ⟨listing, hlisting, ?_⟩
    rw [houtput, hline]
  · intro hnone
    rw [houtput, hbehind.nothing hnone, List.append_nil]
  · intro outcome hnewline
    exact outcome.printable_compact '\n' hnewline (by decide)
  · intro pattern lines listing hlisting
    exact ⟨fun hnewline => hlisting.printable '\n' hnewline (by decide),
      fun other => hlisting.unique⟩
  · intro outcome other h
    exact Outcome.compact_injective h
  · unfold Outcome.ofOutput
    rw [Utf8.decode?_encode, Option.getD_some, houtput, Outcome.ofLines_printLines,
      hbehind.ofLines_eq_nil, List.append_nil]

/-- A line with a quote is typed, and a request for highlights ends the session. -/
theorem json_output_lists_outcomes_highlighting :
    let host : Host :=
      { target := .file ['f'], source := .textField, options := Options.default, json := true }
    let disk : Disk := { here := [], entries := [([['f']], .file [97])] }
    let palette := Palette.ofLines .textField [['a']] host.options
    let input := Utf8.encode "a\n\"x\n.\n/(x)/H\nw\n".toList
    let run := host.run palette disk input
    let exchanges := host.transcript palette disk (chunks input)
    let outcomes : List Outcome :=
      [.input, .more, .output [], .output (Editor.verboseMessage true)]
    let listing :=
      "\x7b\"highlights\":[\x7b\"className\":\"rh-highlight-span rh-highlight-g1\",".toList ++
        "\"end\":4,\"from\":\x7b\"column\":1,\"line\":2\x7d,\"group\":1,\"start\":3,".toList ++
        "\"to\":\x7b\"column\":2,\"line\":2\x7d\x7d]\x7d".toList
    ∃ pattern,
      EndedByHighlight run exchanges pattern ∧
      ListsHighlights pattern [['a'], ['"', 'x']] listing ∧
      run.output = Outcome.printLines outcomes ++ (listing ++ ['\n']) ∧
      Outcome.ofOutput (Utf8.encode run.output) = outcomes := by
  intro host disk palette input run exchanges outcomes listing
  have houtcomes : exchanges.map Exchange.outcome = outcomes := by decide +kernel
  have hbuffer : run.palette.editor.buffer = [['a'], ['"', 'x']] := by decide +kernel
  have hrun : run.output = Outcome.printLines outcomes ++ (listing ++ ['\n']) := by decide +kernel
  obtain ⟨pattern, hended⟩ : ∃ pattern, EndedByHighlight run exchanges pattern :=
    ⟨_, rfl, _, "(x)".toList, rfl, rfl, rfl⟩
  rcases @json_output_lists_outcomes host rfl palette disk input with
    ⟨_, _, hhighlights, _, _, _, _, hread⟩
  rcases hhighlights pattern hended with ⟨printed, hprinted, houtput⟩
  rw [houtcomes] at houtput hread
  rw [hrun] at houtput
  have hsame : listing = printed :=
    List.append_cancel_right (List.append_cancel_left houtput)
  refine ⟨pattern, hended, ?_, hrun, hread⟩
  rw [hsame, ← hbuffer]
  exact hprinted

end Host
end LinePalette
