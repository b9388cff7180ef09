import Mathlib.Data.List.Forall2
import LinePalette.Proofs.Editor.Options
import LinePalette.Proofs.Host.Transcripts

/-!
# Options of sessions

Options and the choice between plain text and JSON decide how a session looks.  Two
sessions that differ in nothing else submit the same lines, do the same with each of
them, and leave the same files behind.
-/

namespace LinePalette

structure Palette.Alike (palette other : Palette) : Prop where
  editor : palette.editor.Alike other.editor
  source : other.source = palette.source

structure Exchange.Alike (exchange other : Exchange) : Prop where
  line : other.line = exchange.line
  outcome : exchange.outcome.Alike exchange.line other.outcome
  after : exchange.after.Alike other.after

namespace Palette

/-!
# Submitted lines
-/

theorem ofText_alike (source : Source) (text : Text) (options otherOptions : Options) :
    (ofText source text options).Alike (ofText source text otherOptions) :=
  ⟨⟨rfl, rfl, rfl, rfl⟩, rfl⟩

theorem route_alike {typed : Text} {outcome other : Outcome} (h : outcome.Alike typed other)
    (source : Source) (typing : Bool) (line : Text) (message : Message) :
    route source typing line other = .broadcast message ↔
      route source typing line outcome = .broadcast message := by
  have hrender : ∀ text : Option Text, Action.render text ≠ .broadcast message := by
    intro text htext
    cases htext
  cases h with
  | same outcome => exact Iff.rfl
  | error error verbose otherVerbose =>
      simp only [route, plainAction]
      split
      · exact Iff.rfl
      · exact iff_of_false (hrender _) (hrender _)
  | explain on otherOn _ =>
      simp only [route, plainAction]
      split
      · exact Iff.rfl
      · exact iff_of_false (hrender _) (hrender _)

theorem exchange_alike {palette other : Palette} (h : palette.Alike other) (line : Text) :
    (palette.exchange line).Alike (other.exchange line) := by
  rcases Editor.process_alike h.editor line with ⟨houtcome, hafter⟩
  exact ⟨rfl, houtcome, ⟨hafter, h.source⟩⟩

theorem submit_alike {palette other : Palette} (h : palette.Alike other) (line : Text)
    (message : Message) :
    (other.submit line).2.1 = .broadcast message ↔
      (palette.submit line).2.1 = .broadcast message := by
  rcases Editor.process_alike h.editor line with ⟨houtcome, hafter⟩
  have htyping : (other.editor.process line).2.isTyping =
      (palette.editor.process line).2.isTyping := by
    unfold Editor.isTyping
    rw [hafter.mode]
  show route other.source (other.editor.process line).2.isTyping line _ = _ ↔ _
  rw [h.source, htyping]
  exact route_alike houtcome _ _ line message

end Palette

namespace Host

variable {host other : Host} {palette otherPalette : Palette}

/-!
# One line
-/

/-- The sessions both go on, or both end in the same way with the same files. -/
inductive Turnout.Alike : Turnout -> Turnout -> Prop where
  | goesOn {palette other : Palette} {shown otherShown : Text} :
      palette.Alike other -> Alike (.goesOn palette shown) (.goesOn other otherShown)
  | ended {palette other : Palette} {shown otherShown : Text} {disk : Disk}
      {ending : Except Failure SessionEnd} :
      palette.Alike other ->
      Alike (.ended palette shown disk ending) (.ended other otherShown disk ending)

theorem execute_alike (htarget : other.target = host.target) (disk : Disk) (message : Message)
    (lines : List Text) :
    (other.execute disk message lines).2 = (host.execute disk message lines).2 := by
  cases message with
  | toggle => rfl
  | broadcast payload => rfl
  | execute payload =>
      cases payload with
      | highlight regex => rfl
      | write buffer source =>
          show other.writeBack disk source buffer = host.writeBack disk source buffer
          unfold writeBack
          rw [htarget]

theorem closing_alike (htarget : other.target = host.target) (h : palette.Alike otherPalette)
    (disk : Disk) (line : Text) (payload : Payload) :
    (other.closing disk otherPalette line payload).disk =
        (host.closing disk palette line payload).disk ∧
      (other.closing disk otherPalette line payload).ending =
        (host.closing disk palette line payload).ending := by
  have hbuffer : (otherPalette.submit line).2.2.editor.buffer =
      (palette.submit line).2.2.editor.buffer :=
    (Palette.exchange_alike h line).after.editor.buffer
  have hexecute :
      (other.execute disk (.execute payload) (otherPalette.submit line).2.2.editor.buffer).2 =
        (host.execute disk (.execute payload) (palette.submit line).2.2.editor.buffer).2 := by
    rw [hbuffer]
    exact execute_alike htarget disk _ _
  constructor
  · exact congrArg Prod.snd hexecute
  · exact congrArg Prod.fst hexecute

theorem answer_alike (htarget : other.target = host.target) (h : palette.Alike otherPalette)
    (disk : Disk) (line : Text) :
    Turnout.Alike (host.answer palette disk line) (other.answer otherPalette disk line) := by
  have hafter := (Palette.exchange_alike h line).after
  by_cases hsent : ∃ payload, (palette.submit line).2.1 = .broadcast (.broadcast payload)
  · rcases hsent with ⟨payload, hpayload⟩
    rcases closing_alike htarget h disk line payload with ⟨hdisk, hending⟩
    rw [answer_broadcast hpayload, answer_broadcast ((Palette.submit_alike h line _).mpr hpayload)]
    simp only [hdisk, hending]
    exact .ended hafter
  · have hother : ∀ payload, (otherPalette.submit line).2.1 ≠ .broadcast (.broadcast payload) :=
      fun payload hpayload => hsent ⟨payload, (Palette.submit_alike h line _).mp hpayload⟩
    rw [answer_of_no_broadcast fun payload hpayload => hsent ⟨payload, hpayload⟩,
      answer_of_no_broadcast hother]
    exact .goesOn hafter

/-!
# Whole sessions
-/

theorem lastPalette_alike (h : palette.Alike otherPalette)
    {exchanges otherExchanges : List Exchange}
    (hexchanges : List.Forall₂ Exchange.Alike exchanges otherExchanges) :
    (lastPalette palette exchanges).Alike (lastPalette otherPalette otherExchanges) := by
  induction hexchanges generalizing palette otherPalette with
  | nil => exact h
  | cons hexchange _ ih => exact ih hexchange.after

theorem runChunks_alike (htarget : other.target = host.target) (h : palette.Alike otherPalette)
    (disk : Disk) (input : List Bytes) :
    (other.runChunks otherPalette disk input).ending =
        (host.runChunks palette disk input).ending ∧
      (other.runChunks otherPalette disk input).disk =
        (host.runChunks palette disk input).disk ∧
      List.Forall₂ Exchange.Alike (host.transcript palette disk input)
        (other.transcript otherPalette disk input) := by
  induction input generalizing palette otherPalette with
  | nil => exact ⟨rfl, rfl, .nil⟩
  | cons chunk later ih =>
      cases hline : lineOf? chunk with
      | none =>
          rw [runChunks_unreadable hline, runChunks_unreadable hline,
            transcript_unreadable hline, transcript_unreadable hline]
          exact ⟨rfl, rfl, .nil⟩
      | some line =>
          have hexchange := Palette.exchange_alike h line
          have hanswer := answer_alike htarget h disk line
          generalize hhost : host.answer palette disk line = turnout at hanswer
          generalize hother : other.answer otherPalette disk line = otherTurnout at hanswer
          cases hanswer with
          | ended _ =>
              rw [runChunks_ended hline hhost, runChunks_ended hline hother,
                transcript_ended hline hhost, transcript_ended hline hother]
              exact ⟨rfl, rfl, .cons hexchange .nil⟩
          | goesOn hnext =>
              rcases ih hnext with ⟨hending, hdisk, hlater⟩
              rw [transcript_goesOn hline hhost, transcript_goesOn hline hother,
                runChunks_goesOn hline hhost, runChunks_goesOn hline hother]
              exact ⟨hending, hdisk, .cons hexchange hlater⟩

/-!
# Opening
-/

theorem openPalette_alike (htarget : other.target = host.target)
    (hsource : other.source = host.source) (disk : Disk) :
    (∃ failure, host.openPalette disk = .error failure ∧
        other.openPalette disk = .error failure) ∨
      ∃ palette otherPalette,
        host.openPalette disk = .ok palette ∧ other.openPalette disk = .ok otherPalette ∧
        palette.Alike otherPalette := by
  unfold openPalette
  rw [htarget, hsource]
  cases host.target with
  | file path =>
      simp only
      cases disk.readText? path with
      | none => exact Or.inl ⟨.readFile path, rfl, rfl⟩
      | some text => exact Or.inr ⟨_, _, rfl, rfl, Palette.ofText_alike _ _ _ _⟩
  | clipboard => exact Or.inr ⟨_, _, rfl, rfl, ⟨⟨rfl, rfl, rfl, rfl⟩, rfl⟩⟩

/--
Two sessions over the same target with the same input, whatever their options and
whether or not they print JSON, either cannot be opened for the same reason, or end
in the same way with the same files.  They have submitted the same lines, and after
each of them buffer, cursor, mode and remembered error are the same.  The answers
differ in what they say about an error, and in the announcement of the command that
has errors explained or no longer explained.
-/
theorem options_change_only_how_sessions_look (htarget : other.target = host.target)
    (hsource : other.source = host.source) (disk : Disk) (input : Bytes) :
    (∀ failure, host.openPalette disk = .error failure ↔
        other.openPalette disk = .error failure) ∧
      ∀ palette otherPalette,
        host.openPalette disk = .ok palette -> other.openPalette disk = .ok otherPalette ->
          let run := host.run palette disk input
          let otherRun := other.run otherPalette disk input
          palette.Alike otherPalette ∧
            otherRun.ending = run.ending ∧ otherRun.disk = run.disk ∧
            run.palette.Alike otherRun.palette ∧
            List.Forall₂ Exchange.Alike (host.transcript palette disk (chunks input))
              (other.transcript otherPalette disk (chunks input)) := by
  rcases openPalette_alike htarget hsource disk with ⟨failure, hfailed, hotherFailed⟩ |
    ⟨opened, otherOpened, hopened, hotherOpened, halike⟩
  · constructor
    · intro failure
      rw [hfailed, hotherFailed]
    · intro palette otherPalette hopen
      rw [hfailed] at hopen
      cases hopen
  · constructor
    · intro failure
      rw [hopened, hotherOpened]
      constructor
      · intro h
        cases h
      · intro h
        cases h
    · intro palette otherPalette hopen hotherOpen run otherRun
      rw [hopened] at hopen
      rw [hotherOpened] at hotherOpen
      cases hopen
      cases hotherOpen
      rcases runChunks_alike htarget halike disk (chunks input) with
        ⟨hending, hdisk, hexchanges⟩
      refine ⟨halike, hending, hdisk, ?_, hexchanges⟩
      have hlast := lastPalette_alike halike hexchanges
      rw [← runChunks_palette, ← runChunks_palette] at hlast
      exact hlast

theorem options_change_only_how_sessions_look_explaining :
    let host : Host :=
      { target := .file ['f'], source := .textField, options := Options.default, json := false }
    let other : Host :=
      { host with options := { showPrompt := false, verboseErrors := true }, json := true }
    let disk : Disk := { here := [], entries := [([['f']], .file [97])] }
    let palette := Palette.ofLines .textField [['a']] host.options
    let otherPalette := Palette.ofLines .textField [['a']] other.options
    let input := Utf8.encode "H\n2p\nw\n".toList
    (host.transcript palette disk (chunks input)).map Exchange.outcome =
        [.output (Editor.verboseMessage true), .error "? invalid address".toList,
          .saved Editor.savedMessage [['a']]] ∧
      (other.transcript otherPalette disk (chunks input)).map Exchange.outcome =
        [.output (Editor.verboseMessage false), .error ['?'],
          .saved Editor.savedMessage [['a']]] ∧
      (other.run otherPalette disk input).ending = .ok .written ∧
      (other.run otherPalette disk input).disk = (host.run palette disk input).disk := by
  intro host other disk palette otherPalette input
  rcases @options_change_only_how_sessions_look host other rfl rfl disk input with ⟨_, halike⟩
  rcases halike palette otherPalette rfl rfl with ⟨_, hending, hdisk, _, _⟩
  refine ⟨by decide +kernel, by decide +kernel, ?_, hdisk⟩
  rw [hending]
  rfl

end Host
end LinePalette
