import LinePalette.Proofs.Editor.Commands
import LinePalette.Proofs.Palette.Routing

/-!
# Blanks around a line

The editor trims a command before it reads it, so blanks around a line change neither its
outcome nor what it leaves behind.  The form of a highlight request is looked for in the
line as it was submitted.  A request with blanks around it is therefore carried out like
any command, and no highlight is asked for.
-/

namespace LinePalette

/-!
# Commands
-/

namespace Editor

variable {editor after : Editor} {range : LineRange} {tail : Text} {letter : Char}
  {outcome : Outcome}

theorem process_trim (h : editor.mode = .command) (line : Text) :
    editor.process (Text.trim line) = editor.process line := by
  unfold process
  rw [h]
  simp only [Text.trim_trim]

theorem Performed.ne_more (h : Performed editor range tail letter outcome after) :
    outcome ≠ .more := by
  cases h with
  | _ => exact Outcome.noConfusion

theorem Performed.isTyping_of_ne_input (h : Performed editor range tail letter outcome after)
    (hbefore : editor.isTyping = false) (hinput : outcome ≠ .input) : after.isTyping = false := by
  cases h with
  | append => exact absurd rfl hinput
  | insert => exact absurd rfl hinput
  | change => exact absurd rfl hinput
  | _ => exact hbefore

theorem process_command_outcome (h : editor.mode = .command) (line : Text) :
    (editor.process line).1 ≠ .more ∧
      ((editor.process line).1 ≠ .input -> (editor.process line).2.isTyping = false) := by
  have hbefore : editor.isTyping = false := by
    unfold isTyping
    rw [h]
  rcases process_cases editor line with ⟨error, hfailed⟩ | hattempted
  · rw [hfailed]
    exact ⟨Outcome.noConfusion, fun _ => rfl⟩
  · generalize (editor.process line).1 = outcome, (editor.process line).2 = after at *
    cases hattempted with
    | stepped _ _ _ => exact ⟨Outcome.noConfusion, fun _ => hbefore⟩
    | performed _ _ _ hperformed =>
        exact ⟨hperformed.ne_more, hperformed.isTyping_of_ne_input hbefore⟩
    | typed htyping _ =>
        rw [h] at htyping
        cases htyping
    | committed htyping _ _ =>
        rw [h] at htyping
        cases htyping

end Editor

/-!
# Actions
-/

namespace Palette

variable {palette : Palette} {line regex : Text} {source : Source} {outcome : Outcome}

theorem IsHighlight.trim_eq (h : IsHighlight line) : Text.trim line = line := by
  rcases h with ⟨regex, rfl⟩
  exact Text.trim_slashed rfl regex

theorem route_highlight (hinput : outcome ≠ .input) (hmore : outcome ≠ .more)
    (hline : line = '/' :: (regex ++ ['/', 'H'])) :
    route source false line outcome = .broadcast (.broadcast (.highlight regex)) := by
  unfold route
  split
  · exact absurd rfl hinput
  · exact absurd rfl hmore
  · simp [highlightRequest?_eq_some_iff.mpr hline]

theorem route_plain (hinput : outcome ≠ .input) (hmore : outcome ≠ .more)
    (hline : ¬IsHighlight line) :
    route source false line outcome = plainAction source outcome := by
  unfold route
  split
  · exact absurd rfl hinput
  · exact absurd rfl hmore
  · simp [highlightRequest?_eq_none_iff.mpr hline]

theorem plainAction_ne_highlight (source : Source) (outcome : Outcome) (regex : Text) :
    plainAction source outcome ≠ .broadcast (.broadcast (.highlight regex)) := by
  intro h
  cases outcome with
  | _ => cases h

/-!
# Submitted lines
-/

theorem submit_of_trimmed_highlight (hmode : palette.editor.mode = .command)
    (hblanks : Text.trim line ≠ line) (hline : Text.trim line = '/' :: (regex ++ ['/', 'H']))
    (hinput : (palette.submit line).1 ≠ .input) :
    (palette.submit (Text.trim line)).2.1 = .broadcast (.broadcast (.highlight regex)) ∧
      (palette.submit line).2.1 = plainAction palette.source (palette.submit line).1 := by
  rcases Editor.process_command_outcome hmode line with ⟨hmore, htyping⟩
  constructor
  · show route palette.source (palette.editor.process (Text.trim line)).2.isTyping (Text.trim line)
      (palette.editor.process (Text.trim line)).1 = _
    rw [Editor.process_trim hmode, htyping hinput]
    exact route_highlight hinput hmore hline
  · show route palette.source (palette.editor.process line).2.isTyping line
      (palette.editor.process line).1 = _
    rw [htyping hinput]
    exact route_plain hinput hmore fun hrequest => hblanks hrequest.trim_eq

theorem submit_trim_action (hmode : palette.editor.mode = .command)
    (h : Text.trim line = line ∨ ¬IsHighlight (Text.trim line) ∨
      (palette.submit line).1 = .input) :
    (palette.submit (Text.trim line)).2.1 = (palette.submit line).2.1 := by
  show route palette.source (palette.editor.process (Text.trim line)).2.isTyping (Text.trim line)
    (palette.editor.process (Text.trim line)).1 =
    route palette.source (palette.editor.process line).2.isTyping line
      (palette.editor.process line).1
  rw [Editor.process_trim hmode]
  rcases h with hsame | hplain | hinput
  · rw [hsame]
  · have hline : ¬IsHighlight line := by
      intro hrequest
      rw [hrequest.trim_eq] at hplain
      exact hplain hrequest
    unfold route
    rw [highlightRequest?_eq_none_iff.mpr hplain, highlightRequest?_eq_none_iff.mpr hline]
  · have hprocess : (palette.editor.process line).1 = .input := hinput
    rw [hprocess]
    rfl

/--
In command mode blanks around a line change neither its outcome nor the palette it leaves.
They change what the surroundings are to do just when the line without them is of the form
`/regex/H` and is not taken for a command that asks for text: then the highlight is asked
for without the blanks only, and with them the outcome is dealt with like that of any other
command.
-/
theorem blanks_only_hide_highlight_requests (hmode : palette.editor.mode = .command)
    (line : Text) :
    let typed := palette.submit line
    let trimmed := palette.submit (Text.trim line)
    trimmed.1 = typed.1 ∧ trimmed.2.2 = typed.2.2 ∧
      (trimmed.2.1 ≠ typed.2.1 ↔
        Text.trim line ≠ line ∧ IsHighlight (Text.trim line) ∧ typed.1 ≠ .input) ∧
      ∀ regex, Text.trim line ≠ line -> Text.trim line = '/' :: (regex ++ ['/', 'H']) ->
        typed.1 ≠ .input ->
        trimmed.2.1 = .broadcast (.broadcast (.highlight regex)) ∧
          typed.2.1 = plainAction palette.source typed.1 := by
  intro typed trimmed
  have hprocess := Editor.process_trim hmode line
  refine ⟨?_, ?_, ?_, ?_⟩
  · show (palette.editor.process (Text.trim line)).1 = (palette.editor.process line).1
    rw [hprocess]
  · show { palette with editor := (palette.editor.process (Text.trim line)).2 } =
      { palette with editor := (palette.editor.process line).2 }
    rw [hprocess]
  · constructor
    · intro hother
      refine ⟨?_, ?_, ?_⟩
      · intro hsame
        exact hother (submit_trim_action hmode (Or.inl hsame))
      · apply Classical.byContradiction
        intro hplain
        exact hother (submit_trim_action hmode (Or.inr (Or.inl hplain)))
      · intro hinput
        exact hother (submit_trim_action hmode (Or.inr (Or.inr hinput)))
    · rintro ⟨hblanks, ⟨regex, hline⟩, hinput⟩ hsame
      rcases submit_of_trimmed_highlight hmode hblanks hline hinput with ⟨htrimmed, htyped⟩
      have hplain := (htyped.symm.trans hsame.symm).trans htrimmed
      exact plainAction_ne_highlight _ _ _ hplain
  · intro regex hblanks hline hinput
    exact submit_of_trimmed_highlight hmode hblanks hline hinput

theorem blanks_only_hide_highlight_requests_saving :
    let palette := Palette.ofLines .textField [['a']] Options.default
    let line := ['/', 'a', '/', 'w', '/', 'H', '\u3000']
    palette.editor.mode = .command ∧
      (palette.submit (Text.trim line)).2.1 =
        .broadcast (.broadcast (.highlight ['a', '/', 'w'])) ∧
      (palette.submit line).2.1 = .broadcast (.broadcast (.write [['a']] .textField)) ∧
      (palette.submit (Text.trim line)).2.2 = (palette.submit line).2.2 := by
  intro palette line
  have hmode : palette.editor.mode = .command := rfl
  have htrim : Text.trim line = '/' :: (['a', '/', 'w'] ++ ['/', 'H']) := by decide
  have hblanks : Text.trim line ≠ line := by decide
  have houtcome : (palette.submit line).1 = .saved Editor.savedMessage [['a']] := rfl
  have hinput : (palette.submit line).1 ≠ .input := by
    rw [houtcome]
    exact Outcome.noConfusion
  rcases blanks_only_hide_highlight_requests hmode line with
    ⟨_, hafter, _, haction⟩
  rcases haction ['a', '/', 'w'] hblanks htrim hinput with ⟨htrimmed, htyped⟩
  rw [houtcome] at htyped
  exact ⟨hmode, htrimmed, htyped, hafter⟩

/-- Behind a blank a request is answered as the command that it is to the editor. -/
theorem blank_hides_highlight_request :
    let palette := Palette.ofLines .textField [['a']] Options.default
    let line := [' ', '/', 'a', '/', 'H']
    palette.editor.mode = .command ∧
      Text.trim line = ['/', 'a', '/', 'H'] ∧
      (palette.submit (Text.trim line)).2.1 ≠ (palette.submit line).2.1 ∧
      (palette.submit (Text.trim line)).2.1 = .broadcast (.broadcast (.highlight ['a'])) ∧
      (palette.submit line).2.1 = .render (some "Verbose errors enabled.".toList) := by
  intro palette line
  have htrimmed : (palette.submit (Text.trim line)).2.1 =
      .broadcast (.broadcast (.highlight ['a'])) := rfl
  have htyped : (palette.submit line).2.1 = .render (some "Verbose errors enabled.".toList) := rfl
  refine ⟨rfl, by decide, ?_, htrimmed, htyped⟩
  rw [htrimmed, htyped]
  exact Action.noConfusion

end Palette
end LinePalette
