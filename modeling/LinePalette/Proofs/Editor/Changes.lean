import LinePalette.Proofs.Editor.Alteration
import LinePalette.Proofs.Editor.Bounds
import LinePalette.Proofs.Editor.Failures

/-!
# Changes

Which lines can change which parts of an editor.  A line that fails changes no
lines and no options, and of those that succeed few can change any given part.
-/

namespace LinePalette
namespace Editor

variable {editor after : Editor} {range : LineRange} {tail line : Text} {letter : Char}
  {outcome : Outcome}

/-!
# Commands

Each part of an editor is new after a few commands only, and these are named by
their letters.
-/

theorem Performed.buffer_letter (h : Performed editor range tail letter outcome after)
    (hbuffer : after.buffer ≠ editor.buffer) : letter ∈ ['d', 's', 'Q'] := by
  cases h with
  | delete _ => decide
  | substitute _ _ _ _ => decide
  | empty => decide
  | _ => exact absurd rfl hbuffer

theorem Performed.showPrompt_iff (h : Performed editor range tail letter outcome after) :
    after.options.showPrompt ≠ editor.options.showPrompt ↔ letter ∈ ['P'] := by
  cases h with
  | showPrompt => exact iff_of_true (Bool.not_not_eq.mpr rfl) (by decide)
  | _ => exact iff_of_false (fun hprompt => hprompt rfl) (by decide)

theorem Performed.verboseErrors_iff (h : Performed editor range tail letter outcome after) :
    after.options.verboseErrors ≠ editor.options.verboseErrors ↔ letter ∈ ['H'] := by
  cases h with
  | explain => exact iff_of_true (Bool.not_not_eq.mpr rfl) (by decide)
  | _ => exact iff_of_false (fun hverbose => hverbose rfl) (by decide)

theorem Performed.isTyping_iff (h : Performed editor range tail letter outcome after)
    (hbefore : editor.isTyping = false) : after.isTyping = true ↔ letter ∈ ['a', 'i', 'c'] := by
  have hsame : ¬editor.isTyping = true := by
    rw [hbefore]
    exact Bool.false_ne_true
  cases h with
  | append => exact iff_of_true rfl (by decide)
  | insert => exact iff_of_true rfl (by decide)
  | change => exact iff_of_true rfl (by decide)
  | _ => exact iff_of_false hsame (by decide)

theorem Performed.substituted (h : Performed editor range tail letter outcome after)
    (hletter : letter = 's') :
    after.buffer.length = editor.buffer.length ∧
      ∀ index : Nat, ¬(range.start ≤ index + 1 ∧ index + 1 ≤ range.stop) ->
        after.buffer[index]? = editor.buffer[index]? := by
  cases h with
  | substitute _ _ hends halter =>
      rcases LineRange.indices_ok hends with ⟨hstart, hstop⟩
      refine ⟨Buffer.length_alterLines halter, ?_⟩
      intro index houtside
      apply Buffer.getElem?_alterLines_outside halter
      omega
  | _ => exact absurd hletter (by decide)

/-- The line is taken for a command with one of the letters. -/
def Commanded (editor : Editor) (letters : List Char) (line : Text) : Prop :=
  editor.mode = .command ∧ ∃ letter ∈ letters, Command.Named letter line

theorem commanded_iff {command : Command} (hmode : editor.mode = .command)
    (hparse : Command.parse? (Text.trim line) = some command) (letters : List Char) :
    editor.Commanded letters line ↔ command.letter ∈ letters := by
  constructor
  · rintro ⟨_, letter, hletter, named, hnamed, rfl⟩
    rw [hparse] at hnamed
    cases hnamed
    exact hletter
  · intro hletter
    exact ⟨hmode, command.letter, hletter, command, hparse, rfl⟩

theorem not_commanded_of_empty (hempty : Text.trim line = []) (letters : List Char) :
    ¬editor.Commanded letters line := by
  rintro ⟨_, letter, _, command, hparse, _⟩
  rw [hempty] at hparse
  cases hparse

theorem not_commanded_of_typing {edit : PendingEdit} (hmode : editor.mode = .typing edit)
    (letters : List Char) : ¬editor.Commanded letters line := by
  rintro ⟨hcommand, _⟩
  rw [hmode] at hcommand
  cases hcommand

/-!
# Text that is typed
-/

theorem process_typing {edit : PendingEdit} (hmode : editor.mode = .typing edit)
    (hdot : line ≠ ['.']) :
    editor.process line =
      (.more, { editor with mode := .typing { edit with lines := edit.lines ++ [line] } }) := by
  unfold process
  rw [hmode]
  simp only [if_neg hdot]

/-!
# Lines
-/

theorem Attempted.buffer_changed (h : Attempted editor line outcome after)
    (hbuffer : after.buffer ≠ editor.buffer) :
    editor.Commanded ['d', 's', 'Q'] line ∨ editor.isTyping = true ∧ line = ['.'] := by
  cases h with
  | stepped _ _ _ => exact absurd rfl hbuffer
  | performed hmode hparse _ hperformed =>
      exact Or.inl ((commanded_iff hmode hparse _).mpr (hperformed.buffer_letter hbuffer))
  | typed _ _ => exact absurd rfl hbuffer
  | committed hmode hdot _ =>
      refine Or.inr ⟨?_, hdot⟩
      unfold isTyping
      rw [hmode]

/-- What only some commands do, and nothing else that succeeds, the lines with them do. -/
theorem Attempted.commanded_iff {Changed : Prop} (h : Attempted editor line outcome after)
    (letters : List Char)
    (hletters : ∀ range tail letter, Performed editor range tail letter outcome after ->
      (Changed ↔ letter ∈ letters))
    (hother : after.options = editor.options ->
      (editor.mode = .command -> after.mode = .command) -> ¬Changed) :
    Changed ↔ editor.Commanded letters line := by
  cases h with
  | stepped hmode hempty _ =>
      exact iff_of_false (hother rfl fun _ => hmode) (not_commanded_of_empty hempty letters)
  | performed hmode hparse _ hperformed =>
      rw [Editor.commanded_iff hmode hparse]
      exact hletters _ _ _ hperformed
  | typed hmode _ =>
      refine iff_of_false (hother rfl fun hcommand => ?_) (not_commanded_of_typing hmode letters)
      rw [hmode] at hcommand
      cases hcommand
  | committed hmode _ hedit =>
      rcases applyEdit_ok hedit with ⟨_, _, rfl⟩
      exact iff_of_false (hother rfl fun _ => rfl) (not_commanded_of_typing hmode letters)

theorem Attempted.showPrompt_iff (h : Attempted editor line outcome after) :
    after.options.showPrompt ≠ editor.options.showPrompt ↔ editor.Commanded ['P'] line := by
  apply h.commanded_iff
  · intro _ _ _ hperformed
    exact hperformed.showPrompt_iff
  · intro hoptions _ hprompt
    exact hprompt (congrArg Options.showPrompt hoptions)

theorem Attempted.verboseErrors_iff (h : Attempted editor line outcome after) :
    after.options.verboseErrors ≠ editor.options.verboseErrors ↔
      editor.Commanded ['H'] line := by
  apply h.commanded_iff
  · intro _ _ _ hperformed
    exact hperformed.verboseErrors_iff
  · intro hoptions _ hverbose
    exact hverbose (congrArg Options.verboseErrors hoptions)

theorem Attempted.isTyping_iff (h : Attempted editor line outcome after)
    (hbefore : editor.isTyping = false) :
    after.isTyping = true ↔ editor.Commanded ['a', 'i', 'c'] line := by
  apply h.commanded_iff
  · intro _ _ _ hperformed
    exact hperformed.isTyping_iff hbefore
  · intro _ hmode htyping
    have hcommand : editor.mode = .command := by
      unfold isTyping at hbefore
      split at hbefore
      · cases hbefore
      · assumption
    unfold isTyping at htyping
    rw [hmode hcommand] at htyping
    cases htyping

theorem Attempted.substituted (h : Attempted editor line outcome after)
    (hline : editor.Commanded ['s'] line) :
    ∃ command range,
      Command.parse? (Text.trim line) = some command ∧
      Address.resolve editor.buffer command.address editor.cursor = .ok range ∧
      after.buffer.length = editor.buffer.length ∧
      ∀ index : Nat, ¬(range.start ≤ index + 1 ∧ index + 1 ≤ range.stop) ->
        after.buffer[index]? = editor.buffer[index]? := by
  cases h with
  | stepped _ hempty _ => exact absurd hline (not_commanded_of_empty hempty _)
  | performed hmode hparse hrange hperformed =>
      have hletter := List.mem_singleton.mp ((Editor.commanded_iff hmode hparse _).mp hline)
      exact ⟨_, _, hparse, hrange, hperformed.substituted hletter⟩
  | typed hmode _ => exact absurd hline (not_commanded_of_typing hmode _)
  | committed hmode _ _ => exact absurd hline (not_commanded_of_typing hmode _)

/--
The buffer changes only through a command that deletes, substitutes or empties, or
when a lone dot ends a text, and only if that succeeds.  An option changes just when
the command that switches it succeeds, and a text is begun just when a command for one
does.  A substitution that succeeds keeps the number of lines and all lines outside
its range.  While a text is typed, any line but a lone dot is added to the text as it
is and does nothing else.
-/
theorem line_changes_only_what_it_asks_for (editor : Editor) (line : Text) :
    let outcome := (editor.process line).1
    let after := (editor.process line).2
    (after.buffer ≠ editor.buffer ->
        outcome.isError = false ∧
          (editor.Commanded ['d', 's', 'Q'] line ∨ editor.isTyping = true ∧ line = ['.'])) ∧
      (after.options.showPrompt ≠ editor.options.showPrompt ↔
        outcome.isError = false ∧ editor.Commanded ['P'] line) ∧
      (after.options.verboseErrors ≠ editor.options.verboseErrors ↔
        outcome.isError = false ∧ editor.Commanded ['H'] line) ∧
      (editor.isTyping = false ->
        (after.isTyping = true ↔
          outcome.isError = false ∧ editor.Commanded ['a', 'i', 'c'] line)) ∧
      (outcome.isError = false -> editor.Commanded ['s'] line ->
        ∃ command range,
          Command.parse? (Text.trim line) = some command ∧
          Address.resolve editor.buffer command.address editor.cursor = .ok range ∧
          after.buffer.length = editor.buffer.length ∧
          ∀ index : Nat, ¬(range.start ≤ index + 1 ∧ index + 1 ≤ range.stop) ->
            after.buffer[index]? = editor.buffer[index]?) ∧
      ∀ edit, editor.mode = .typing edit -> line ≠ ['.'] ->
        editor.process line =
          (.more,
            { editor with mode := .typing { edit with lines := edit.lines ++ [line] } }) := by
  intro outcome after
  have htyped : ∀ edit, editor.mode = .typing edit -> line ≠ ['.'] -> editor.process line = _ :=
    fun _ hmode hdot => process_typing hmode hdot
  rcases process_cases editor line with ⟨error, hfailed⟩ | hattempted
  · have houtcome : outcome = _ := congrArg Prod.fst hfailed
    have hafter : after = _ := congrArg Prod.snd hfailed
    rw [houtcome, hafter]
    refine ⟨?_, ?_, ?_, ?_, ?_, htyped⟩
    · intro hbuffer
      exact absurd rfl hbuffer
    · exact iff_of_false (fun hprompt => hprompt rfl) (fun h => nomatch h.left)
    · exact iff_of_false (fun hverbose => hverbose rfl) (fun h => nomatch h.left)
    · intro _
      exact iff_of_false Bool.false_ne_true (fun h => nomatch h.left)
    · intro hsuccess
      cases hsuccess
  · have hsuccess : outcome.isError = false := hattempted.lastError.left
    refine ⟨?_, ?_, ?_, ?_, ?_, htyped⟩
    · intro hbuffer
      exact ⟨hsuccess, hattempted.buffer_changed hbuffer⟩
    · rw [and_iff_right hsuccess]
      exact hattempted.showPrompt_iff
    · rw [and_iff_right hsuccess]
      exact hattempted.verboseErrors_iff
    · intro hbefore
      rw [and_iff_right hsuccess]
      exact hattempted.isTyping_iff hbefore
    · intro _ hline
      exact hattempted.substituted hline

theorem line_changes_only_what_it_asks_for_substituting :
    let editor := Editor.start [['a'], ['b']] Options.default
    let typing := (editor.process ['a']).2
    let line := "1s/a/c/".toList
    (editor.process line).2.buffer = [['c'], ['b']] ∧
      editor.Commanded ['d', 's', 'Q'] line ∧
      (editor.process line).2.buffer.length = editor.buffer.length ∧
      typing.process line =
        (.more,
          { editor with
            mode := .typing
              { kind := .append, range := LineRange.single 2, lines := [line] } }) := by
  intro editor typing line
  have hbuffer : (editor.process line).2.buffer = [['c'], ['b']] := by decide +kernel
  have hmode :
      typing.mode = .typing { kind := .append, range := LineRange.single 2, lines := [] } := by
    decide +kernel
  obtain ⟨hchanged, _, _, _, hsubstituted, _⟩ := line_changes_only_what_it_asks_for editor line
  obtain ⟨_, _, _, _, _, htyped⟩ := line_changes_only_what_it_asks_for typing line
  have hasked := hchanged (by rw [hbuffer]; decide)
  refine ⟨hbuffer, ?_, ?_, ?_⟩
  · rcases hasked.right with hcommand | ⟨htyping, _⟩
    · exact hcommand
    · cases htyping
  · rcases hsubstituted hasked.left ⟨rfl, 's', List.mem_singleton_self _, _, rfl, rfl⟩ with
      ⟨_, _, _, _, hlength, _⟩
    exact hlength
  · exact htyped _ hmode (by decide)

end Editor
end LinePalette
