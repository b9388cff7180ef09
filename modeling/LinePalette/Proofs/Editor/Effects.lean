import LinePalette.Editor.Session

/-!
# Effects

What a command that succeeds has done.  Each kind of command is one case, which
says when it arises, what the answer is and which parts of the editor are new.
Everything else about successful commands follows from these cases.
-/

namespace LinePalette

theorem Command.eq_nil_of_parse?_eq_none {line : Text} (h : Command.parse? line = none) :
    line = [] := by
  unfold Command.parse? at h
  split at h
  · cases h
  · split at h
    · next hline => exact hline
    · cases h

/-- The line, without the blanks around it, is a command with the given letter. -/
def Command.Named (letter : Char) (line : Text) : Prop :=
  ∃ command, Command.parse? (Text.trim line) = some command ∧ command.letter = letter

namespace Editor

/-!
# Actions

The actions that check their range, read from their success.
-/

theorem stepForward_ok {editor after : Editor} {outcome : Outcome}
    (h : editor.stepForward = .ok (outcome, after)) :
    editor.buffer ≠ [] ∧
      outcome = .output (editor.buffer.getD ((editor.cursor + 1) % editor.buffer.length) []) ∧
      after = { editor with cursor := (editor.cursor + 1) % editor.buffer.length } := by
  unfold stepForward at h
  split at h
  · cases h
  · next hlines =>
      cases h
      exact ⟨hlines, rfl, rfl⟩

def onLines (editor : Editor) (range : LineRange) (act : Nat × Nat -> Result) : Result :=
  if editor.buffer = [] then
    .error .emptyBuffer
  else
    range.indices editor.buffer.length >>= act

theorem onLines_ok {editor : Editor} {range : LineRange} {act : Nat × Nat -> Result}
    {result : Outcome × Editor} (h : editor.onLines range act = .ok result) :
    ∃ ends, range.indices editor.buffer.length = .ok ends ∧ act ends = .ok result := by
  unfold onLines at h
  split at h
  · cases h
  · cases hrange : range.indices editor.buffer.length with
    | error error =>
        rw [hrange] at h
        cases h
    | ok ends =>
        rw [hrange] at h
        exact ⟨ends, rfl, h⟩

def printed (editor : Editor) (first last : Nat) (numbered : Bool) : Text :=
  let lines := editor.buffer.between first last
  Text.join ['\n'] (if numbered then Buffer.numbered (first + 1) lines else lines)

theorem print_eq_onLines (editor : Editor) (range : LineRange) (numbered : Bool) :
    editor.print range numbered =
      editor.onLines range fun ends =>
        .ok (.output (editor.printed ends.1 ends.2 numbered), { editor with cursor := ends.2 }) :=
  rfl

theorem print_ok {editor after : Editor} {range : LineRange} {numbered : Bool}
    {outcome : Outcome} (h : editor.print range numbered = .ok (outcome, after)) :
    ∃ first last,
      range.indices editor.buffer.length = .ok (first, last) ∧
      outcome = .output (editor.printed first last numbered) ∧
      after = { editor with cursor := last } := by
  rw [print_eq_onLines] at h
  rcases onLines_ok h with ⟨ends, hrange, hact⟩
  cases hact
  exact ⟨ends.1, ends.2, hrange, rfl, rfl⟩

theorem delete_eq_onLines (editor : Editor) (range : LineRange) :
    editor.delete range =
      editor.onLines range fun ends =>
        let buffer := editor.buffer.replaceLines ends.1 (ends.2 + 1) []
        .ok (.output [],
          { editor with buffer := buffer, cursor := min ends.1 (buffer.length - 1) }) :=
  rfl

theorem delete_ok {editor after : Editor} {range : LineRange} {outcome : Outcome}
    (h : editor.delete range = .ok (outcome, after)) :
    ∃ first last,
      range.indices editor.buffer.length = .ok (first, last) ∧
      outcome = .output [] ∧
      after =
        { editor with
          buffer := editor.buffer.replaceLines first (last + 1) [],
          cursor :=
            min first ((editor.buffer.replaceLines first (last + 1) []).length - 1) } := by
  rw [delete_eq_onLines] at h
  rcases onLines_ok h with ⟨ends, hrange, hact⟩
  cases hact
  exact ⟨ends.1, ends.2, hrange, rfl, rfl⟩

def substituted (editor : Editor) (substitution : Substitution) (pattern : Pattern)
    (first last : Nat) : Buffer × Option (Nat × Text) :=
  editor.buffer.alterLines
    (fun line => pattern.replace line substitution.template substitution.everywhere) first last

theorem substitute_ok {editor after : Editor} {range : LineRange} {tail : Text}
    {outcome : Outcome} (h : editor.substitute range tail = .ok (outcome, after)) :
    ∃ substitution pattern first last buffer index line,
      Substitution.parse tail = .ok substitution ∧
      Pattern.compile substitution.pattern = .ok pattern ∧
      range.indices editor.buffer.length = .ok (first, last) ∧
      editor.substituted substitution pattern first last = (buffer, some (index, line)) ∧
      outcome = .output line ∧
      after = { editor with buffer := buffer, cursor := index } := by
  unfold substitute at h
  cases hparse : Substitution.parse tail with
  | error error =>
      rw [hparse] at h
      cases h
  | ok substitution =>
      rw [hparse] at h
      simp only [bind, Except.bind] at h
      split at h
      · cases h
      · split at h
        · cases h
        · next pattern hpattern =>
            cases hrange : range.indices editor.buffer.length with
            | error error =>
                rw [hrange] at h
                cases h
            | ok ends =>
                rw [hrange] at h
                simp only at h
                split at h
                · cases h
                · next buffer index line halter =>
                    cases h
                    exact ⟨substitution, pattern, ends.1, ends.2, buffer, index, line,
                      rfl, hpattern, rfl, halter, rfl, rfl⟩

/-!
# Commands

One case for each command, with the letter that names it.
-/

/-- What a command that succeeds comes to: its answer and the editor after it. -/
inductive Performed (editor : Editor) (range : LineRange) (tail : Text) :
    Char -> Outcome -> Editor -> Prop where
  | append :
      Performed editor range tail 'a' .input
        { editor with mode := .typing { kind := .append, range := range, lines := [] } }
  | insert :
      Performed editor range tail 'i' .input
        { editor with mode := .typing { kind := .insert, range := range, lines := [] } }
  | change :
      Performed editor range tail 'c' .input
        { editor with mode := .typing { kind := .change, range := range, lines := [] } }
  | delete {first last : Nat} :
      range.indices editor.buffer.length = .ok (first, last) ->
      Performed editor range tail 'd' (.output [])
        { editor with
          buffer := editor.buffer.replaceLines first (last + 1) [],
          cursor := min first ((editor.buffer.replaceLines first (last + 1) []).length - 1) }
  | print {first last : Nat} :
      range.indices editor.buffer.length = .ok (first, last) ->
      Performed editor range tail 'p' (.output (editor.printed first last false))
        { editor with cursor := last }
  | number {first last : Nat} :
      range.indices editor.buffer.length = .ok (first, last) ->
      Performed editor range tail 'n' (.output (editor.printed first last true))
        { editor with cursor := last }
  | substitute {substitution : Substitution} {pattern : Pattern} {first last index : Nat}
      {buffer : Buffer} {line : Text} :
      Substitution.parse tail = .ok substitution ->
      Pattern.compile substitution.pattern = .ok pattern ->
      range.indices editor.buffer.length = .ok (first, last) ->
      editor.substituted substitution pattern first last = (buffer, some (index, line)) ->
      Performed editor range tail 's' (.output line)
        { editor with buffer := buffer, cursor := index }
  | guide : Performed editor range tail 'q' (.output quitGuidance) editor
  | empty :
      Performed editor range tail 'Q' (.output resetMessage)
        { editor with buffer := [], cursor := 0 }
  | save : Performed editor range tail 'w' (.saved savedMessage editor.buffer) editor
  | help : Performed editor range tail 'h' (.output helpText) editor
  | explain :
      Performed editor range tail 'H'
        (.output (verboseMessage !editor.options.verboseErrors))
        { editor with
          options := { editor.options with verboseErrors := !editor.options.verboseErrors } }
  | showPrompt :
      Performed editor range tail 'P' (.output [])
        { editor with
          options := { editor.options with showPrompt := !editor.options.showPrompt } }

theorem performed_of_perform_ok {editor after : Editor} {letter : Char} {range : LineRange}
    {tail : Text} {outcome : Outcome}
    (h : editor.perform letter range tail = .ok (outcome, after)) :
    Performed editor range tail letter outcome after := by
  unfold perform at h
  split at h
  case h_1 =>
    cases h
    exact .append
  case h_2 =>
    cases h
    exact .insert
  case h_3 =>
    cases h
    exact .change
  case h_4 =>
    rcases delete_ok h with ⟨first, last, hrange, rfl, rfl⟩
    exact .delete hrange
  case h_5 =>
    rcases print_ok h with ⟨first, last, hrange, rfl, rfl⟩
    exact .print hrange
  case h_6 =>
    rcases print_ok h with ⟨first, last, hrange, rfl, rfl⟩
    exact .number hrange
  case h_7 =>
    obtain ⟨substitution, pattern, first, last, buffer, index, line,
      hparse, hpattern, hrange, halter, rfl, rfl⟩ := substitute_ok h
    exact .substitute hparse hpattern hrange halter
  case h_8 =>
    cases h
    exact .guide
  case h_9 =>
    cases h
    exact .empty
  case h_10 =>
    cases h
    exact .save
  case h_11 =>
    cases h
    exact .help
  case h_12 =>
    cases h
    exact .explain
  case h_13 =>
    cases h
    exact .showPrompt
  case h_14 => cases h

theorem runCommand_ok {editor after : Editor} {line : Text} {outcome : Outcome}
    (h : editor.runCommand line = .ok (outcome, after)) :
    (line = [] ∧ editor.stepForward = .ok (outcome, after)) ∨
      ∃ command range,
        Command.parse? line = some command ∧
        Address.resolve editor.buffer command.address editor.cursor = .ok range ∧
        Performed editor range command.tail command.letter outcome after := by
  unfold runCommand at h
  split at h
  · next hparse => exact Or.inl ⟨Command.eq_nil_of_parse?_eq_none hparse, h⟩
  · next command hparse =>
      cases hrange : Address.resolve editor.buffer command.address editor.cursor with
      | error error =>
          rw [hrange] at h
          cases h
      | ok range =>
          rw [hrange] at h
          exact Or.inr ⟨command, range, hparse, hrange, performed_of_perform_ok h⟩

/-!
# Edits
-/

theorem insertAt_ok {editor after : Editor} {position : Int} {lines : List Text}
    (h : editor.insertAt position lines = .ok after) :
    0 ≤ position ∧
      after =
        { editor with
          buffer :=
            editor.buffer.replaceLines (min position.toNat editor.buffer.length)
              (min position.toNat editor.buffer.length) lines,
          cursor :=
            if lines = [] then editor.cursor
            else min position.toNat editor.buffer.length + lines.length - 1 } := by
  unfold insertAt at h
  split at h
  · cases h
  · next hposition =>
      cases h
      exact ⟨Int.not_lt.mp hposition, rfl⟩

theorem changeLines_ok {editor after : Editor} {range : LineRange} {lines : List Text}
    (h : editor.changeLines range lines = .ok after) :
    ∃ first last,
      range.indices editor.buffer.length = .ok (first, last) ∧
      after =
        { editor with
          buffer := editor.buffer.replaceLines first (last + 1) lines,
          cursor := first + lines.length - 1 } := by
  unfold changeLines at h
  cases hrange : range.indices editor.buffer.length with
  | error error =>
      rw [hrange] at h
      cases h
  | ok ends =>
      rw [hrange] at h
      cases h
      exact ⟨ends.1, ends.2, rfl, rfl⟩

theorem applyEdit_ok {editor after : Editor} {edit : PendingEdit}
    (h : editor.applyEdit edit = .ok after) :
    ∃ buffer cursor, after = { editor with buffer := buffer, cursor := cursor } := by
  unfold applyEdit at h
  split at h
  · exact ⟨_, _, (insertAt_ok h).2⟩
  · exact ⟨_, _, (insertAt_ok h).2⟩
  · rcases changeLines_ok h with ⟨_, _, _, hafter⟩
    exact ⟨_, _, hafter⟩

/-!
# Lines of input

A line is attempted first.  Should the attempt fail, the failure is answered by
the editor with typing ended.
-/

def attempt (editor : Editor) (line : Text) : Result :=
  match editor.mode with
  | .command => editor.runCommand (Text.trim line)
  | .typing edit =>
      if line = ['.'] then
        (applyEdit { editor with mode := .command } edit).map fun changed =>
          (.output [], changed)
      else
        .ok (.more, { editor with mode := .typing { edit with lines := edit.lines ++ [line] } })

theorem process_eq_settle (editor : Editor) (line : Text) :
    editor.process line =
      settle { editor with mode := .command } (editor.attempt line) := by
  unfold process attempt
  cases hmode : editor.mode with
  | command =>
      have hsame : { editor with mode := .command } = editor := by rw [← hmode]
      rw [hsame]
  | typing edit =>
      simp only
      split
      · rfl
      · rfl

/-- What a line comes to whose attempt succeeds. -/
inductive Attempted (editor : Editor) (line : Text) : Outcome -> Editor -> Prop where
  | stepped :
      editor.mode = .command ->
      Text.trim line = [] ->
      editor.buffer ≠ [] ->
      Attempted editor line
        (.output (editor.buffer.getD ((editor.cursor + 1) % editor.buffer.length) []))
        { editor with cursor := (editor.cursor + 1) % editor.buffer.length }
  | performed {command : Command} {range : LineRange} {outcome : Outcome} {after : Editor} :
      editor.mode = .command ->
      Command.parse? (Text.trim line) = some command ->
      Address.resolve editor.buffer command.address editor.cursor = .ok range ->
      Performed editor range command.tail command.letter outcome after ->
      Attempted editor line outcome after
  | typed {edit : PendingEdit} :
      editor.mode = .typing edit ->
      line ≠ ['.'] ->
      Attempted editor line .more
        { editor with mode := .typing { edit with lines := edit.lines ++ [line] } }
  | committed {edit : PendingEdit} {after : Editor} :
      editor.mode = .typing edit ->
      line = ['.'] ->
      applyEdit { editor with mode := .command } edit = .ok after ->
      Attempted editor line (.output []) after

theorem attempted_of_attempt_ok {editor after : Editor} {line : Text} {outcome : Outcome}
    (h : editor.attempt line = .ok (outcome, after)) : Attempted editor line outcome after := by
  unfold attempt at h
  split at h
  · next hmode =>
      rcases runCommand_ok h with ⟨hline, hstep⟩ | ⟨command, range, hparse, hrange, hperformed⟩
      · rcases stepForward_ok hstep with ⟨hlines, rfl, rfl⟩
        exact .stepped hmode hline hlines
      · exact .performed hmode hparse hrange hperformed
  · next edit hmode =>
      split at h
      · next hdot =>
          cases hedit : applyEdit { editor with mode := .command } edit with
          | error error =>
              rw [hedit] at h
              cases h
          | ok changed =>
              rw [hedit] at h
              cases h
              exact .committed hmode hdot hedit
      · next hdot =>
          cases h
          exact .typed hmode hdot

/-- Every line either fails, which leaves nothing but the error, or does what it asks for. -/
theorem process_cases (editor : Editor) (line : Text) :
    (∃ error,
        editor.process line =
          (.error (errorText editor.options.verboseErrors error),
            { editor with mode := .command, lastError := some error })) ∨
      Attempted editor line (editor.process line).1 (editor.process line).2 := by
  rw [process_eq_settle]
  cases hattempt : editor.attempt line with
  | error error => exact Or.inl ⟨error, rfl⟩
  | ok answer => exact Or.inr (attempted_of_attempt_ok hattempt)

end Editor
end LinePalette
