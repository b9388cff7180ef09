import LinePalette.Proofs.Editor.Relabeling

/-!
# Options

Two editors that differ in their options alone do the same with every line.  Their
answers are the same as well, except for what they say about an error and for the
announcement that errors are explained from now on, or no longer.
-/

namespace LinePalette

/-- The answers to a line that editors with different options give. -/
inductive Outcome.Alike (line : Text) : Outcome -> Outcome -> Prop where
  | same (outcome : Outcome) : Alike line outcome outcome
  | error (error : EditError) (verbose otherVerbose : Bool) :
      Alike line (.error (Editor.errorText verbose error))
        (.error (Editor.errorText otherVerbose error))
  | explain (on otherOn : Bool) :
      Command.Named 'H' line ->
      Alike line (.output (Editor.verboseMessage on)) (.output (Editor.verboseMessage otherOn))

namespace Editor

structure Alike (editor other : Editor) : Prop where
  buffer : other.buffer = editor.buffer
  cursor : other.cursor = editor.cursor
  mode : other.mode = editor.mode
  lastError : other.lastError = editor.lastError

theorem alike_relabel (editor : Editor) (options : Options -> Options) :
    editor.Alike (editor.relabel options id) :=
  ⟨rfl, rfl, rfl, rfl⟩

theorem Alike.eq_relabel {editor other : Editor} (h : editor.Alike other) :
    other = editor.relabel (fun _ => other.options) id := by
  cases other
  cases h.buffer
  cases h.cursor
  cases h.mode
  cases h.lastError
  rfl

/-!
# One line
-/

inductive AlikeResults (line : Text) : Result -> Result -> Prop where
  | error (error : EditError) : AlikeResults line (.error error) (.error error)
  | ok {outcome otherOutcome : Outcome} {after otherAfter : Editor} :
      outcome.Alike line otherOutcome ->
      after.Alike otherAfter ->
      AlikeResults line (.ok (outcome, after)) (.ok (otherOutcome, otherAfter))

theorem alikeResults_carry (line : Text) (options : Options -> Options) (result : Result) :
    AlikeResults line result (carry (relabel options id) result) := by
  cases result with
  | error error => exact .error error
  | ok answer => exact .ok (.same answer.1) (alike_relabel answer.2 options)

theorem perform_alike {line : Text} {letter : Char} (hletter : Command.Named letter line)
    (options : Options -> Options) (editor : Editor) (range : LineRange) (tail : Text) :
    AlikeResults line (editor.perform letter range tail)
      ((editor.relabel options id).perform letter range tail) := by
  by_cases hexplain : letter = 'H'
  · subst hexplain
    exact .ok (.explain _ _ hletter) ⟨rfl, rfl, rfl, rfl⟩
  by_cases hprompt : letter = 'P'
  · subst hprompt
    exact .ok (.same _) ⟨rfl, rfl, rfl, rfl⟩
  rw [perform_relabel options id editor range tail hexplain hprompt]
  exact alikeResults_carry line options _

theorem attempt_alike {editor other : Editor} (h : editor.Alike other) (line : Text) :
    AlikeResults line (editor.attempt line) (other.attempt line) := by
  rw [h.eq_relabel]
  apply attempt_relabel
  · intro result
    exact alikeResults_carry line _ result
  · intro command range hparse
    exact perform_alike ⟨command, hparse, rfl⟩ _ editor range command.tail

theorem process_alike {editor other : Editor} (h : editor.Alike other) (line : Text) :
    (editor.process line).1.Alike line (other.process line).1 ∧
      (editor.process line).2.Alike (other.process line).2 := by
  rw [process_eq_settle, process_eq_settle]
  have hattempt := attempt_alike h line
  revert hattempt
  generalize editor.attempt line = result
  generalize other.attempt line = otherResult
  intro hattempt
  cases hattempt with
  | error error => exact ⟨.error error _ _, ⟨h.buffer, h.cursor, rfl, rfl⟩⟩
  | ok houtcome hafter => exact ⟨houtcome, hafter⟩

end Editor
end LinePalette
