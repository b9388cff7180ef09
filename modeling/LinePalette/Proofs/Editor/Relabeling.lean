import LinePalette.Proofs.Editor.Effects

/-!
# Labels

The options and the remembered error are labels on an editor.  Actions look at the
buffer and the cursor alone, so other labels make no difference to what an action
does, and are there after it as they were before.  Only the two commands that turn an
option on or off look at a label.
-/

namespace LinePalette
namespace Editor

/-- The editor with its options and its remembered error replaced. -/
def relabel (options : Options -> Options) (error : Option EditError -> Option EditError)
    (editor : Editor) : Editor :=
  { editor with options := options editor.options, lastError := error editor.lastError }

def carry (change : Editor -> Editor) (result : Result) : Result :=
  result.map fun (outcome, after) => (outcome, change after)

variable (options : Options -> Options) (error : Option EditError -> Option EditError)

/-!
# Actions
-/

theorem stepForward_relabel (editor : Editor) :
    (editor.relabel options error).stepForward =
      carry (relabel options error) editor.stepForward := by
  unfold stepForward
  show (if editor.buffer = [] then _ else _) = _
  split
  · rfl
  · rfl

theorem onLines_relabel {act relabelled : Nat × Nat -> Result}
    (h : ∀ ends, relabelled ends = carry (relabel options error) (act ends)) (editor : Editor)
    (range : LineRange) :
    (editor.relabel options error).onLines range relabelled =
      carry (relabel options error) (editor.onLines range act) := by
  unfold onLines
  show (if editor.buffer = [] then _ else range.indices editor.buffer.length >>= _) = _
  split
  · rfl
  · cases range.indices editor.buffer.length with
    | error error => rfl
    | ok ends => exact h ends

theorem print_relabel (editor : Editor) (range : LineRange) (numbered : Bool) :
    (editor.relabel options error).print range numbered =
      carry (relabel options error) (editor.print range numbered) := by
  rw [print_eq_onLines, print_eq_onLines]
  apply onLines_relabel
  intro ends
  rfl

theorem delete_relabel (editor : Editor) (range : LineRange) :
    (editor.relabel options error).delete range =
      carry (relabel options error) (editor.delete range) := by
  rw [delete_eq_onLines, delete_eq_onLines]
  apply onLines_relabel
  intro ends
  rfl

theorem substitute_relabel (editor : Editor) (range : LineRange) (tail : Text) :
    (editor.relabel options error).substitute range tail =
      carry (relabel options error) (editor.substitute range tail) := by
  have hbuffer : (editor.relabel options error).buffer = editor.buffer := rfl
  unfold substitute
  rw [hbuffer]
  simp only [bind, Except.bind]
  cases Substitution.parse tail with
  | error _ => rfl
  | ok substitution =>
      simp only
      split
      · rfl
      · cases Pattern.compile substitution.pattern with
        | error _ => rfl
        | ok pattern =>
            cases range.indices editor.buffer.length with
            | error _ => rfl
            | ok ends =>
                simp only
                cases editor.buffer.alterLines (fun line =>
                    pattern.replace line substitution.template substitution.everywhere)
                    ends.1 ends.2 with
                | mk buffer changed =>
                    cases changed with
                    | none => rfl
                    | some found => rfl

theorem insertAt_relabel (editor : Editor) (position : Int) (lines : List Text) :
    (editor.relabel options error).insertAt position lines =
      (editor.insertAt position lines).map (relabel options error) := by
  unfold insertAt
  split
  · rfl
  · rfl

theorem changeLines_relabel (editor : Editor) (range : LineRange) (lines : List Text) :
    (editor.relabel options error).changeLines range lines =
      (editor.changeLines range lines).map (relabel options error) := by
  unfold changeLines
  show (range.indices editor.buffer.length >>= _) =
    (range.indices editor.buffer.length >>= _).map (relabel options error)
  cases range.indices editor.buffer.length with
  | error _ => rfl
  | ok ends => rfl

theorem applyEdit_relabel (editor : Editor) (edit : PendingEdit) :
    (editor.relabel options error).applyEdit edit =
      (editor.applyEdit edit).map (relabel options error) := by
  unfold applyEdit
  cases edit.kind with
  | append => exact insertAt_relabel options error editor _ _
  | insert => exact insertAt_relabel options error editor _ _
  | change => exact changeLines_relabel options error editor _ _

/-!
# Lines
-/

theorem perform_relabel (editor : Editor) {letter : Char} (range : LineRange) (tail : Text)
    (hexplain : letter ≠ 'H') (hprompt : letter ≠ 'P') :
    (editor.relabel options error).perform letter range tail =
      carry (relabel options error) (editor.perform letter range tail) := by
  unfold perform
  split
  case h_1 => rfl
  case h_2 => rfl
  case h_3 => rfl
  case h_4 => exact delete_relabel options error editor range
  case h_5 => exact print_relabel options error editor range false
  case h_6 => exact print_relabel options error editor range true
  case h_7 => exact substitute_relabel options error editor range tail
  case h_8 => rfl
  case h_9 => rfl
  case h_10 => rfl
  case h_11 => rfl
  case h_12 => exact absurd rfl hexplain
  case h_13 => exact absurd rfl hprompt
  case h_14 => rfl

/-- How two results are related is a matter of the commands that look at the labels. -/
theorem attempt_relabel (Related : Result -> Result -> Prop)
    (hcarry : ∀ result, Related result (carry (relabel options error) result)) {editor : Editor}
    {line : Text}
    (hperform : ∀ command range, Command.parse? (Text.trim line) = some command ->
      Related (editor.perform command.letter range command.tail)
        ((editor.relabel options error).perform command.letter range command.tail)) :
    Related (editor.attempt line) ((editor.relabel options error).attempt line) := by
  have hmode : (editor.relabel options error).mode = editor.mode := rfl
  unfold attempt
  rw [hmode]
  cases editor.mode with
  | command =>
      unfold runCommand
      cases hparse : Command.parse? (Text.trim line) with
      | none =>
          have hstep := hcarry editor.stepForward
          rw [← stepForward_relabel] at hstep
          exact hstep
      | some command =>
          show Related (Address.resolve editor.buffer command.address editor.cursor >>= _)
            (Address.resolve editor.buffer command.address editor.cursor >>= _)
          cases Address.resolve editor.buffer command.address editor.cursor with
          | error unresolved => exact hcarry (.error unresolved)
          | ok range => exact hperform command range hparse
  | typing edit =>
      simp only
      split
      · show Related _
          (((relabel options error { editor with mode := .command }).applyEdit edit).map _)
        rw [applyEdit_relabel]
        cases applyEdit { editor with mode := .command } edit with
        | error refused => exact hcarry (.error refused)
        | ok changed => exact hcarry (.ok (.output [], changed))
      · exact hcarry (.ok (.more, _))

end Editor
end LinePalette
