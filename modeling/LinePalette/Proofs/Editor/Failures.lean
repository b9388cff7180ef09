import LinePalette.Proofs.Editor.Agreement
import LinePalette.Proofs.Editor.Relabeling

/-!
# Failures

A line that fails leaves the editor as it was, apart from ending the text that
was being typed and remembering the error.  The remembered error is never looked
at again, so a failed command cannot be told from one that was never given.
-/

namespace LinePalette
namespace Editor

/-!
# Success

A line that succeeds is not answered with an error and does not change which
error is remembered.
-/

theorem performed_lastError {editor after : Editor} {range : LineRange} {tail : Text}
    {letter : Char} {outcome : Outcome}
    (h : Performed editor range tail letter outcome after) :
    outcome.isError = false ∧ after.lastError = editor.lastError := by
  cases h with
  | append => exact ⟨rfl, rfl⟩
  | insert => exact ⟨rfl, rfl⟩
  | change => exact ⟨rfl, rfl⟩
  | delete _ => exact ⟨rfl, rfl⟩
  | print _ => exact ⟨rfl, rfl⟩
  | number _ => exact ⟨rfl, rfl⟩
  | substitute _ _ _ _ => exact ⟨rfl, rfl⟩
  | guide => exact ⟨rfl, rfl⟩
  | empty => exact ⟨rfl, rfl⟩
  | save => exact ⟨rfl, rfl⟩
  | help => exact ⟨rfl, rfl⟩
  | explain => exact ⟨rfl, rfl⟩
  | showPrompt => exact ⟨rfl, rfl⟩

theorem Attempted.lastError {editor after : Editor} {line : Text} {outcome : Outcome}
    (h : Attempted editor line outcome after) :
    outcome.isError = false ∧ after.lastError = editor.lastError := by
  cases h with
  | stepped _ _ _ => exact ⟨rfl, rfl⟩
  | performed _ _ _ hperformed => exact performed_lastError hperformed
  | typed _ _ => exact ⟨rfl, rfl⟩
  | committed _ _ hedit =>
      rcases applyEdit_ok hedit with ⟨_, _, rfl⟩
      exact ⟨rfl, rfl⟩

/-!
# Failure
-/

/-- A line is answered with an error just when its attempt fails. -/
theorem attempt_of_process_error {editor after : Editor} {line text : Text}
    (h : editor.process line = (.error text, after)) :
    ∃ error,
      editor.attempt line = .error error ∧
      text = errorText editor.options.verboseErrors error ∧
      after = { editor with mode := .command, lastError := some error } := by
  rw [process_eq_settle] at h
  cases hattempt : editor.attempt line with
  | error error =>
      rw [hattempt] at h
      cases h
      exact ⟨error, rfl, rfl, rfl⟩
  | ok answer =>
      have hsuccess := (attempted_of_attempt_ok hattempt).lastError.left
      rw [hattempt] at h
      change answer = (.error text, after) at h
      rw [h] at hsuccess
      cases hsuccess

theorem lastError_of_process_success {editor : Editor} {line : Text}
    (h : (editor.process line).1.isError = false) :
    (editor.process line).2.lastError = editor.lastError := by
  rcases process_cases editor line with ⟨error, hfailed⟩ | hattempted
  · rw [hfailed] at h
    cases h
  · exact hattempted.lastError.right

/-!
# Forgetting

An editor that has forgotten its latest error does the same with every line.
-/

def forget (editor : Editor) : Editor := { editor with lastError := none }

def forgetting (result : Result) : Result :=
  result.map fun (outcome, after) => (outcome, after.forget)

theorem perform_forget (editor : Editor) (letter : Char) (range : LineRange) (tail : Text) :
    editor.forget.perform letter range tail = forgetting (editor.perform letter range tail) := by
  by_cases hexplain : letter = 'H'
  · subst hexplain
    rfl
  by_cases hprompt : letter = 'P'
  · subst hprompt
    rfl
  exact perform_relabel id (fun _ => none) editor range tail hexplain hprompt

theorem attempt_forget (editor : Editor) (line : Text) :
    editor.forget.attempt line = forgetting (editor.attempt line) :=
  attempt_relabel id (fun _ => none) (fun result forgetful => forgetful = forgetting result)
    (fun _ => rfl) fun command range _ =>
      perform_forget editor command.letter range command.tail

theorem process_forget (editor : Editor) (line : Text) :
    (editor.forget.process line).1 = (editor.process line).1 ∧
      (editor.forget.process line).2.forget = (editor.process line).2.forget := by
  rw [process_eq_settle, process_eq_settle, attempt_forget]
  cases editor.attempt line with
  | error error => exact ⟨rfl, rfl⟩
  | ok answer => exact ⟨rfl, rfl⟩

theorem process_eq_of_forget_eq {editor other : Editor} (h : editor.forget = other.forget)
    (line : Text) :
    (editor.process line).1 = (other.process line).1 ∧
      (editor.process line).2.forget = (other.process line).2.forget := by
  have heditor := process_forget editor line
  have hother := process_forget other line
  rw [h] at heditor
  exact ⟨heditor.left.symm.trans hother.left, heditor.right.symm.trans hother.right⟩

/-!
# Lines after lines
-/

def processAll (editor : Editor) : List Text -> List Outcome × Editor
  | [] => ([], editor)
  | line :: later =>
      let (outcome, next) := editor.process line
      let (outcomes, after) := processAll next later
      (outcome :: outcomes, after)

theorem processAll_eq_of_forget_eq {editor other : Editor} (h : editor.forget = other.forget)
    (lines : List Text) :
    (editor.processAll lines).1 = (other.processAll lines).1 ∧
      (editor.processAll lines).2.forget = (other.processAll lines).2.forget := by
  induction lines generalizing editor other with
  | nil => exact ⟨rfl, h⟩
  | cons line later ih =>
      rcases process_eq_of_forget_eq h line with ⟨houtcome, hnext⟩
      rcases ih hnext with ⟨houtcomes, hafter⟩
      simp only [processAll]
      rw [houtcome, houtcomes]
      exact ⟨rfl, hafter⟩

theorem processAll_failing {editor : Editor} {lines : List Text}
    (hmode : editor.mode = .command)
    (hfail : ∀ outcome ∈ (editor.processAll lines).1, outcome.isError = true) :
    (editor.processAll lines).2.forget = editor.forget := by
  induction lines generalizing editor with
  | nil => rfl
  | cons line later ih =>
      simp only [processAll, List.mem_cons, forall_eq_or_imp] at hfail
      rcases hfail with ⟨hline, hlater⟩
      cases hprocess : editor.process line with
      | mk outcome next =>
          rw [hprocess] at hline hlater
          cases outcome with
          | error text =>
              rcases attempt_of_process_error hprocess with ⟨error, _, _, rfl⟩
              simp only [processAll, hprocess]
              rw [ih rfl hlater]
              simp only [forget, hmode]
          | output text => cases hline
          | input => cases hline
          | more => cases hline
          | saved text buffer => cases hline

/--
A failed line changes nothing but the remembered error and ends typing, and a
line that does not fail leaves the remembered error alone.  Editing in place,
the failure finds the buffer, the cursor and the options as they were, so nothing
has to be put back.  After commands that failed, every later sequence of lines is
answered as if they had not been given.
-/
theorem failed_lines_leave_no_trace {editor : Editor} (h : editor.Reachable) :
    (∀ (line text : Text) (after : Editor), editor.process line = (.error text, after) ->
      ∃ error,
        editor.attempt line = .error error ∧
        after.buffer = editor.buffer ∧ after.cursor = editor.cursor ∧
        after.options = editor.options ∧ after.mode = .command ∧
        after.lastError = some error ∧
        text = (if editor.options.verboseErrors then "? ".toList ++ error.message else ['?']) ∧
        ∀ limit : Nat, maxLineNumber ≤ limit -> editor.buffer.length ≤ limit ->
          InPlace.attempt limit line editor =
            .error (.refused error) { editor with mode := .command }) ∧
      (∀ line : Text, (editor.process line).1.isError = false ->
        (editor.process line).2.lastError = editor.lastError) ∧
      ∀ failing later : List Text, editor.mode = .command ->
        (∀ outcome ∈ (editor.processAll failing).1, outcome.isError = true) ->
        ((editor.processAll failing).2.processAll later).1 = (editor.processAll later).1 ∧
          ((editor.processAll failing).2.processAll later).2.forget =
            (editor.processAll later).2.forget := by
  refine ⟨?_, ?_, ?_⟩
  · intro line text after hprocess
    rcases attempt_of_process_error hprocess with ⟨error, hattempt, htext, hafter⟩
    refine ⟨error, hattempt, ?_, ?_, ?_, ?_, ?_, htext, ?_⟩
    · rw [hafter]
    · rw [hafter]
    · rw [hafter]
    · rw [hafter]
    · rw [hafter]
    · intro limit hmax hlength
      rw [InPlace.attempt_eq ⟨hmax, hlength⟩ h.sound line, hattempt]
      rfl
  · intro line hsuccess
    exact lastError_of_process_success hsuccess
  · intro failing later hmode hfail
    exact processAll_eq_of_forget_eq (processAll_failing hmode hfail) later

/-- An edit fails when its text is ended, and commands fail before a line is printed. -/
theorem failed_lines_leave_no_trace_changing :
    let editor := start [['a']] { showPrompt := true, verboseErrors := true }
    let changing := (editor.process ['9', 'c']).2
    ((changing.process ['.']).2.lastError = some .invalidAddress ∧
        (changing.process ['.']).2.buffer = [['a']]) ∧
      ((editor.processAll [['9', 'p'], ['z']]).2.processAll [['p']]).1 =
        [.output ['a']] := by
  intro editor changing
  have hstart := Reachable.start [['a']] { showPrompt := true, verboseErrors := true }
  rcases failed_lines_leave_no_trace (hstart.process ['9', 'c']) with ⟨hfailure, _, _⟩
  rcases failed_lines_leave_no_trace hstart with ⟨_, _, hlater⟩
  rcases hfailure ['.'] _ _ rfl with ⟨error, hattempt, hbuffer, _, _, _, hlast, _⟩
  have hinvalid : changing.attempt ['.'] = .error .invalidAddress := rfl
  constructor
  · rw [hattempt] at hinvalid
    cases hinvalid
    exact ⟨hlast, hbuffer⟩
  · have hagain := hlater [['9', 'p'], ['z']] [['p']] rfl (by decide)
    rw [hagain.left]
    decide

end Editor
end LinePalette
