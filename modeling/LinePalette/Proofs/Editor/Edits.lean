import LinePalette.Proofs.Editor.Changes
import LinePalette.Proofs.Editor.Ranges

/-!
# Edits

Where an edit puts its text, and which lines it takes away.  An edit that needs a text
is a dialogue: a command begins the text, its lines follow with moves of the cursor
among them, and a lone dot ends it.  The range is the one that the command named, and
the cursor matters only when there is no text to put it on.
-/

namespace LinePalette
namespace Editor

/-- What may be given while a text is typed: a line, or a move of the cursor. -/
inductive Input where
  | line (text : Text)
  | move (line : Nat)
deriving Repr, DecidableEq

def Input.lines : List Input -> List Text
  | [] => []
  | .line text :: later => text :: lines later
  | .move _ :: later => lines later

variable {editor : Editor} {line : Text} {command : Command} {range : LineRange}
  {edit : PendingEdit} {text : List Text}

/-!
# Typing
-/

def enterAll (editor : Editor) : List Input -> List Outcome × Editor
  | [] => ([], editor)
  | .line text :: later =>
      let (outcome, next) := editor.process text
      let (outcomes, after) := enterAll next later
      (outcome :: outcomes, after)
  | .move line :: later => enterAll (editor.moveTo line) later

/-- The editor while the text of an edit is typed, wherever the cursor is by then. -/
def typing (editor : Editor) (cursor : Nat) (edit : PendingEdit) : Editor :=
  { editor with cursor := cursor, mode := .typing edit }

theorem enterAll_typing (editor : Editor) {inputs : List Input} (hmode : editor.mode = .typing edit)
    (hdot : ['.'] ∉ Input.lines inputs) :
    ∃ cursor,
      editor.enterAll inputs =
        ((Input.lines inputs).map fun _ => .more,
          editor.typing cursor { edit with lines := edit.lines ++ Input.lines inputs }) := by
  induction inputs generalizing editor edit with
  | nil =>
      refine ⟨editor.cursor, ?_⟩
      unfold typing Input.lines
      rw [List.append_nil, ← hmode]
      rfl
  | cons input later ih =>
      cases input with
      | move line => exact ih (editor.moveTo line) hmode hdot
      | line text =>
          unfold Input.lines at hdot
          rw [List.mem_cons, not_or] at hdot
          rcases hdot with ⟨htext, hlater⟩
          rcases ih { editor with
            mode := .typing { edit with lines := edit.lines ++ [text] } } rfl hlater with
            ⟨cursor, hrest⟩
          refine ⟨cursor, ?_⟩
          rw [enterAll, process_typing hmode (Ne.symm htext)]
          simp only
          rw [hrest, List.append_assoc]
          rfl

theorem dialogue {kind : EditKind} {inputs : List Input}
    (hbegun : editor.process line = editor.settle (editor.beginTyping kind range))
    (hdot : ['.'] ∉ Input.lines inputs) :
    ∃ cursor,
      (editor.process line).1 = .input ∧
        (editor.process line).2.enterAll inputs =
          ((Input.lines inputs).map fun _ => .more,
            editor.typing cursor
              { kind := kind, range := range, lines := Input.lines inputs }) := by
  rcases enterAll_typing (editor.typing editor.cursor
    { kind := kind, range := range, lines := [] }) rfl hdot with ⟨cursor, htyped⟩
  rw [hbegun]
  exact ⟨cursor, rfl, htyped⟩

/-!
# Carrying edits out
-/

def edited (editor : Editor) (buffer : Buffer) (cursor : Nat) : Outcome × Editor :=
  (.output [], { editor with buffer := buffer, cursor := cursor, mode := .command })

def refused (editor : Editor) (error : EditError) : Outcome × Editor :=
  fail { editor with mode := .command } error

theorem insertAt_eq {position : Int} (h : 0 ≤ position) :
    editor.insertAt position text =
      .ok
        { editor with
          buffer :=
            editor.buffer.take (min position.toNat editor.buffer.length) ++ text ++
              editor.buffer.drop (min position.toNat editor.buffer.length),
          cursor :=
            if text = [] then editor.cursor
            else min position.toNat editor.buffer.length + text.length - 1 } :=
  if_neg (Int.not_lt.mpr h)

theorem replaceLines_within {length : Nat} (h : range.Within length) (buffer : Buffer)
    (text : List Text) :
    buffer.replaceLines (range.start - 1).toNat ((range.stop - 1).toNat + 1) text =
      buffer.take (range.start - 1).toNat ++ text ++ buffer.drop range.stop.toNat := by
  have hstop : (range.stop - 1).toNat + 1 = range.stop.toNat := by
    unfold LineRange.Within at h
    omega
  unfold Buffer.replaceLines
  rw [hstop]

theorem changeLines_eq (editor : Editor) (h : range.Within editor.buffer.length) :
    editor.changeLines range text =
      .ok
        { editor with
          buffer :=
            editor.buffer.take (range.start - 1).toNat ++ text ++
              editor.buffer.drop range.stop.toNat,
          cursor := max ((range.start - 1).toNat + text.length) 1 - 1 } := by
  have hcursor : max ((range.start - 1).toNat + text.length) 1 - 1 =
      (range.start - 1).toNat + text.length - 1 := by omega
  unfold changeLines
  rw [LineRange.indices_of_within h, hcursor, ← replaceLines_within h]
  rfl

theorem changeLines_refused (editor : Editor) (h : ¬range.Within editor.buffer.length) :
    editor.changeLines range text = .error .invalidAddress := by
  unfold changeLines
  rw [LineRange.indices_of_not_within h]
  rfl

/-!
# Ending a text

What the lone dot does, by the kind of the edit that waits for it.
-/

theorem process_dot (cursor : Nat) (edit : PendingEdit) :
    (editor.typing cursor edit).process ['.'] = (editor.typing cursor edit).commit edit :=
  rfl

theorem commit_ok {after : Editor}
    (h : applyEdit { editor with mode := .command } edit = .ok after) :
    editor.commit edit = (.output [], after) := by
  unfold commit
  simp only [h]
  rfl

theorem commit_error {error : EditError}
    (h : applyEdit { editor with mode := .command } edit = .error error) :
    editor.commit edit = editor.refused error := by
  unfold commit
  simp only [h]
  rfl

def withText (editor : Editor) (place : Nat) (text : List Text) : Outcome × Editor :=
  editor.edited (editor.buffer.take place ++ text ++ editor.buffer.drop place)
    (if text = [] then editor.cursor else place + text.length - 1)

theorem commit_append (h : 0 ≤ range.stop) :
    editor.commit { kind := .append, range := range, lines := text } =
      editor.withText (min range.stop.toNat editor.buffer.length) text :=
  commit_ok (insertAt_eq h)

theorem commit_append_refused (h : range.stop < 0) :
    editor.commit { kind := .append, range := range, lines := text } =
      editor.refused .invalidAddress :=
  commit_error (if_pos h)

theorem commit_insert :
    editor.commit { kind := .insert, range := range, lines := text } =
      editor.withText (min (max (range.start - 1) 0).toNat editor.buffer.length) text :=
  commit_ok (insertAt_eq (Int.le_max_right _ _))

theorem commit_change (editor : Editor) (h : range.Within editor.buffer.length) :
    editor.commit { kind := .change, range := range, lines := text } =
      editor.edited
        (editor.buffer.take (range.start - 1).toNat ++ text ++
          editor.buffer.drop range.stop.toNat)
        (max ((range.start - 1).toNat + text.length) 1 - 1) :=
  commit_ok (changeLines_eq { editor with mode := .command } h)

theorem commit_change_refused (editor : Editor) (h : ¬range.Within editor.buffer.length) :
    editor.commit { kind := .change, range := range, lines := text } =
      editor.refused .invalidAddress :=
  commit_error (changeLines_refused { editor with mode := .command } h)

/-!
# Deleting
-/

theorem settle_delete (hmode : editor.mode = .command) (h : range.Within editor.buffer.length) :
    let left :=
      editor.buffer.take (range.start - 1).toNat ++ editor.buffer.drop range.stop.toNat
    editor.settle (editor.delete range) =
      editor.edited left (min (range.start - 1).toNat (left.length - 1)) := by
  have hleft := replaceLines_within h editor.buffer []
  rw [List.append_nil] at hleft
  unfold delete edited
  rw [if_neg (buffer_ne_nil_of_within h), LineRange.indices_of_within h, ← hleft, ← hmode]
  rfl

theorem settle_delete_refused (hmode : editor.mode = .command)
    (h : ¬range.Within editor.buffer.length) :
    editor.settle (editor.delete range) =
      editor.refused (if editor.buffer = [] then .emptyBuffer else .invalidAddress) := by
  unfold delete refused
  rw [← hmode]
  split
  · rfl
  · rw [LineRange.indices_of_not_within h]
    rfl

/--
Text is put where the range of its command says, whatever the cursor does meanwhile.
Appended text goes behind the last line of the range and inserted text before the first,
both behind all lines if there are not so many; only appending before the first line is
refused.  Changing and deleting need the lines that the range names.  The cursor ends on
the last line of the text; without a text it stays where it is, or before the lines that
a change has taken away.  After deleting it is on the line that follows, or the last.
-/
theorem edits_land_on_their_range (hmode : editor.mode = .command)
    (hparse : Command.parse? (Text.trim line) = some command)
    (hrange : Address.resolve editor.buffer command.address editor.cursor = .ok range) :
    (∀ inputs, ['.'] ∉ Input.lines inputs ->
      let begun := editor.process line
      let typed := begun.2.enterAll inputs
      let ended := typed.2.process ['.']
      let text := Input.lines inputs
      (command.letter ∈ ['a', 'i', 'c'] ->
        begun.1 = .input ∧
          ∃ kind cursor,
            typed =
              (text.map fun _ => .more,
                editor.typing cursor { kind := kind, range := range, lines := text })) ∧
      (command.letter = 'a' ->
        (0 ≤ range.stop ->
          let place := min range.stop.toNat editor.buffer.length
          ended =
            typed.2.edited (editor.buffer.take place ++ text ++ editor.buffer.drop place)
              (if text = [] then typed.2.cursor else place + text.length - 1)) ∧
        (range.stop < 0 -> ended = typed.2.refused .invalidAddress)) ∧
      (command.letter = 'i' ->
        let place := min (max (range.start - 1) 0).toNat editor.buffer.length
        ended =
          typed.2.edited (editor.buffer.take place ++ text ++ editor.buffer.drop place)
            (if text = [] then typed.2.cursor else place + text.length - 1)) ∧
      (command.letter = 'c' ->
        (range.Within editor.buffer.length ->
          ended =
            typed.2.edited
              (editor.buffer.take (range.start - 1).toNat ++ text ++
                editor.buffer.drop range.stop.toNat)
              (max ((range.start - 1).toNat + text.length) 1 - 1)) ∧
        (¬range.Within editor.buffer.length -> ended = typed.2.refused .invalidAddress))) ∧
    (command.letter = 'd' ->
      (range.Within editor.buffer.length ->
        let left :=
          editor.buffer.take (range.start - 1).toNat ++ editor.buffer.drop range.stop.toNat
        editor.process line =
          editor.edited left (min (range.start - 1).toNat (left.length - 1))) ∧
      (¬range.Within editor.buffer.length ->
        editor.process line =
          editor.refused (if editor.buffer = [] then .emptyBuffer else .invalidAddress))) := by
  have hprocess := process_command hmode hparse hrange
  constructor
  · intro inputs hdot begun typed ended text
    have hdialogue : ∀ kind,
        editor.perform command.letter range command.tail = editor.beginTyping kind range ->
        ∃ cursor,
          let edit := { kind := kind, range := range, lines := text }
          begun.1 = .input ∧ typed = (text.map fun _ => .more, editor.typing cursor edit) ∧
            ended = typed.2.commit edit := by
      intro kind hkind
      rcases dialogue (hkind ▸ hprocess) hdot with ⟨cursor, hbegun, htyped⟩
      refine ⟨cursor, hbegun, htyped, ?_⟩
      show (begun.2.enterAll inputs).2.process ['.'] = (begun.2.enterAll inputs).2.commit _
      rw [htyped]
      exact process_dot cursor _
    refine ⟨?_, ?_, ?_, ?_⟩
    · intro hletter
      have hkind : ∃ kind,
          editor.perform command.letter range command.tail = editor.beginTyping kind range := by
        rcases List.mem_cons.mp hletter with happend | hletter
        · exact ⟨.append, by rw [happend]; rfl⟩
        rcases List.mem_cons.mp hletter with hinsert | hletter
        · exact ⟨.insert, by rw [hinsert]; rfl⟩
        · exact ⟨.change, by rw [List.mem_singleton.mp hletter]; rfl⟩
      rcases hkind with ⟨kind, hkind⟩
      rcases hdialogue kind hkind with ⟨cursor, hbegun, htyped, _⟩
      exact ⟨hbegun, kind, cursor, htyped⟩
    · intro hletter
      rcases hdialogue .append (by rw [hletter]; rfl) with ⟨cursor, _, htyped, hended⟩
      rw [hended, htyped]
      exact ⟨commit_append, commit_append_refused⟩
    · intro hletter
      rcases hdialogue .insert (by rw [hletter]; rfl) with ⟨cursor, _, htyped, hended⟩
      rw [hended, htyped]
      exact commit_insert
    · intro hletter
      rcases hdialogue .change (by rw [hletter]; rfl) with ⟨cursor, _, htyped, hended⟩
      rw [hended, htyped]
      constructor
      · intro hwithin
        exact commit_change (editor.typing cursor _) hwithin
      · intro hwithin
        exact commit_change_refused (editor.typing cursor _) hwithin
  · intro hletter
    rw [hletter] at hprocess
    rw [hprocess]
    exact ⟨settle_delete hmode, settle_delete_refused hmode⟩

/-- Two of three lines are changed, and the cursor is moved before the text and behind it. -/
theorem edits_land_on_their_range_changing :
    let editor := start [['a'], ['b'], ['c']] Options.default
    let line := "2,3c".toList
    let inputs := [Input.move 0, .line ['x'], .move 1]
    let typed := ((editor.process line).2.enterAll inputs).2
    Command.parse? (Text.trim line) =
        some { address := "2,3".toList, letter := 'c', tail := [] } ∧
      Address.resolve editor.buffer "2,3".toList editor.cursor =
        .ok { start := 2, stop := 3 } ∧
      typed.process ['.'] =
        (.output [], { editor with buffer := [['a'], ['x']], cursor := 1 }) := by
  intro editor line inputs typed
  have hparse : Command.parse? (Text.trim line) =
      some { address := "2,3".toList, letter := 'c', tail := [] } := by decide
  have hrange : Address.resolve editor.buffer "2,3".toList editor.cursor =
      .ok { start := 2, stop := 3 } := rfl
  have hmode : editor.mode = .command := rfl
  rcases edits_land_on_their_range hmode hparse hrange with ⟨hdialogue, _⟩
  rcases hdialogue inputs (by decide) with ⟨_, _, _, hchange⟩
  rcases hchange rfl with ⟨hended, _⟩
  exact ⟨hparse, hrange, hended ((LineRange.within_iff (by decide)).mpr (by decide))⟩

end Editor
end LinePalette
