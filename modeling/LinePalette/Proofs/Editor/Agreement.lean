import LinePalette.Proofs.Editor.InPlace

/-!
# Agreement

Editing in place comes to what the editor computes from values.  From a sound
editor no step breaks a bound, and a step that is refused has changed nothing.
-/

namespace LinePalette
namespace InPlace

/-!
# Composition

A step that ends in a known way hands its answer to the next step.
-/

variable {α β : Type}

def gives (editor : Editor) : Except EditError α -> EStateM.Result Halt Editor α
  | .ok value => .ok value editor
  | .error error => .error (.refused error) editor

/-- How a step ends that may change the editor, but leaves it alone when it refuses. -/
def becomes (editor : Editor) :
    Except EditError (α × Editor) -> EStateM.Result Halt Editor α
  | .ok (value, after) => .ok value after
  | .error error => .error (.refused error) editor

theorem bind_ok {step : Step α} {next : α -> Step β} {editor after : Editor} {value : α}
    (h : step editor = .ok value after) : (step >>= next) editor = next value after := by
  show EStateM.bind step next editor = next value after
  unfold EStateM.bind
  rw [h]

theorem bind_error {step : Step α} {next : α -> Step β} {editor after : Editor} {halt : Halt}
    (h : step editor = .error halt after) : (step >>= next) editor = .error halt after := by
  show EStateM.bind step next editor = .error halt after
  unfold EStateM.bind
  rw [h]

theorem get_bind (next : Editor -> Step β) (editor : Editor) :
    ((get : Step Editor) >>= next) editor = next editor editor := rfl

theorem set_bind (next : PUnit -> Step β) (editor after : Editor) :
    ((set after : Step PUnit) >>= next) editor = next PUnit.unit after := rfl

theorem value_bind (value : α) (next : α -> Except EditError β) :
    ((Except.ok value : Except EditError α) >>= next) = next value := rfl

theorem whole_eq {limit : Nat} {n : Int} (editor : Editor)
    (hlow : -(limit : Int) - 1 ≤ n) (hhigh : n ≤ limit) :
    whole limit n editor = .ok n editor := by
  unfold whole
  rw [if_pos ⟨hlow, hhigh⟩]
  rfl

/-!
# Lines
-/

theorem lineAt_eq (editor : Editor) {index : Nat} {line : Text}
    (h : editor.buffer[index]? = some line) : lineAt index editor = .ok line editor := by
  unfold lineAt
  rw [get_bind, h]
  rfl

theorem setLine_eq {editor : Editor} {index : Nat} (line : Text)
    (h : index < editor.buffer.length) :
    setLine index line editor =
      .ok PUnit.unit { editor with buffer := editor.buffer.set index line } := by
  unfold setLine
  rw [get_bind, if_pos h]
  rfl

theorem linesBetween_eq {editor : Editor} {first last : Nat}
    (h : first ≤ last ∧ last < editor.buffer.length) :
    linesBetween first last editor = .ok (editor.buffer.between first last) editor := by
  unfold linesBetween
  rw [get_bind, if_pos ⟨Nat.le_succ_of_le h.left, h.right⟩]
  rfl

theorem splice_eq {editor : Editor} {first stop : Nat} (lines : List Text)
    (h : first ≤ stop ∧ stop ≤ editor.buffer.length) :
    splice first stop lines editor =
      .ok PUnit.unit { editor with buffer := editor.buffer.replaceLines first stop lines } := by
  unfold splice
  rw [get_bind, if_pos h]
  rfl

theorem moveCursor_eq (line : Nat) (editor : Editor) :
    moveCursor line editor = .ok PUnit.unit { editor with cursor := line } := rfl

theorem refuseEmpty_eq {editor : Editor} (h : editor.buffer ≠ []) :
    refuseEmpty editor = .ok PUnit.unit editor := by
  unfold refuseEmpty
  rw [get_bind, if_neg h]
  rfl

theorem refuseEmpty_error {editor : Editor} (h : editor.buffer = []) :
    refuseEmpty editor = .error (.refused .emptyBuffer) editor := by
  unfold refuseEmpty
  rw [get_bind, if_pos h]
  rfl

/-!
# Addresses

With room for every line number, no address leads out of the range of words.
-/

/-- Words are large enough for every line number and for the lines of the buffer. -/
structure Room (limit : Nat) (editor : Editor) : Prop where
  max_le : maxLineNumber ≤ limit
  length_le : editor.buffer.length ≤ limit

theorem firstMatch_eq (pattern : Pattern) {editor : Editor} {order : List Nat}
    (h : ∀ index ∈ order, index < editor.buffer.length) :
    firstMatch pattern order editor =
      .ok (order.find? fun index => (editor.buffer[index]?).any pattern.isMatch) editor := by
  induction order with
  | nil => rfl
  | cons index later ih =>
      have hindex := h index List.mem_cons_self
      have hline := List.getElem?_eq_getElem hindex
      have hlater := ih fun other hother => h other (List.mem_cons_of_mem _ hother)
      unfold firstMatch
      rw [bind_ok (lineAt_eq editor hline), List.find?_cons, hline]
      cases hmatch : pattern.isMatch editor.buffer[index] with
      | true =>
          simp only [Option.any_some, hmatch]
          rfl
      | false =>
          simp only [Option.any_some, hmatch]
          exact hlater

theorem Room.lineNumber_le {limit index : Nat} {editor : Editor} (hroom : Room limit editor)
    (h : index < editor.buffer.length) : lineNumber index + 1 ≤ limit := by
  have hlength := hroom.length_le
  have hnumber := LinePalette.lineNumber_le index
  omega

theorem search_eq {limit : Nat} {editor : Editor} (hroom : Room limit editor) (source : Text)
    (reference : Int) (wrap : Address.Wrap) (hlow : -(limit : Int) - 1 ≤ reference + 1)
    (hhigh : reference + 1 ≤ limit) :
    search limit source reference wrap editor =
      gives editor (Address.search source editor.buffer reference wrap) := by
  unfold search Address.search
  cases Pattern.compile source with
  | error _ => rfl
  | ok pattern =>
      have horder : ∀ index ∈ Address.searchOrder editor.buffer.length reference wrap,
          index < editor.buffer.length := fun index hindex => Address.mem_searchOrder hindex
      simp only
      rw [bind_ok (whole_eq editor hlow hhigh), get_bind, bind_ok (firstMatch_eq pattern horder)]
      unfold Address.searchLine
      cases hfound : (Address.searchOrder editor.buffer.length reference wrap).find?
          fun index => (editor.buffer[index]?).any pattern.isMatch with
      | none => rfl
      | some index =>
          have hindex := horder index (List.mem_of_find?_eq_some hfound)
          have hnumber := hroom.lineNumber_le hindex
          have hpos := lineNumber_nonneg index
          exact whole_eq editor (by omega) hnumber

theorem resolveOne_eq {limit : Nat} {editor : Editor} (hroom : Room limit editor) (text : Text)
    (reference : Int) (wrap : Address.Wrap) (hlow : -(limit : Int) - 1 ≤ reference + 1)
    (hhigh : reference + 1 ≤ limit) :
    resolveOne limit text reference wrap editor =
      gives editor (Address.resolveOne editor.buffer text reference wrap) := by
  unfold resolveOne Address.resolveOne
  rw [get_bind]
  split
  · exact whole_eq editor hlow hhigh
  · split
    · rfl
    · cases hnumber : Address.leadingInteger? text with
      | some number =>
          have hbounds := Address.leadingInteger?_bounds hnumber
          have hmax := hroom.max_le
          exact whole_eq editor (by omega) (by omega)
      | none =>
          cases Address.slashed? text with
          | some source => exact search_eq hroom source reference wrap hlow hhigh
          | none => rfl

theorem resolvePair_eq {limit : Nat} {editor : Editor} (hroom : Room limit editor)
    (left right : Text) {cursor : Int} (hlow : -1 ≤ cursor) (hcursor : cursor ≤ maxLineNumber)
    (hhigh : cursor + 1 ≤ limit) :
    resolvePair limit left right cursor editor =
      gives editor (Address.resolvePair editor.buffer left right cursor) := by
  have hmax := hroom.max_le
  have hleft := resolveOne_eq hroom left _ .around (by omega) hhigh
  unfold resolvePair
  cases hstart : Address.resolveOne editor.buffer left cursor .around with
  | error error =>
      have hpair : Address.resolvePair editor.buffer left right cursor = .error error := by
        unfold Address.resolvePair
        rw [hstart]
        rfl
      rw [hstart] at hleft
      rw [bind_error hleft, hpair]
      rfl
  | ok start =>
      have hbound := (Address.resolveOne_bounds hlow hcursor hstart).left
      have hle := Address.resolveOne_le hmax hroom.length_le hhigh hstart
      have hright := resolveOne_eq hroom right (start - 1) .stop (by omega) (by omega)
      have hpair : Address.resolvePair editor.buffer left right cursor =
          (Address.resolveOne editor.buffer right (start - 1) .stop).bind fun stop =>
            if stop < start then .error .invalidRange
            else .ok { start := start, stop := stop } := by
        unfold Address.resolvePair
        rw [hstart]
        rfl
      rw [hstart] at hleft
      rw [bind_ok hleft, bind_ok (whole_eq editor (by omega) (by omega)), hpair]
      cases hstop : Address.resolveOne editor.buffer right (start - 1) .stop with
      | error error =>
          rw [hstop] at hright
          rw [bind_error hright]
          rfl
      | ok stop =>
          rw [hstop] at hright
          rw [bind_ok hright]
          simp only [Except.bind]
          split
          · rfl
          · rfl

theorem resolve_eq {limit : Nat} {editor : Editor} (hroom : Room limit editor)
    (hsound : editor.Sound) (text : Text) :
    resolve limit text editor =
      gives editor (Address.resolve editor.buffer text editor.cursor) := by
  have hmax := hroom.max_le
  have hlength := hroom.length_le
  have hcursor := hsound.cursor_le
  have hnumber := LinePalette.lineNumber_le editor.cursor
  have hpos := lineNumber_nonneg editor.cursor
  have hone : 1 ≤ maxLineNumber := by decide
  have hhigh : lineNumber editor.cursor + 1 ≤ limit := by omega
  have hsingle :
      (resolveOne limit text (lineNumber editor.cursor) .around >>= fun line =>
        pure (LineRange.single line)) editor =
      gives editor
        ((Address.resolveOne editor.buffer text (lineNumber editor.cursor) .around).map
          LineRange.single) := by
    have hline := resolveOne_eq hroom text _ .around (by omega) hhigh
    cases hfound : Address.resolveOne editor.buffer text (lineNumber editor.cursor) .around with
    | error error =>
        rw [hfound] at hline
        rw [bind_error hline]
        rfl
    | ok line =>
        rw [hfound] at hline
        rw [bind_ok hline]
        rfl
  unfold resolve Address.resolve
  rw [get_bind]
  simp only
  split
  · rw [bind_ok (whole_eq editor (by omega) hhigh)]
    rfl
  · split
    · rfl
    · rcases Text.splitOn ',' text with _ | ⟨left, _ | ⟨right, later⟩⟩
      · exact hsingle
      · exact hsingle
      · exact resolvePair_eq hroom _ _ (by omega) (lineNumber_le_max editor.cursor) hhigh

theorem indices_eq {limit : Nat} {editor : Editor} (hroom : Room limit editor)
    (range : LineRange) :
    indices limit range editor = gives editor (range.indices editor.buffer.length) := by
  have hmax := hroom.max_le
  have hlast := lineNumber_le_max editor.buffer.length
  unfold indices LineRange.indices
  rw [get_bind]
  split
  · rfl
  · rw [bind_ok (whole_eq editor (by omega) (by omega)),
      bind_ok (whole_eq editor (by omega) (by omega))]
    rfl

/-!
# Actions
-/

theorem stepForward_eq (editor : Editor) :
    stepForward editor = becomes editor editor.stepForward := by
  unfold stepForward Editor.stepForward
  by_cases hempty : editor.buffer = []
  · rw [bind_error (refuseEmpty_error hempty), if_pos hempty]
    rfl
  · have hpos := List.length_pos_iff.mpr hempty
    have hnext := Nat.mod_lt (editor.cursor + 1) hpos
    have hline := List.getElem?_eq_getElem hnext
    have hremainder :
        remainder (editor.cursor + 1) editor.buffer.length editor =
          .ok ((editor.cursor + 1) % editor.buffer.length) editor := by
      unfold remainder
      rw [if_neg (Nat.ne_of_gt hpos)]
      rfl
    have hshown := lineAt_eq
      { editor with cursor := (editor.cursor + 1) % editor.buffer.length } hline
    rw [bind_ok (refuseEmpty_eq hempty), if_neg hempty, get_bind, bind_ok hremainder,
      bind_ok (moveCursor_eq _ editor), bind_ok hshown]
    simp only [List.getD_eq_getElem?_getD, hline, Option.getD_some]
    rfl

theorem onLines_eq {limit : Nat} {editor : Editor} (hroom : Room limit editor)
    {range : LineRange} {act : Nat × Nat -> Step Outcome}
    {plain : Nat × Nat -> Editor.Result}
    (hact : ∀ first last, first ≤ last ∧ last < editor.buffer.length ->
      act (first, last) editor = becomes editor (plain (first, last))) :
    (refuseEmpty >>= fun _ => indices limit range >>= act) editor =
      becomes editor (editor.onLines range plain) := by
  unfold Editor.onLines
  by_cases hempty : editor.buffer = []
  · rw [bind_error (refuseEmpty_error hempty), if_pos hempty]
    rfl
  · rw [bind_ok (refuseEmpty_eq hempty), if_neg hempty]
    have hindices := indices_eq hroom range
    cases hends : range.indices editor.buffer.length with
    | error error =>
        rw [hends] at hindices
        rw [bind_error hindices]
        rfl
    | ok ends =>
        rw [hends] at hindices
        rw [bind_ok hindices]
        exact hact ends.1 ends.2 (LineRange.indices_bounds hends)

theorem print_eq {limit : Nat} {editor : Editor} (hroom : Room limit editor)
    (range : LineRange) (numbered : Bool) :
    print limit range numbered editor = becomes editor (editor.print range numbered) := by
  rw [Editor.print_eq_onLines]
  apply onLines_eq hroom
  intro first last hbounds
  simp only
  rw [bind_ok (linesBetween_eq hbounds), bind_ok (moveCursor_eq last editor)]
  rfl

theorem delete_eq {limit : Nat} {editor : Editor} (hroom : Room limit editor)
    (range : LineRange) :
    delete limit range editor = becomes editor (editor.delete range) := by
  rw [Editor.delete_eq_onLines]
  apply onLines_eq hroom
  intro first last hbounds
  have hstretch : first ≤ last + 1 ∧ last + 1 ≤ editor.buffer.length := by omega
  simp only
  rw [bind_ok (splice_eq [] hstretch), get_bind, bind_ok (moveCursor_eq _ _)]
  rfl

theorem insertAt_eq (position : Int) (lines : List Text) (editor : Editor) :
    insertAt position lines editor =
      becomes editor ((editor.insertAt position lines).map fun after => ((), after)) := by
  unfold insertAt Editor.insertAt
  by_cases hposition : position < 0
  · rw [if_pos hposition, if_pos hposition]
    rfl
  · have hindex := Nat.min_le_right position.toNat editor.buffer.length
    rw [if_neg hposition, if_neg hposition, get_bind]
    simp only
    rw [bind_ok (splice_eq lines ⟨Nat.le_refl _, hindex⟩)]
    by_cases hlines : lines = []
    · rw [if_pos hlines, if_pos hlines]
      rfl
    · have hcount := List.length_pos_iff.mpr hlines
      have hlast (after : Editor) :
          difference (min position.toNat editor.buffer.length + lines.length) 1 after =
            .ok (min position.toNat editor.buffer.length + lines.length - 1) after := by
        unfold difference
        rw [if_pos (by omega)]
        rfl
      rw [if_neg hlines, if_neg hlines, bind_ok (hlast _)]
      rfl

theorem changeLines_eq {limit : Nat} {editor : Editor} (hroom : Room limit editor)
    (range : LineRange) (lines : List Text) :
    changeLines limit range lines editor =
      becomes editor ((editor.changeLines range lines).map fun after => ((), after)) := by
  have hindices := indices_eq hroom range
  unfold changeLines Editor.changeLines
  cases hends : range.indices editor.buffer.length with
  | error error =>
      rw [hends] at hindices
      rw [bind_error hindices]
      rfl
  | ok ends =>
      rcases ends with ⟨first, last⟩
      have hbounds := LineRange.indices_bounds hends
      have hstretch : first ≤ last + 1 ∧ last + 1 ≤ editor.buffer.length := by omega
      rw [hends] at hindices
      rw [bind_ok hindices]
      simp only
      rw [bind_ok (splice_eq lines hstretch)]
      rfl

/-!
# Substituting

The loop goes through the lines of the range from the first to the last.  What is
behind it has been altered, what is ahead of it is as it was.
-/

theorem alterEach_eq (alter : Text -> Text) (first last : Nat) (editor : Editor)
    (done middle rest : Buffer) (changed : Option Nat)
    (hbuffer : editor.buffer = done ++ middle ++ rest)
    (hstretch : first ≤ done.length ∧ done.length + middle.length ≤ last + 1) :
    alterEach alter done.length middle.length changed editor =
      .ok (((Buffer.alterFrom alter first last done.length middle).2.map Prod.fst).or changed)
        { editor with
          buffer :=
            done ++ (Buffer.alterFrom alter first last done.length middle).1 ++ rest } := by
  induction middle generalizing done changed editor with
  | nil =>
      have hsame : { editor with buffer := done ++ [] ++ rest } = editor := by
        rw [← hbuffer]
      simp only [List.length_nil, Buffer.alterFrom, Option.map_none, Option.none_or, hsame]
      rfl
  | cons line later ih =>
      rw [List.length_cons] at hstretch ⊢
      have hin : first ≤ done.length ∧ done.length ≤ last := by omega
      have hline : editor.buffer[done.length]? = some line := by
        rw [hbuffer]
        simp
      have hdone (head : Text) : (done ++ [head]).length = done.length + 1 := by simp
      have hnext (head : Text) (changed : Option Nat) (after : Editor)
          (hafter : after.buffer = done ++ head :: later ++ rest) :=
        ih after (done ++ [head]) changed (by simp [hafter])
          (by rw [hdone]; omega)
      unfold alterEach
      rw [bind_ok (lineAt_eq editor hline)]
      simp only [Buffer.alterFrom]
      rw [if_pos hin]
      by_cases hsame : alter line = line
      · have hloop := hnext line changed editor hbuffer
        rw [hdone] at hloop
        rw [if_pos hsame, hloop, hsame]
        simp
      · have hindex : done.length < editor.buffer.length := by
          rw [hbuffer]
          simp
        have hset : editor.buffer.set done.length (alter line) =
            done ++ alter line :: later ++ rest := by
          rw [hbuffer]
          simp
        have hloop := hnext (alter line) (some done.length)
          { editor with buffer := done ++ alter line :: later ++ rest } rfl
        rw [hdone] at hloop
        rw [if_neg hsame, bind_ok (setLine_eq (alter line) hindex), hset, hloop]
        simp [hsame]
        cases (Buffer.alterFrom alter first last (done.length + 1) later).snd with
        | none => rfl
        | some found => rfl

theorem alterEach_range {alter : Text -> Text} {first last : Nat} {editor : Editor}
    (h : first ≤ last ∧ last < editor.buffer.length) :
    alterEach alter first (last + 1 - first) none editor =
      .ok ((editor.buffer.alterLines alter first last).2.map Prod.fst)
        { editor with buffer := (editor.buffer.alterLines alter first last).1 } := by
  have hbetween := Buffer.length_between h
  have hsplit := Buffer.take_between_drop editor.buffer (Nat.le_succ_of_le h.left)
  have hfirst : (editor.buffer.take first).length = first := by
    rw [List.length_take]
    omega
  have hloop := alterEach_eq alter first last editor
    (editor.buffer.take first) (editor.buffer.between first last)
    (editor.buffer.drop (last + 1)) none hsplit.symm (by omega)
  rw [hfirst, hbetween, Option.or_none] at hloop
  rw [hloop, Buffer.alterLines_eq h]

theorem substitute_eq {limit : Nat} {editor : Editor} (hroom : Room limit editor)
    (range : LineRange) (tail : Text) :
    substitute limit range tail editor = becomes editor (editor.substitute range tail) := by
  unfold substitute Editor.substitute
  cases Substitution.parse tail with
  | error error => rfl
  | ok substitution =>
      rw [value_bind]
      simp only
      by_cases hempty : editor.buffer = []
      · rw [bind_error (refuseEmpty_error hempty), if_pos hempty]
        rfl
      · rw [bind_ok (refuseEmpty_eq hempty), if_neg hempty]
        cases Pattern.compile substitution.pattern with
        | error _ => rfl
        | ok pattern =>
            have hindices := indices_eq hroom range
            simp only
            cases hends : range.indices editor.buffer.length with
            | error error =>
                rw [hends] at hindices
                rw [bind_error hindices]
                rfl
            | ok ends =>
                rcases ends with ⟨first, last⟩
                have hbounds := LineRange.indices_bounds hends
                rw [hends] at hindices
                rw [bind_ok hindices, value_bind]
                simp only
                rw [bind_ok (alterEach_range hbounds)]
                cases halter : editor.buffer.alterLines (fun line =>
                    pattern.replace line substitution.template substitution.everywhere)
                    first last with
                | mk buffer changed =>
                    cases changed with
                    | none =>
                        -- Nothing is different, so what has been altered is the buffer before.
                        have hsame := Buffer.alterFrom_unchanged halter
                        rw [hsame]
                        rfl
                    | some found =>
                        rcases found with ⟨index, line⟩
                        rcases Buffer.alterLines_changed halter with ⟨_, hline⟩
                        have hshown := lineAt_eq
                          { editor with buffer := buffer, cursor := index } hline
                        simp only [Option.map_some]
                        rw [bind_ok (moveCursor_eq index _), bind_ok hshown]
                        rfl

/-!
# Commands
-/

theorem perform_eq {limit : Nat} {editor : Editor} (hroom : Room limit editor)
    (letter : Char) (range : LineRange) (tail : Text) :
    perform limit letter range tail editor =
      becomes editor (editor.perform letter range tail) := by
  unfold perform
  rw [get_bind]
  split
  · rfl
  · rfl
  · rfl
  · exact delete_eq hroom range
  · exact print_eq hroom range false
  · exact print_eq hroom range true
  · exact substitute_eq hroom range tail
  · rfl
  · rfl
  · rfl
  · rfl
  · rfl
  · rfl
  · next hother =>
      have hunknown : editor.perform letter range tail = .error .unknownCommand := by
        simp only [Editor.perform]
      rw [hunknown]
      rfl

theorem runCommand_eq {limit : Nat} {editor : Editor} (hroom : Room limit editor)
    (hsound : editor.Sound) (line : Text) :
    runCommand limit line editor = becomes editor (editor.runCommand line) := by
  unfold runCommand Editor.runCommand
  cases Command.parse? line with
  | none => exact stepForward_eq editor
  | some command =>
      have hresolve := resolve_eq hroom hsound command.address
      simp only
      cases hrange : Address.resolve editor.buffer command.address editor.cursor with
      | error error =>
          rw [hrange] at hresolve
          rw [bind_error hresolve]
          rfl
      | ok range =>
          rw [hrange] at hresolve
          rw [bind_ok hresolve]
          exact perform_eq hroom command.letter range command.tail

/-!
# Lines of input
-/

theorem applyEdit_eq {limit : Nat} {editor : Editor} (hroom : Room limit editor)
    {edit : PendingEdit} (hsound : edit.Sound) :
    applyEdit limit edit editor =
      becomes editor ((editor.applyEdit edit).map fun after => ((), after)) := by
  unfold applyEdit Editor.applyEdit
  cases edit.kind with
  | append => exact insertAt_eq _ _ editor
  | insert =>
      have hmax := hroom.max_le
      have hlow := hsound.resolved.start_low
      have hhigh := hsound.resolved.start_high
      simp only
      rw [bind_ok (whole_eq editor (by omega) (by omega))]
      exact insertAt_eq _ _ editor
  | change => exact changeLines_eq hroom _ _

theorem commit_eq {limit : Nat} {editor : Editor} (hroom : Room limit editor)
    {edit : PendingEdit} (hsound : edit.Sound) :
    commit limit edit editor =
      becomes { editor with mode := .command }
        ((Editor.applyEdit { editor with mode := .command } edit).map fun changed =>
          (.output [], changed)) := by
  have hended : Room limit { editor with mode := .command } := ⟨hroom.max_le, hroom.length_le⟩
  have happly := applyEdit_eq hended hsound
  unfold commit
  rw [get_bind, set_bind]
  cases hedit : Editor.applyEdit { editor with mode := .command } edit with
  | error error =>
      rw [hedit] at happly
      exact bind_error happly
  | ok changed =>
      rw [hedit] at happly
      rw [bind_ok happly]
      rfl

/-- What a line leads to in place: a refusal finds the editor as it was, with typing ended. -/
theorem attempt_eq {limit : Nat} {editor : Editor} (hroom : Room limit editor)
    (hsound : editor.Sound) (line : Text) :
    attempt limit line editor =
      becomes { editor with mode := .command } (editor.attempt line) := by
  unfold attempt Editor.attempt
  rw [get_bind]
  cases hmode : editor.mode with
  | command =>
      have hsame : { editor with mode := .command } = editor := by rw [← hmode]
      rw [hsame]
      exact runCommand_eq hroom hsound (Text.trim line)
  | typing edit =>
      simp only
      by_cases hdot : line = ['.']
      · rw [if_pos hdot, if_pos hdot]
        exact commit_eq hroom (hsound.pending edit hmode)
      · rw [if_neg hdot, if_neg hdot]
        rfl

theorem process_eq {limit : Nat} {editor : Editor} (hroom : Room limit editor)
    (hsound : editor.Sound) (line : Text) :
    process limit line editor = .ok (editor.process line).1 (editor.process line).2 := by
  unfold process
  rw [attempt_eq hroom hsound line, Editor.process_eq_settle]
  cases editor.attempt line with
  | error error => rfl
  | ok answer => rfl

end InPlace
end LinePalette
