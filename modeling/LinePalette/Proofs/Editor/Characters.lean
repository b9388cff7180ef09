import LinePalette.Proofs.Editor.Commands
import LinePalette.Proofs.Editor.Effects
import LinePalette.Proofs.Pattern.Replacement
import LinePalette.Proofs.Text.Blanks

/-!
# Characters of the lines

An editor makes up no character.  One that is neither in its lines nor in those it
is given stays away from the buffer and from the text being typed, whatever the
lines it is given ask for.
-/

namespace LinePalette

variable {c : Char}

/-!
# Parts of a line
-/

theorem Command.mem_of_mem_tail {line : Text} {command : Command}
    (h : parse? line = some command) (hc : c ∈ command.tail) : c ∈ line := by
  rcases parse?_parts h with hline | rfl
  · rw [hline]
    exact List.mem_append_right _ (List.mem_cons_of_mem _ hc)
  · cases hc

theorem Substitution.mem_of_mem_template {tail : Text} {substitution : Substitution}
    (h : parse tail = .ok substitution) (hc : c ∈ substitution.template) : c ∈ tail := by
  rw [(eq_written_of_parse h).left]
  exact List.mem_append_left _ (List.mem_append_right _ (List.mem_cons_of_mem '/' hc))

/-!
# Lines of a buffer
-/

namespace Buffer

theorem mem_of_mem_replaceLines {buffer : Buffer} {first stop : Nat} {lines : List Text}
    {line : Text} (h : line ∈ buffer.replaceLines first stop lines) :
    line ∈ buffer ∨ line ∈ lines := by
  rcases List.mem_append.mp h with hfront | hback
  · rcases List.mem_append.mp hfront with hkept | hnew
    · exact Or.inl (List.mem_of_mem_take hkept)
    · exact Or.inr hnew
  · exact Or.inl (List.mem_of_mem_drop hback)

theorem mem_of_mem_alterFrom {alter : Text -> Text} {first last index : Nat} {buffer : Buffer}
    {line : Text} (h : line ∈ (alterFrom alter first last index buffer).1) :
    line ∈ buffer ∨ ∃ old ∈ buffer, line = alter old := by
  induction buffer generalizing index with
  | nil => exact Or.inl h
  | cons next later ih =>
      have hlater : line ∈ (alterFrom alter first last (index + 1) later).1 ->
          line ∈ next :: later ∨ ∃ old ∈ next :: later, line = alter old := by
        intro hmem
        rcases ih hmem with hsame | ⟨old, hold, haltered⟩
        · exact Or.inl (List.mem_cons_of_mem next hsame)
        · exact Or.inr ⟨old, List.mem_cons_of_mem next hold, haltered⟩
      simp only [alterFrom] at h
      split at h
      · rcases List.mem_cons.mp h with hnext | hmem
        · exact Or.inr ⟨next, List.mem_cons_self, hnext⟩
        · exact hlater hmem
      · rcases List.mem_cons.mp h with hnext | hmem
        · rw [hnext]
          exact Or.inl List.mem_cons_self
        · exact hlater hmem

end Buffer

/-!
# Editors
-/

/-- The character is in no line of the buffer and in no line that is being typed. -/
structure Editor.FreeOf (editor : Editor) (c : Char) : Prop where
  buffer : ∀ line ∈ editor.buffer, c ∉ line
  typed : ∀ edit, editor.mode = .typing edit -> ∀ line ∈ edit.lines, c ∉ line

namespace Editor

variable {editor after : Editor}

theorem start_freeOf {lines : List Text} (h : ∀ line ∈ lines, c ∉ line) (options : Options) :
    (start lines options).FreeOf c := by
  constructor
  · exact h
  · intro edit hedit
    cases hedit

theorem FreeOf.rebuffer (h : editor.FreeOf c) (hmode : after.mode = editor.mode)
    (hbuffer : ∀ line ∈ after.buffer, c ∉ line) : after.FreeOf c := by
  constructor
  · exact hbuffer
  · intro edit hedit
    rw [hmode] at hedit
    exact h.typed edit hedit

theorem FreeOf.replaceLines (h : editor.FreeOf c) {first stop : Nat} {lines : List Text}
    (hlines : ∀ line ∈ lines, c ∉ line) :
    ∀ line ∈ editor.buffer.replaceLines first stop lines, c ∉ line := by
  intro line hline
  rcases Buffer.mem_of_mem_replaceLines hline with hold | hnew
  · exact h.buffer line hold
  · exact hlines line hnew

theorem FreeOf.substituted (h : editor.FreeOf c) {substitution : Substitution}
    {pattern : Pattern} {first last : Nat} {buffer : Buffer} {changed : Option (Nat × Text)}
    (htemplate : c ∉ substitution.template)
    (halter : editor.substituted substitution pattern first last = (buffer, changed)) :
    ∀ line ∈ buffer, c ∉ line := by
  intro line hline hc
  have hmem : line ∈ (editor.substituted substitution pattern first last).1 := by
    rw [halter]
    exact hline
  rcases Buffer.mem_of_mem_alterFrom hmem with hsame | ⟨old, hold, rfl⟩
  · exact h.buffer line hsame hc
  · rcases Pattern.mem_of_mem_replace hc with hmem | hmem
    · exact h.buffer old hold hmem
    · exact htemplate hmem

theorem beginTyping_freeOf (h : editor.FreeOf c) (kind : EditKind) (range : LineRange) :
    FreeOf { editor with mode := .typing { kind := kind, range := range, lines := [] } } c := by
  constructor
  · exact h.buffer
  · intro edit hedit line hline
    cases hedit
    cases hline

theorem performed_freeOf {range : LineRange} {tail : Text} {letter : Char} {outcome : Outcome}
    (h : editor.FreeOf c) (htail : c ∉ tail)
    (hperformed : Performed editor range tail letter outcome after) : after.FreeOf c := by
  cases hperformed with
  | append => exact beginTyping_freeOf h .append range
  | insert => exact beginTyping_freeOf h .insert range
  | change => exact beginTyping_freeOf h .change range
  | delete _ => exact h.rebuffer rfl (h.replaceLines fun line hline => nomatch hline)
  | print _ => exact h.rebuffer rfl h.buffer
  | number _ => exact h.rebuffer rfl h.buffer
  | substitute hparse _ _ halter =>
      have htemplate := fun hc => htail (Substitution.mem_of_mem_template hparse hc)
      exact h.rebuffer rfl (h.substituted htemplate halter)
  | guide => exact h
  | empty => exact h.rebuffer rfl fun line hline => nomatch hline
  | save => exact h
  | help => exact h
  | explain => exact h.rebuffer rfl h.buffer
  | showPrompt => exact h.rebuffer rfl h.buffer

theorem applyEdit_freeOf {edit : PendingEdit} (h : editor.FreeOf c)
    (hlines : ∀ line ∈ edit.lines, c ∉ line) (happly : editor.applyEdit edit = .ok after) :
    after.FreeOf c := by
  unfold applyEdit at happly
  split at happly
  · rcases insertAt_ok happly with ⟨_, rfl⟩
    exact h.rebuffer rfl (h.replaceLines hlines)
  · rcases insertAt_ok happly with ⟨_, rfl⟩
    exact h.rebuffer rfl (h.replaceLines hlines)
  · rcases changeLines_ok happly with ⟨first, last, _, rfl⟩
    exact h.rebuffer rfl (h.replaceLines hlines)

theorem ended_freeOf (h : editor.FreeOf c) : FreeOf { editor with mode := .command } c := by
  constructor
  · exact h.buffer
  · intro edit hedit
    cases hedit

theorem attempted_freeOf {line : Text} {outcome : Outcome} (h : editor.FreeOf c)
    (hline : c ∉ line) (hattempted : Attempted editor line outcome after) : after.FreeOf c := by
  cases hattempted with
  | stepped _ _ _ => exact h.rebuffer rfl h.buffer
  | performed _ hparse _ hperformed =>
      have htail := fun hc => hline (Text.mem_of_mem_trim (Command.mem_of_mem_tail hparse hc))
      exact performed_freeOf h htail hperformed
  | committed hmode _ hedit => exact applyEdit_freeOf (ended_freeOf h) (h.typed _ hmode) hedit
  | typed hmode _ =>
      constructor
      · exact h.buffer
      · intro longer hlonger typed hmem
        cases hlonger
        rcases List.mem_append.mp hmem with hold | hnew
        · exact h.typed _ hmode typed hold
        · rw [List.mem_singleton.mp hnew]
          exact hline

/-- Whatever a line asks for, its characters and those of the editor are all there is. -/
theorem process_freeOf {line : Text} (h : editor.FreeOf c) (hline : c ∉ line) :
    (editor.process line).2.FreeOf c := by
  rcases process_cases editor line with ⟨error, hfailed⟩ | hattempted
  · rw [hfailed]
    exact (ended_freeOf h).rebuffer rfl h.buffer
  · exact attempted_freeOf h hline hattempted

end Editor
end LinePalette
