import LinePalette.Proofs.Editor.Changes
import LinePalette.Proofs.Editor.Commands
import LinePalette.Proofs.Palette.Routing

/-!
# Lines that ask for a highlight

A line of the form `/regex/H` goes to the editor before the highlight is asked for.  The
editor ends the address at the second slash, so that with more slashes the command is
another one than `H`.  Of the commands that change the lines a substitution cannot come
about, since its tail would have to end differently; deleting and emptying can.
-/

namespace LinePalette

/-!
# Less lines
-/

theorem Buffer.replaceLines_sublist (buffer : Buffer) {first stop : Nat} (h : first ≤ stop) :
    (buffer.replaceLines first stop []).Sublist buffer := by
  have hkept : (buffer.take first ++ [] ++ buffer.drop stop).Sublist
      (buffer.take first ++ buffer.drop first) := by
    rw [List.append_nil]
    exact List.Sublist.append (List.Sublist.refl _) (List.drop_sublist_drop_left buffer h)
  rwa [List.take_append_drop] at hkept

namespace Editor

variable {editor after : Editor} {range : LineRange} {tail line regex : Text} {letter : Char}
  {outcome : Outcome}

theorem Performed.sublist (h : Performed editor range tail letter outcome after)
    (hletter : letter ≠ 's') : after.buffer.Sublist editor.buffer := by
  cases h with
  | delete hends =>
      have hbounds := LineRange.indices_bounds hends
      exact Buffer.replaceLines_sublist editor.buffer (Nat.le_succ_of_le hbounds.left)
  | substitute _ _ _ _ => exact absurd rfl hletter
  | empty => exact List.nil_sublist _
  | _ => exact List.Sublist.refl _

theorem Performed.buffer_ne_iff (h : Performed editor range tail letter outcome after)
    (hletter : letter ≠ 's') :
    after.buffer ≠ editor.buffer ↔ editor.buffer ≠ [] ∧ letter ∈ ['d', 'Q'] := by
  cases h with
  | delete hends =>
      rcases LineRange.indices_bounds hends with ⟨horder, hlast⟩
      have hlines : editor.buffer ≠ [] := List.length_pos_iff.mp (Nat.zero_lt_of_lt hlast)
      apply iff_of_true
      · intro hsame
        have hlength := congrArg List.length hsame
        simp only [Buffer.length_replaceLines, List.length_nil] at hlength
        omega
      · exact ⟨hlines, by decide⟩
  | substitute _ _ _ _ => exact absurd rfl hletter
  | empty =>
      constructor
      · intro hbuffer
        exact ⟨Ne.symm hbuffer, by decide⟩
      · rintro ⟨hlines, _⟩
        exact Ne.symm hlines
  | _ =>
      apply iff_of_false
      · intro hbuffer
        exact hbuffer rfl
      · rintro ⟨_, hdeleting⟩
        exact absurd hdeleting (by decide)

/-!
# Lines of the form `/regex/H`
-/

theorem Performed.substitution (h : Performed editor range tail letter outcome after)
    (hletter : letter = 's') : ∃ substitution, Substitution.parse tail = .ok substitution := by
  cases h with
  | substitute hparse _ _ _ => exact ⟨_, hparse⟩
  | _ => exact absurd hletter (by decide)

theorem highlight_letter {command : Command}
    (hparse : Command.parse? ('/' :: (regex ++ ['/', 'H'])) = some command)
    (h : Performed editor range command.tail command.letter outcome after) :
    command.letter ≠ 's' := by
  intro hletter
  rcases h.substitution hletter with ⟨substitution, hsubstitution⟩
  rcases Command.parse?_parts hparse with hline | hwhole
  · have hlast : ('/' :: regex ++ ['/', 'H']).getLast? = some 'H' := by
      rw [List.getLast?_append]
      rfl
    rw [List.cons_append, hline, List.getLast?_append, List.getLast?_cons] at hlast
    rcases Substitution.getLast?_of_parse hsubstitution with hslash | hflag
    · rw [hslash] at hlast
      cases hlast
    · rw [hflag] at hlast
      cases hlast
  · rw [hwhole] at hletter
    cases hletter

theorem process_highlight (hmode : editor.mode = .command)
    (hline : line = '/' :: (regex ++ ['/', 'H'])) :
    (editor.process line).2.buffer.Sublist editor.buffer ∧
      ((editor.process line).2.buffer ≠ editor.buffer ↔
        (editor.process line).1.isError = false ∧ editor.buffer ≠ [] ∧
          editor.Commanded ['d', 'Q'] line) := by
  have htrim : Text.trim line = '/' :: (regex ++ ['/', 'H']) := by
    rw [hline, Text.trim_slashed rfl]
  rcases process_cases editor line with ⟨error, hfailed⟩ | hattempted
  · rw [hfailed]
    refine ⟨List.Sublist.refl _, iff_of_false (fun hbuffer => hbuffer rfl) ?_⟩
    rintro ⟨hsuccess, _⟩
    cases hsuccess
  · have hsuccess := hattempted.lastError.left
    rw [and_iff_right hsuccess]
    generalize (editor.process line).1 = outcome, (editor.process line).2 = after at *
    cases hattempted with
    | stepped _ hempty _ =>
        rw [htrim] at hempty
        cases hempty
    | performed _ hparse _ hperformed =>
        rw [Editor.commanded_iff hmode hparse]
        rw [htrim] at hparse
        have hletter := highlight_letter hparse hperformed
        exact ⟨hperformed.sublist hletter, hperformed.buffer_ne_iff hletter⟩
    | typed htyping _ =>
        rw [hmode] at htyping
        cases htyping
    | committed htyping _ _ =>
        rw [hmode] at htyping
        cases htyping

theorem not_commanded_highlight (hslash : '/' ∉ regex)
    (hline : line = '/' :: (regex ++ ['/', 'H'])) : ¬editor.Commanded ['d', 'Q'] line := by
  rintro ⟨hmode, hcommanded⟩
  have hparse : Command.parse? (Text.trim line) =
      some { address := '/' :: (regex ++ ['/']), letter := 'H', tail := [] } := by
    rw [hline, Command.parse?_trim_pattern hslash rfl rfl]
  have hletter : 'H' ∈ ['d', 'Q'] := (commanded_iff hmode hparse _).mp ⟨hmode, hcommanded⟩
  exact absurd hletter (by decide)

end Editor

namespace Palette

variable {palette : Palette} {line regex : Text}

theorem submit_highlight
    (h : (palette.submit line).2.1 = .broadcast (.broadcast (.highlight regex))) :
    line = '/' :: (regex ++ ['/', 'H']) ∧ palette.editor.mode = .command := by
  have hline : line = '/' :: (regex ++ ['/', 'H']) := by
    rcases route_broadcast h with ⟨other, hmessage, hrequest⟩ | ⟨_, _, hmessage, _⟩
    · cases hmessage
      exact highlightRequest?_eq_some_iff.mp hrequest
    · cases hmessage
  refine ⟨hline, ?_⟩
  cases hmode : palette.editor.mode with
  | command => rfl
  | typing edit =>
      have hdot : line ≠ ['.'] := by
        rw [hline]
        intro hdot
        cases hdot
      have htyped := Editor.process_typing hmode hdot
      have hroute : route palette.source (palette.editor.process line).2.isTyping line
          (palette.editor.process line).1 = .broadcast (.broadcast (.highlight regex)) := h
      rw [htyped] at hroute
      cases hroute

end Palette
end LinePalette
