import LinePalette.Palette.Session
import LinePalette.Proofs.Editor.Failures
import LinePalette.Proofs.Text.Affixes

/-!
# Routing

What a palette has its surroundings do.  Only two kinds of message are ever sent:
a line of the form `/regex/H` asks for a highlight, and a line that saves the
buffer has it written back, unless the line is of that form as well.
-/

namespace LinePalette

/-!
# Saving lines

The one command that saves leaves the editor as it was, and hands out its buffer.
-/

namespace Editor

theorem performed_saved {editor after : Editor} {range : LineRange} {tail : Text}
    {letter : Char} {text : Text} {buffer : List Text}
    (h : Performed editor range tail letter (.saved text buffer) after) :
    letter = 'w' ∧ text = savedMessage ∧ buffer = editor.buffer ∧ after = editor := by
  cases h
  exact ⟨rfl, rfl, rfl, rfl⟩

theorem process_saved {editor after : Editor} {line text : Text} {buffer : List Text}
    (h : editor.process line = (.saved text buffer, after)) :
    text = savedMessage ∧ buffer = editor.buffer ∧ after = editor ∧ editor.mode = .command := by
  rcases process_cases editor line with ⟨error, hfailed⟩ | hattempted
  · rw [hfailed] at h
    cases h
  · rw [h] at hattempted
    cases hattempted with
    | performed hmode _ _ hperformed =>
        rcases performed_saved hperformed with ⟨_, htext, hbuffer, hafter⟩
        exact ⟨htext, hbuffer, hafter, hmode⟩

end Editor

namespace Palette

/-!
# Highlight requests
-/

theorem highlightRequest?_eq_some_iff {line regex : Text} :
    highlightRequest? line = some regex ↔ line = '/' :: (regex ++ ['/', 'H']) := by
  unfold highlightRequest?
  rw [Option.bind_eq_some_iff]
  constructor
  · rintro ⟨rest, hlead, htail⟩
    rw [Text.stripLeading?_eq_some_iff.mp hlead, Text.stripTrailing?_eq_some_iff.mp htail]
    rfl
  · intro h
    refine ⟨regex ++ ['/', 'H'], ?_, ?_⟩
    · exact Text.stripLeading?_eq_some_iff.mpr h
    · exact Text.stripTrailing?_eq_some_iff.mpr rfl

/-- The line has the form `/regex/H`. -/
def IsHighlight (line : Text) : Prop :=
  ∃ regex, line = '/' :: (regex ++ ['/', 'H'])

theorem highlightRequest?_eq_none_iff {line : Text} :
    highlightRequest? line = none ↔ ¬IsHighlight line := by
  rw [Option.eq_none_iff_forall_not_mem]
  constructor
  · rintro hnone ⟨regex, hline⟩
    exact hnone regex (highlightRequest?_eq_some_iff.mpr hline)
  · intro hline regex hregex
    exact hline ⟨regex, highlightRequest?_eq_some_iff.mp hregex⟩

/-!
# Submitted lines
-/

theorem route_broadcast {source : Source} {typing : Bool} {line : Text} {outcome : Outcome}
    {message : Message} (h : route source typing line outcome = .broadcast message) :
    (∃ regex,
        message = .broadcast (.highlight regex) ∧ highlightRequest? line = some regex) ∨
      ∃ text buffer,
        message = .broadcast (.write buffer source) ∧ outcome = .saved text buffer ∧
        (typing = true ∨ highlightRequest? line = none) := by
  have hrequest : ∀ regex,
      (if typing then none else highlightRequest? line) = some regex ->
      highlightRequest? line = some regex := by
    intro regex hregex
    cases typing with
    | true => cases hregex
    | false => exact hregex
  have hplain : (if typing then none else highlightRequest? line) = none ->
      typing = true ∨ highlightRequest? line = none := by
    intro hnone
    cases typing with
    | true => exact Or.inl rfl
    | false => exact Or.inr hnone
  unfold route at h
  split at h
  · cases h
  · cases h
  · split at h
    · next regex hregex =>
        cases h
        exact Or.inl ⟨regex, rfl, hrequest regex hregex⟩
    · next hnone =>
        cases outcome with
        | saved text buffer =>
            cases h
            exact Or.inr ⟨text, buffer, rfl, rfl, hplain hnone⟩
        | output text => cases h
        | error text => cases h
        | input => cases h
        | more => cases h

theorem submit_saved {palette : Palette} {line text : Text} {buffer : List Text}
    (h : (palette.submit line).1 = .saved text buffer) :
    text = Editor.savedMessage ∧ buffer = palette.editor.buffer ∧
      (palette.submit line).2.2 = palette ∧
      (palette.submit line).2.1 = route palette.source false line (.saved text buffer) := by
  have hprocess : palette.editor.process line =
      (.saved text buffer, (palette.editor.process line).2) := by
    rw [← h]
    rfl
  rcases Editor.process_saved hprocess with ⟨htext, hbuffer, hafter, hmode⟩
  refine ⟨htext, hbuffer, ?_, ?_⟩
  · show { palette with editor := (palette.editor.process line).2 } = palette
    rw [hafter]
  · show route palette.source (palette.editor.process line).2.isTyping line
      (palette.editor.process line).1 = _
    rw [hprocess, hafter]
    simp only [Editor.isTyping, hmode]

theorem submit_saved_write {palette : Palette} {line text : Text} {buffer : List Text}
    (hsaved : (palette.submit line).1 = .saved text buffer) (hline : ¬IsHighlight line) :
    (palette.submit line).2.1 = .broadcast (.broadcast (.write buffer palette.source)) := by
  rw [(submit_saved hsaved).2.2.2]
  simp only [route, highlightRequest?_eq_none_iff.mpr hline]
  rfl

theorem submit_saved_highlight {palette : Palette} {line text regex : Text}
    {buffer : List Text} (hsaved : (palette.submit line).1 = .saved text buffer)
    (hline : line = '/' :: (regex ++ ['/', 'H'])) :
    (palette.submit line).2.1 = .broadcast (.broadcast (.highlight regex)) := by
  rw [(submit_saved hsaved).2.2.2]
  simp only [route, highlightRequest?_eq_some_iff.mpr hline]
  rfl

theorem submit_write_iff {palette : Palette} {line : Text} {buffer : List Text} :
    (palette.submit line).2.1 = .broadcast (.broadcast (.write buffer palette.source)) ↔
      (∃ text, (palette.submit line).1 = .saved text buffer) ∧ ¬IsHighlight line := by
  constructor
  · intro h
    rcases route_broadcast h with ⟨regex, hmessage, _⟩ | ⟨text, other, hmessage, hsaved, _⟩
    · cases hmessage
    · cases hmessage
      refine ⟨⟨text, hsaved⟩, ?_⟩
      rintro ⟨regex, hline⟩
      rw [submit_saved_highlight hsaved hline] at h
      cases h
  · rintro ⟨⟨text, hsaved⟩, hline⟩
    exact submit_saved_write hsaved hline

theorem submit_saved_broadcast {palette : Palette} {line text : Text} {buffer : List Text}
    (hsaved : (palette.submit line).1 = .saved text buffer) :
    ∃ payload, (palette.submit line).2.1 = .broadcast (.broadcast payload) := by
  by_cases hline : IsHighlight line
  · rcases hline with ⟨regex, hregex⟩
    exact ⟨_, submit_saved_highlight hsaved hregex⟩
  · exact ⟨_, submit_saved_write hsaved hline⟩

end Palette
end LinePalette
