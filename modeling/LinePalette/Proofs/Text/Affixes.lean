import LinePalette.Text.Basic

/-!
# Affixes

A lead or a tail is taken off a text just when the text is put together from it.
-/

namespace LinePalette
namespace Text

theorem stripLeading?_eq_some_iff {lead text rest : Text} :
    stripLeading? lead text = some rest ↔ text = lead ++ rest := by
  induction lead generalizing text with
  | nil =>
      simp only [stripLeading?, Option.some.injEq, List.nil_append]
  | cons l lead ih =>
      cases text with
      | nil => simp [stripLeading?]
      | cons c later =>
          simp only [stripLeading?, List.cons_append, List.cons.injEq]
          split
          · next hsame => simp [hsame, ih]
          · next hother => simp [Ne.symm hother]

theorem stripTrailing?_eq_some_iff {tail text front : Text} :
    stripTrailing? tail text = some front ↔ text = front ++ tail := by
  unfold stripTrailing?
  constructor
  · intro h
    rcases Option.map_eq_some_iff.mp h with ⟨rest, hrest, rfl⟩
    have hreverse := stripLeading?_eq_some_iff.mp hrest
    have htext := congrArg List.reverse hreverse
    simpa using htext
  · intro h
    have hreverse : text.reverse = tail.reverse ++ front.reverse := by
      rw [h, List.reverse_append]
    rw [stripLeading?_eq_some_iff.mpr hreverse]
    simp

end Text
end LinePalette
