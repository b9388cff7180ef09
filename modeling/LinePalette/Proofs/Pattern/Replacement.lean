import LinePalette.Pattern.Template

/-!
# What replacements are made of

A replaced line holds only characters of the line before and of the template.  What
a piece of a template stands for is taken from the line, unless it is a character
of the template itself.
-/

namespace LinePalette

variable {line template : Text} {c : Char}

theorem Text.mem_of_mem_slice {start stop : Nat} (h : c ∈ slice start stop line) : c ∈ line :=
  List.mem_of_mem_drop (List.mem_of_mem_take h)

/-!
# Pieces
-/

namespace Template

theorem groupReference?_ne_literal {count used : Nat} {first : Char} {rest : Text} :
    groupReference? count first rest ≠ some (.literal c, used) := by
  have hsingle : ∀ one : Nat,
      (if 1 ≤ one ∧ one < count then some (Piece.group one, 1) else none) ≠
        some (.literal c, used) := by
    intro one h
    split at h
    · cases h
    · cases h
  unfold groupReference?
  cases rest with
  | nil => exact hsingle (digitValue first)
  | cons second later =>
      intro h
      simp only at h
      split at h
      · cases h
      · exact hsingle (digitValue first) h

theorem literal_mem_of_reference? {count used : Nat} {text : Text}
    (h : reference? count text = some (.literal c, used)) : c ∈ text := by
  unfold reference? at h
  split at h
  · cases h
  · next first rest =>
      split at h
      · next hdollar =>
          cases h
          rw [hdollar]
          exact List.mem_cons_self
      -- No other sign behind a dollar stands for a character.
      split at h
      · cases h
      split at h
      · cases h
      split at h
      · cases h
      split at h
      · exact absurd h groupReference?_ne_literal
      · cases h

theorem literal_mem_of_piecesFrom {count skip : Nat}
    (h : .literal c ∈ piecesFrom count skip template) : c ∈ template := by
  induction template generalizing skip with
  | nil => cases h
  | cons first rest ih =>
      cases skip with
      | succ skip => exact List.mem_cons_of_mem first (ih h)
      | zero =>
          have hplain : Piece.literal c ∈ .literal first :: piecesFrom count 0 rest ->
              c ∈ first :: rest := by
            intro hmem
            rcases List.mem_cons.mp hmem with hsame | hlater
            · cases hsame
              exact List.mem_cons_self
            · exact List.mem_cons_of_mem first (ih hlater)
          rw [piecesFrom] at h
          split at h
          · split at h
            · next piece used hreference =>
                rcases List.mem_cons.mp h with rfl | hlater
                · exact List.mem_cons_of_mem first (literal_mem_of_reference? hreference)
                · exact List.mem_cons_of_mem first (ih hlater)
            · exact hplain h
          · exact hplain h

/-!
# Filling in
-/

theorem mem_of_mem_fill {found : Match} {piece : Piece} (h : c ∈ piece.fill line found) :
    piece = .literal c ∨ c ∈ line := by
  cases piece with
  | literal other =>
      left
      rw [List.mem_singleton.mp h]
  | before => exact Or.inr (List.mem_of_mem_take h)
  | after => exact Or.inr (List.mem_of_mem_drop h)
  | group number =>
      right
      simp only [Piece.fill] at h
      split at h
      · exact Text.mem_of_mem_slice h
      · cases h

theorem mem_of_mem_expand {found : Match} (h : c ∈ expand template line found) :
    c ∈ line ∨ c ∈ template := by
  rcases List.mem_flatMap.mp h with ⟨piece, hpiece, hfill⟩
  rcases mem_of_mem_fill hfill with rfl | hline
  · exact Or.inr (literal_mem_of_piecesFrom hpiece)
  · exact Or.inl hline

theorem mem_of_mem_splice {replacement : Match -> Text} {position : Nat} {found : List Match}
    (h : c ∈ splice line replacement position found) :
    c ∈ line ∨ ∃ one ∈ found, c ∈ replacement one := by
  induction found generalizing position with
  | nil => exact Or.inl (List.mem_of_mem_drop h)
  | cons one later ih =>
      rw [splice] at h
      rcases List.mem_append.mp h with hfront | hlater
      · rcases List.mem_append.mp hfront with hkept | hone
        · exact Or.inl (Text.mem_of_mem_slice hkept)
        · exact Or.inr ⟨one, List.mem_cons_self, hone⟩
      · rcases ih hlater with hline | ⟨other, hother, hmem⟩
        · exact Or.inl hline
        · exact Or.inr ⟨other, List.mem_cons_of_mem one hother, hmem⟩

end Template

theorem Pattern.mem_of_mem_replace {pattern : Pattern} {everywhere : Bool}
    (h : c ∈ pattern.replace line template everywhere) : c ∈ line ∨ c ∈ template := by
  rcases Template.mem_of_mem_splice h with hline | ⟨found, _, hfound⟩
  · exact Or.inl hline
  · exact Template.mem_of_mem_expand hfound

end LinePalette
