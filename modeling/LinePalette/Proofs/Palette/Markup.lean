import LinePalette.Palette.Source
import LinePalette.Proofs.Text.Blanks

/-!
# Reading written markup

Lines that are written as markup are seen again by a reader of it, up to the blanks
around the whole text.  Escaping leaves no opening angle bracket in a line, so the
only tags are the breaks between lines, and every ampersand that is written leads
an entity.
-/

namespace LinePalette
namespace Markup

variable {c : Char} {text : Text}

/-!
# Entities
-/

theorem head_of_mem_entities : ∀ entry ∈ entities, entry.1.head? = some '&' := by
  decide

theorem leadingEntity?_of_ne (h : c ≠ '&') (rest : Text) : leadingEntity? (c :: rest) = none := by
  unfold leadingEntity?
  rw [List.findSome?_eq_none_iff]
  intro entry hentry
  have hhead := head_of_mem_entities entry hentry
  rcases entry with ⟨entity, decoded⟩
  cases entity with
  | nil => cases hhead
  | cons first later =>
      cases Option.some.inj hhead
      simp [List.isPrefixOf, Ne.symm h]

theorem decodeFrom_plain (h : c ≠ '&') (rest : Text) :
    decodeFrom 0 (c :: rest) = c :: decodeFrom 0 rest := by
  rw [decodeFrom, leadingEntity?_of_ne h]

theorem escapeChar_cases (c : Char) :
    (c = '&' ∧ escapeChar c = "&amp;".toList) ∨ (c = '<' ∧ escapeChar c = "&lt;".toList) ∨
      (c = '>' ∧ escapeChar c = "&gt;".toList) ∨
      (c ≠ '&' ∧ c ≠ '<' ∧ c ≠ '>' ∧ escapeChar c = [c]) := by
  by_cases hamp : c = '&'
  · exact Or.inl ⟨hamp, if_pos hamp⟩
  · by_cases hopen : c = '<'
    · subst hopen
      exact Or.inr (Or.inl ⟨rfl, rfl⟩)
    · by_cases hclose : c = '>'
      · subst hclose
        exact Or.inr (Or.inr (Or.inl ⟨rfl, rfl⟩))
      · have hself : escapeChar c = [c] := by
          rw [escapeChar, if_neg hamp, if_neg hopen, if_neg hclose]
        exact Or.inr (Or.inr (Or.inr ⟨hamp, hopen, hclose, hself⟩))

theorem decodeFrom_escapeChar (c : Char) (rest : Text) :
    decodeFrom 0 (escapeChar c ++ rest) = c :: decodeFrom 0 rest := by
  rcases escapeChar_cases c with
    ⟨rfl, _⟩ | ⟨rfl, _⟩ | ⟨rfl, _⟩ | ⟨hamp, _, _, hself⟩
  · rfl
  · rfl
  · rfl
  · rw [hself]
    exact decodeFrom_plain hamp rest

theorem decodeEntities_escape (text : Text) : decodeEntities (escape text) = text := by
  unfold decodeEntities escape
  induction text with
  | nil => rfl
  | cons c rest ih => rw [List.flatMap_cons, decodeFrom_escapeChar, ih]

/-!
# Tags
-/

theorem not_mem_escapeChar {bracket : Char} (h : bracket = '<' ∨ bracket = '>') (c : Char) :
    bracket ∉ escapeChar c := by
  rcases escapeChar_cases c with
    ⟨rfl, _⟩ | ⟨rfl, _⟩ | ⟨rfl, _⟩ | ⟨_, hopen, hclose, hself⟩
  · rcases h with rfl | rfl <;> decide
  · rcases h with rfl | rfl <;> decide
  · rcases h with rfl | rfl <;> decide
  · rw [hself, List.mem_singleton]
    rcases h with rfl | rfl
    · exact Ne.symm hopen
    · exact Ne.symm hclose

theorem not_mem_escape {bracket : Char} (h : bracket = '<' ∨ bracket = '>') (text : Text) :
    bracket ∉ escape text := by
  intro hmem
  rcases List.mem_flatMap.mp hmem with ⟨c, _, hc⟩
  exact not_mem_escapeChar h c hc

theorem not_mem_of_mem_map_escape {bracket : Char} {lines : List Text} {piece : Text}
    (h : bracket = '<' ∨ bracket = '>') (hpiece : piece ∈ lines.map escape) :
    bracket ∉ piece := by
  rcases List.mem_map.mp hpiece with ⟨line, _, rfl⟩
  exact not_mem_escape h line

theorem stripFrom_plain (h : '<' ∉ text) (rest : Text) :
    stripFrom 0 (text ++ rest) = text ++ stripFrom 0 rest := by
  induction text with
  | nil => rfl
  | cons c later ih =>
      have hc := List.ne_of_not_mem_cons h
      have hlater := List.not_mem_of_not_mem_cons h
      rw [List.cons_append, stripFrom, if_neg (Ne.symm hc), ih hlater]
      rfl

theorem stripFrom_lineBreak (rest : Text) :
    stripFrom 0 (lineBreak ++ rest) = '\n' :: stripFrom 0 rest := rfl

theorem stripTags_join {pieces : List Text} (h : ∀ piece ∈ pieces, '<' ∉ piece) :
    stripTags (Text.join lineBreak pieces) = Text.join ['\n'] pieces := by
  unfold stripTags
  induction pieces with
  | nil => rfl
  | cons first later ih =>
      rcases List.forall_mem_cons.mp h with ⟨hfirst, hlater⟩
      by_cases hmore : later = []
      · have hwhole := stripFrom_plain hfirst []
        rw [List.append_nil] at hwhole
        rw [hmore]
        show stripFrom 0 first = first
        rw [hwhole]
        exact List.append_nil first
      · rw [Text.join_cons _ _ hmore, Text.join_cons _ _ hmore, List.append_assoc,
          stripFrom_plain hfirst, stripFrom_lineBreak, ih hlater, List.append_assoc]
        rfl

/-!
# Lines
-/

theorem escape_join (lines : List Text) :
    escape (Text.join ['\n'] lines) = Text.join ['\n'] (lines.map escape) := by
  induction lines with
  | nil => rfl
  | cons line later ih =>
      by_cases hmore : later = []
      · rw [hmore]
        rfl
      · have hmapped : later.map escape ≠ [] := by
          intro hempty
          exact hmore (List.map_eq_nil_iff.mp hempty)
        rw [List.map_cons, Text.join_cons _ _ hmore, Text.join_cons _ _ hmapped, ← ih]
        unfold escape
        rw [List.flatMap_append, List.flatMap_append]
        rfl

theorem toLines_ofLines (lines : List Text) :
    toLines (ofLines lines) = Text.splitOn '\n' (Text.trim (Text.join ['\n'] lines)) := by
  have hpieces : ∀ piece ∈ lines.map escape, '<' ∉ piece :=
    fun _ hpiece => not_mem_of_mem_map_escape (Or.inl rfl) hpiece
  unfold toLines ofLines
  rw [stripTags_join hpieces, ← escape_join, decodeEntities_escape]

theorem toLines_ofLines_toLines (markup : Text) :
    toLines (ofLines (toLines markup)) = toLines markup := by
  rw [toLines_ofLines]
  unfold toLines
  rw [Text.join_splitOn, Text.trim_trim]

end Markup
end LinePalette
