import LinePalette.Proofs.Palette.Tags

/-!
# Written markup

Written markup is the escaped lines with a break between each two.  Angle brackets stand
in the breaks only, and ampersands only at the start of entities, so the breaks are the
only tags whatever the lines hold, and the lines are found again by splitting at the
breaks and decoding.
-/

namespace LinePalette
namespace Markup

variable {front back text : Text} {pieces lines : List Text}

/-!
# Ampersands
-/

/-- Each ampersand of the text is the first character of one of the three written entities. -/
def Escaped (text : Text) : Prop :=
  ∀ front back, text = front ++ '&' :: back ->
    "&amp;".toList <+: '&' :: back ∨ "&lt;".toList <+: '&' :: back ∨
      "&gt;".toList <+: '&' :: back

theorem escaped_of_not_mem (h : '&' ∉ text) : Escaped text := by
  intro front back htext
  rw [htext] at h
  exact absurd (List.mem_append_right front List.mem_cons_self) h

theorem Escaped.append (hfront : Escaped front) (hback : Escaped back) :
    Escaped (front ++ back) := by
  intro before after htext
  rcases List.append_eq_append_iff.mp htext with ⟨middle, _, hmiddle⟩ | ⟨middle, hmiddle, hafter⟩
  · exact hback middle after hmiddle
  · cases middle with
    | nil => exact hback [] after hafter.symm
    | cons first middle =>
        cases hafter
        -- the entity lies in the front part, so what is behind it does not matter
        have hlonger : '&' :: middle <+: '&' :: (middle ++ back) :=
          List.prefix_append ('&' :: middle) back
        rcases hfront before middle hmiddle with hentity | hentity | hentity
        · exact Or.inl (hentity.trans hlonger)
        · exact Or.inr (Or.inl (hentity.trans hlonger))
        · exact Or.inr (Or.inr (hentity.trans hlonger))

theorem escaped_entity {later : Text} (hlater : '&' ∉ later)
    (hentity : "&amp;".toList <+: '&' :: later ∨ "&lt;".toList <+: '&' :: later ∨
      "&gt;".toList <+: '&' :: later) : Escaped ('&' :: later) := by
  intro front back htext
  cases front with
  | nil =>
      cases htext
      exact hentity
  | cons first front =>
      rw [(List.cons.inj htext).right] at hlater
      exact absurd (List.mem_append_right front List.mem_cons_self) hlater

theorem escaped_escapeChar (c : Char) : Escaped (escapeChar c) := by
  rcases escapeChar_cases c with
    ⟨_, hself⟩ | ⟨_, hself⟩ | ⟨_, hself⟩ | ⟨hamp, _, _, hself⟩
  · rw [hself]
    exact escaped_entity (by decide) (by decide)
  · rw [hself]
    exact escaped_entity (by decide) (by decide)
  · rw [hself]
    exact escaped_entity (by decide) (by decide)
  · rw [hself]
    exact escaped_of_not_mem fun hmem => hamp (List.mem_singleton.mp hmem).symm

theorem escaped_escape (text : Text) : Escaped (escape text) := by
  induction text with
  | nil => exact escaped_of_not_mem List.not_mem_nil
  | cons c later ih => exact (escaped_escapeChar c).append ih

theorem escaped_ofLines (lines : List Text) : Escaped (ofLines lines) := by
  unfold ofLines
  induction lines with
  | nil => exact escaped_of_not_mem List.not_mem_nil
  | cons line later ih =>
      rw [List.map_cons]
      by_cases hmore : later.map escape = []
      · rw [hmore]
        exact escaped_escape line
      · rw [Text.join_cons _ _ hmore]
        have hbreak : Escaped lineBreak := escaped_of_not_mem (by decide)
        exact ((escaped_escape line).append hbreak).append ih

/-!
# Breaks
-/

theorem splitAround_ofLines (h : lines ≠ []) :
    Text.splitAround lineBreak (ofLines lines) = lines.map escape := by
  have hpieces : lines.map escape ≠ [] := fun hnil => h (List.map_eq_nil_iff.mp hnil)
  exact Text.splitAround_join _ hpieces fun _ => not_mem_of_mem_map_escape (Or.inl rfl)

theorem map_decodeEntities_splitAround (h : lines ≠ []) :
    (Text.splitAround lineBreak (ofLines lines)).map decodeEntities = lines := by
  rw [splitAround_ofLines h, List.map_map]
  exact List.map_id'' decodeEntities_escape lines

theorem count_ofLines {bracket : Char} (h : bracket = '<' ∨ bracket = '>') (lines : List Text) :
    (ofLines lines).count bracket = lines.length - 1 := by
  have hbreak : lineBreak.count bracket = 1 := by
    rcases h with rfl | rfl <;> decide
  have hpieces : ∀ piece ∈ lines.map escape, bracket ∉ piece :=
    fun _ => not_mem_of_mem_map_escape h
  unfold ofLines
  rw [Text.count_join hpieces, hbreak, List.length_map, Nat.mul_one]

theorem scanned_join (h : ∀ piece ∈ pieces, '<' ∉ piece) :
    Scanned (Text.join lineBreak pieces) (List.replicate (pieces.length - 1) "br".toList) := by
  induction pieces with
  | nil => exact .nil
  | cons first later ih =>
      rcases List.forall_mem_cons.mp h with ⟨hfirst, hlater⟩
      cases later with
      | nil => exact scanned_of_not_mem hfirst
      | cons next later =>
          have hbreak : Scanned lineBreak ["br".toList] :=
            @Scanned.tag "br".toList [] [] (by decide) .nil
          rw [Text.join_cons _ _ (List.cons_ne_nil next later)]
          exact ((scanned_of_not_mem hfirst).append hbreak).append (ih hlater)

/--
Lines written as markup are found again by splitting it at its breaks and decoding the
entities of the pieces.  No piece holds an angle bracket, and there is one break less than
there are lines; every ampersand starts one of the three entities that are written.  The
tags that are seen in the markup are the breaks alone, and no other lines are written in
the same way.
-/
theorem written_lines_split_at_breaks (h : lines ≠ []) :
    let markup := ofLines lines
    let pieces := Text.splitAround lineBreak markup
    pieces.map decodeEntities = lines ∧
      Text.join lineBreak pieces = markup ∧
      (∀ piece ∈ pieces, '<' ∉ piece ∧ '>' ∉ piece) ∧
      markup.count '<' = lines.length - 1 ∧ markup.count '>' = lines.length - 1 ∧
      Escaped markup ∧
      (∀ tags, Scanned markup tags ↔ tags = List.replicate (lines.length - 1) "br".toList) ∧
      ∀ other, other ≠ [] -> ofLines other = markup -> other = lines := by
  intro markup pieces
  have hpieces : pieces = lines.map escape := splitAround_ofLines h
  have hscanned : Scanned markup (List.replicate (lines.length - 1) "br".toList) := by
    have hjoined := scanned_join fun _ => @not_mem_of_mem_map_escape '<' lines _ (Or.inl rfl)
    rwa [List.length_map] at hjoined
  refine ⟨map_decodeEntities_splitAround h, Text.join_splitAround (by decide) markup, ?_,
    count_ofLines (Or.inl rfl) lines, count_ofLines (Or.inr rfl) lines, escaped_ofLines lines,
    ?_, ?_⟩
  · intro piece hpiece
    rw [hpieces] at hpiece
    exact ⟨not_mem_of_mem_map_escape (Or.inl rfl) hpiece,
      not_mem_of_mem_map_escape (Or.inr rfl) hpiece⟩
  · intro tags
    constructor
    · intro htags
      exact htags.unique hscanned
    · rintro rfl
      exact hscanned
  · intro other hother hmarkup
    rw [← map_decodeEntities_splitAround hother, hmarkup]
    exact map_decodeEntities_splitAround h

theorem written_lines_split_at_breaks_spelled :
    let lines := ["a<br>b".toList, "&lt;".toList, []]
    lines ≠ [] ∧ ofLines lines = "a&lt;br&gt;b<br>&amp;lt;<br>".toList ∧
      (Text.splitAround lineBreak (ofLines lines)).map decodeEntities = lines ∧
      Scanned (ofLines lines) ["br".toList, "br".toList] ∧
      (∀ other, other ≠ [] -> ofLines other = ofLines lines -> other = lines) := by
  intro lines
  have hlines : lines ≠ [] := List.cons_ne_nil _ _
  rcases written_lines_split_at_breaks hlines with ⟨hsplit, _, _, _, _, _, htags, hother⟩
  exact ⟨hlines, by decide, hsplit, (htags _).mpr rfl, hother⟩

end Markup
end LinePalette
