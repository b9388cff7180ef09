import LinePalette.Host.Session
import LinePalette.Proofs.Text.Blanks
import LinePalette.Proofs.Text.Encoding

/-!
# Lines of input

How input falls into chunks, one for each line.  Input that stops at the end of a
line can be taken on its own: whatever comes behind it falls into chunks as it
would alone.  A newline ends a chunk and is left out of its line.
-/

namespace LinePalette
namespace Host

def EndsLine (input : Bytes) : Prop :=
  input = [] ∨ input.getLast? = some 10

/-- The chunk is one line of the input that it makes up together with the rest. -/
structure IsLine (chunk rest : Bytes) : Prop where
  whole : chunks chunk = [chunk]
  ended : EndsLine chunk ∨ rest = []

/-!
# Ends of lines
-/

theorem EndsLine.tail {byte : UInt8} {input : Bytes} (h : EndsLine (byte :: input)) :
    EndsLine input := by
  cases input with
  | nil => exact Or.inl rfl
  | cons next input =>
      rcases h with h | h
      · cases h
      · rw [List.getLast?_cons_cons] at h
        exact Or.inr h

theorem EndsLine.ne_nil {byte : UInt8} {input : Bytes} (h : EndsLine (byte :: input))
    (hbyte : byte ≠ 10) : input ≠ [] := by
  intro hinput
  subst hinput
  rcases h with h | h
  · cases h
  · exact hbyte (Option.some.inj h)

theorem EndsLine.cons {byte : UInt8} {input : Bytes} (h : EndsLine input)
    (hinput : input ≠ []) : EndsLine (byte :: input) := by
  cases input with
  | nil => exact absurd rfl hinput
  | cons next input =>
      rcases h with h | h
      · cases h
      · right
        rw [List.getLast?_cons_cons]
        exact h

theorem EndsLine.append {front back : Bytes} (hfront : EndsLine front) (hback : EndsLine back) :
    EndsLine (front ++ back) := by
  rcases hback with hback | hback
  · rw [hback, List.append_nil]
    exact hfront
  · right
    rw [List.getLast?_append, hback]
    rfl

/-!
# Chunks
-/

theorem chunks_eq_nil_iff {input : Bytes} : chunks input = [] ↔ input = [] := by
  constructor
  · intro h
    cases input with
    | nil => rfl
    | cons byte input =>
        unfold chunks at h
        split at h
        · cases h
        · split at h
          · cases h
          · cases h
  · intro h
    rw [h]
    rfl

theorem chunks_newline (input : Bytes) : chunks (10 :: input) = [10] :: chunks input := by
  rw [chunks, if_pos rfl]

theorem chunks_cons_of_eq_cons {byte : UInt8} {input chunk : Bytes} {later : List Bytes}
    (hbyte : byte ≠ 10) (h : chunks input = chunk :: later) :
    chunks (byte :: input) = (byte :: chunk) :: later := by
  rw [chunks, if_neg hbyte, h]

theorem chunks_append {front : Bytes} (h : EndsLine front) (back : Bytes) :
    chunks (front ++ back) = chunks front ++ chunks back := by
  induction front with
  | nil => rfl
  | cons byte front ih =>
      by_cases hbyte : byte = 10
      · subst hbyte
        rw [List.cons_append, chunks_newline, chunks_newline, ih h.tail]
        rfl
      · cases hfront : chunks front with
        | nil => exact absurd (chunks_eq_nil_iff.mp hfront) (h.ne_nil hbyte)
        | cons chunk later =>
            have happend : chunks (front ++ back) = chunk :: (later ++ chunks back) := by
              rw [ih h.tail, hfront]
              rfl
            rw [List.cons_append, chunks_cons_of_eq_cons hbyte happend,
              chunks_cons_of_eq_cons hbyte hfront]
            rfl

theorem IsLine.ne_nil {chunk rest : Bytes} (h : IsLine chunk rest) : chunk ≠ [] := by
  intro hchunk
  have hwhole := h.whole
  rw [hchunk] at hwhole
  cases hwhole

theorem chunks_line {front chunk rest : Bytes} (hfront : EndsLine front)
    (hline : IsLine chunk rest) :
    chunks (front ++ chunk ++ rest) = chunks front ++ chunk :: chunks rest := by
  have hback : chunks (chunk ++ rest) = chunk :: chunks rest := by
    rcases hline.ended with hended | hrest
    · rw [chunks_append hended, hline.whole]
      rfl
    · rw [hrest, List.append_nil, hline.whole]
      rfl
  rw [List.append_assoc, chunks_append hfront, hback]

/-!
# Taking input apart

The other way round, every chunk of the input is a line of it.
-/

theorem chunks_eq_cons {input chunk : Bytes} {later : List Bytes}
    (h : chunks input = chunk :: later) :
    ∃ rest, input = chunk ++ rest ∧ chunks rest = later ∧ IsLine chunk rest := by
  induction input generalizing chunk later with
  | nil => cases h
  | cons byte input ih =>
      by_cases hbyte : byte = 10
      · subst hbyte
        rw [chunks_newline] at h
        cases h
        exact ⟨input, rfl, rfl, rfl, Or.inl (Or.inr rfl)⟩
      · cases hinput : chunks input with
        | nil =>
            rw [chunks_eq_nil_iff.mp hinput] at h ⊢
            have hwhole : chunks [byte] = [[byte]] := by
              rw [chunks, if_neg hbyte]
              rfl
            rw [hwhole] at h
            cases h
            exact ⟨[], rfl, rfl, hwhole, Or.inr rfl⟩
        | cons first more =>
            rw [chunks_cons_of_eq_cons hbyte hinput] at h
            cases h
            rcases ih hinput with ⟨rest, hsplit, hrest, hline⟩
            refine ⟨rest, ?_, hrest, chunks_cons_of_eq_cons hbyte hline.whole, ?_⟩
            · rw [hsplit]
              rfl
            · rcases hline.ended with hended | hrest
              · exact Or.inl (hended.cons hline.ne_nil)
              · exact Or.inr hrest

theorem chunks_eq_append_cons {input chunk : Bytes} {before later : List Bytes}
    (h : chunks input = before ++ chunk :: later) :
    ∃ front rest,
      input = front ++ chunk ++ rest ∧ chunks front = before ∧ EndsLine front ∧
      IsLine chunk rest := by
  induction before generalizing input with
  | nil =>
      rcases chunks_eq_cons h with ⟨rest, hsplit, _, hline⟩
      exact ⟨[], rest, hsplit, rfl, Or.inl rfl, hline⟩
  | cons first before ih =>
      rcases chunks_eq_cons h with ⟨back, hsplit, hback, hfirst⟩
      rcases ih hback with ⟨front, rest, hrest, hfront, hends, hline⟩
      -- the first line is not the last, so it ends with a newline
      have hended : EndsLine first := by
        rcases hfirst.ended with hended | hempty
        · exact hended
        · rw [hempty] at hback
          cases before with
          | nil => cases hback
          | cons second before => cases hback
      refine ⟨first ++ front, rest, ?_, ?_, hended.append hends, hline⟩
      · rw [hsplit, hrest]
        simp only [List.append_assoc]
      · rw [chunks_append hended, hfirst.whole, hfront]
        rfl

/-!
# Newlines

A chunk holds a newline only at its end, where it does not become a part of the
line.
-/

theorem newline_not_mem_dropLast {input chunk : Bytes} (h : chunk ∈ chunks input) :
    10 ∉ chunk.dropLast := by
  induction input generalizing chunk with
  | nil => cases h
  | cons byte input ih =>
      by_cases hbyte : byte = 10
      · subst hbyte
        rw [chunks_newline] at h
        rcases List.mem_cons.mp h with rfl | hlater
        · exact List.not_mem_nil
        · exact ih hlater
      · cases hinput : chunks input with
        | nil =>
            rw [chunks, if_neg hbyte, hinput, List.mem_singleton] at h
            rw [h]
            exact List.not_mem_nil
        | cons first later =>
            rw [hinput] at ih
            rw [chunks_cons_of_eq_cons hbyte hinput] at h
            rcases List.mem_cons.mp h with rfl | hlater
            · intro hmem
              cases first with
              | nil => cases hmem
              | cons next rest =>
                  rw [List.dropLast_cons_of_ne_nil (List.cons_ne_nil next rest)] at hmem
                  rcases List.mem_cons.mp hmem with hfirst | hrest
                  · exact hbyte hfirst.symm
                  · exact ih List.mem_cons_self hrest
            · exact ih (List.mem_cons_of_mem first hlater)

theorem newline_not_mem_line {input chunk : Bytes} {line : Text} (h : chunk ∈ chunks input)
    (hline : lineOf? chunk = some line) : '\n' ∉ line := by
  intro hmem
  rcases Option.map_eq_some_iff.mp hline with ⟨text, htext, rfl⟩
  rcases Text.trimEndWhile_prefixOf isLineEnding text with ⟨tail, htail⟩
  rcases List.append_of_mem hmem with ⟨before, behind, hsplit⟩
  have hbehind : behind ++ tail ≠ [] := by
    intro hempty
    rw [(List.append_eq_nil_iff.mp hempty).left] at hsplit
    have hlast : (Text.trimEndWhile isLineEnding text).getLast? = some '\n' := by
      rw [hsplit, List.getLast?_concat]
    exact absurd (Text.getLast_trimEndWhile hlast) (by decide)
  have hbytes : chunk = Utf8.encode before ++ 10 :: Utf8.encode (behind ++ tail) := by
    rw [← Utf8.encode_of_decode? htext, ← htail, hsplit, List.append_assoc, Utf8.encode_append]
    rfl
  have hdrop : 10 ∈ chunk.dropLast := by
    rw [hbytes, List.dropLast_append_of_ne_nil (List.cons_ne_nil _ _),
      List.dropLast_cons_of_ne_nil (Utf8.encode_ne_nil hbehind)]
    exact List.mem_append_right _ List.mem_cons_self
  exact newline_not_mem_dropLast h hdrop

end Host
end LinePalette
