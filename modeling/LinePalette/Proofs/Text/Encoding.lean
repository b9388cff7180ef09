import LinePalette.Text.Utf8

/-!
# Encoding and decoding

A text is read back from its encoding.  The encoding of a character never starts
the encoding of another one, so the decoder, which stops at the first run of bytes
that spells a character, stops where the encoder did.
-/

namespace LinePalette
namespace Utf8

/-!
# Single characters
-/

theorem payload_utf8EncodeChar (c : Char) : payload (String.utf8EncodeChar c) = c.toNat := by
  have hsmall : c.val.toNat < 0x110000 := by
    rcases c.valid with hlow | ⟨_, hhigh⟩
    · omega
    · exact hhigh
  show _ = c.val.toNat
  simp only [String.utf8EncodeChar]
  split
  · simp only [payload, UInt8.toNat_ofNat']
    omega
  · split
    · simp only [payload, UInt8.toNat_ofNat']
      omega
    · split
      · simp only [payload, UInt8.toNat_ofNat']
        omega
      · simp only [payload, UInt8.toNat_ofNat']
        omega

theorem charOf?_utf8EncodeChar (c : Char) : charOf? (String.utf8EncodeChar c) = some c := by
  unfold charOf?
  rw [payload_utf8EncodeChar, Char.ofNat_toNat, if_pos rfl]

/-- Two characters are the same when the encoding of one starts with that of the other. -/
theorem eq_of_utf8EncodeChar_append {c other : Char} {more : Bytes}
    (h : String.utf8EncodeChar c ++ more = String.utf8EncodeChar other) : c = other := by
  have hfirst : ((String.utf8EncodeChar c).toByteArray ++
      more.toByteArray).utf8DecodeChar? 0 = some c :=
    ByteArray.utf8DecodeChar?_utf8EncodeChar_append
  have hwhole : ((String.utf8EncodeChar other).toByteArray ++
      ([] : Bytes).toByteArray).utf8DecodeChar? 0 = some other :=
    ByteArray.utf8DecodeChar?_utf8EncodeChar_append
  rw [← List.toByteArray_append] at hfirst hwhole
  rw [h] at hfirst
  rw [List.append_nil, hfirst] at hwhole
  exact Option.some.inj hwhole

theorem charOf?_eq_none_of_unfinished {c : Char} {pending more : Bytes}
    (h : pending ++ more = String.utf8EncodeChar c) (hmore : more ≠ []) :
    charOf? pending = none := by
  cases hspelled : charOf? pending with
  | none => rfl
  | some other =>
      rw [← encode_of_charOf? hspelled] at h
      have hsame := eq_of_utf8EncodeChar_append h
      rw [hsame] at h
      exact absurd (List.append_right_eq_self.mp h) hmore

/-!
# Texts
-/

theorem decodeFrom_append {c : Char} {pending more : Bytes}
    (h : pending ++ more = String.utf8EncodeChar c) (hmore : more ≠ []) (rest : Bytes) :
    decodeFrom pending (more ++ rest) = (decodeFrom [] rest).map (c :: ·) := by
  induction more generalizing pending with
  | nil => exact absurd rfl hmore
  | cons byte later ih =>
      have hgathered : (pending ++ [byte]) ++ later = String.utf8EncodeChar c := by
        rw [← h]
        simp
      rw [List.cons_append, decodeFrom]
      cases later with
      | nil =>
          rw [List.append_nil] at hgathered
          simp only [hgathered, charOf?_utf8EncodeChar, List.nil_append]
      | cons next last =>
          -- the character is longer than what has been gathered, so reading goes on
          have hlength : (pending ++ [byte]).length < 4 := by
            have hsize := Char.utf8Size_le_four c
            rw [← String.length_utf8EncodeChar, ← hgathered, List.length_append,
              List.length_cons] at hsize
            omega
          simp only [charOf?_eq_none_of_unfinished hgathered (List.cons_ne_nil _ _),
            if_pos hlength]
          exact ih hgathered (List.cons_ne_nil _ _)

theorem encode_append (left right : Text) :
    encode (left ++ right) = encode left ++ encode right :=
  List.flatMap_append

theorem encode_ne_nil {text : Text} (h : text ≠ []) : encode text ≠ [] := by
  cases text with
  | nil => exact absurd rfl h
  | cons c rest =>
      intro hempty
      exact String.utf8EncodeChar_ne_nil (List.append_eq_nil_iff.mp hempty).left

theorem decode?_encode (text : Text) : decode? (encode text) = some text := by
  unfold decode? encode
  induction text with
  | nil => rfl
  | cons c rest ih =>
      rw [List.flatMap_cons,
        decodeFrom_append (List.nil_append _) String.utf8EncodeChar_ne_nil, ih]
      rfl

theorem decode?_eq_some_iff {bytes : Bytes} {text : Text} :
    decode? bytes = some text ↔ bytes = encode text := by
  constructor
  · intro h
    exact (encode_of_decode? h).symm
  · intro h
    rw [h]
    exact decode?_encode text

/-!
# Characters of one byte

A byte that is a character by itself is a part of no other character, so it may be
taken off the end of an encoding.
-/

theorem utf8EncodeChar_ascii {c : Char} (h : c.toNat < 128) :
    String.utf8EncodeChar c = [UInt8.ofNat c.toNat] := by
  unfold String.utf8EncodeChar
  exact if_pos (Nat.le_of_lt_succ h)

theorem encode_ascii {c : Char} (h : c.toNat < 128) : encode [c] = [UInt8.ofNat c.toNat] := by
  show String.utf8EncodeChar c ++ [] = _
  rw [List.append_nil, utf8EncodeChar_ascii h]

theorem not_ascii_of_mem {c : Char} (hc : 128 ≤ c.toNat) :
    ∀ byte ∈ String.utf8EncodeChar c, 128 ≤ byte.toNat := by
  have hlong : ¬c.val.toNat ≤ 127 := Nat.not_le.mpr hc
  have hnil : ∀ byte ∈ ([] : Bytes), 128 ≤ byte.toNat := List.forall_mem_nil _
  simp only [String.utf8EncodeChar, if_neg hlong]
  split
  · simp only [List.forall_mem_cons, UInt8.toNat_ofNat', iff_true_intro hnil, and_true]
    omega
  · split
    · simp only [List.forall_mem_cons, UInt8.toNat_ofNat', iff_true_intro hnil, and_true]
      omega
    · simp only [List.forall_mem_cons, UInt8.toNat_ofNat', iff_true_intro hnil, and_true]
      omega

theorem lead_of_not_ascii {c : Char} {lead : UInt8} {more : Bytes} (hc : 128 ≤ c.toNat)
    (h : String.utf8EncodeChar c = lead :: more) : 128 ≤ lead.toNat := by
  apply not_ascii_of_mem hc
  rw [h]
  exact List.mem_cons_self

theorem exists_text_of_concat {bytes : Bytes} {c : Char} {whole : Text} (hc : c.toNat < 128)
    (h : encode whole = bytes ++ [UInt8.ofNat c.toNat]) : ∃ text, bytes = encode text := by
  rcases List.eq_nil_or_concat whole with rfl | ⟨text, last, rfl⟩
  · exact absurd h.symm (List.concat_ne_nil _ _)
  · rw [List.concat_eq_append, encode_append] at h
    by_cases hlast : last.toNat < 128
    · rw [encode_ascii hlast] at h
      exact ⟨text, (List.append_inj_left' h rfl).symm⟩
    · -- the byte would be the last one of a longer character
      have hbyte : [UInt8.ofNat c.toNat] <:+ encode [last] := by
        apply List.suffix_of_suffix_length_le (List.suffix_append bytes _)
        · rw [← h]
          exact List.suffix_append _ _
        · exact List.length_pos_iff.mpr (encode_ne_nil (List.cons_ne_nil last []))
      have hmem : UInt8.ofNat c.toNat ∈ String.utf8EncodeChar last ++ [] :=
        hbyte.mem (List.mem_singleton_self _)
      rw [List.append_nil] at hmem
      have hlong := not_ascii_of_mem (Nat.not_lt.mp hlast) _ hmem
      rw [UInt8.toNat_ofNat'] at hlong
      omega

/-- A character of one byte behind some bytes is read by itself. -/
theorem decode?_concat (bytes : Bytes) {c : Char} (hc : c.toNat < 128) :
    decode? (bytes ++ [UInt8.ofNat c.toNat]) = (decode? bytes).map (· ++ [c]) := by
  cases hbytes : decode? bytes with
  | some text =>
      rw [Option.map_some, decode?_eq_some_iff, encode_append, encode_ascii hc,
        decode?_eq_some_iff.mp hbytes]
  | none =>
      rw [Option.map_none]
      apply Option.eq_none_iff_forall_not_mem.mpr
      intro whole hwhole
      rcases exists_text_of_concat hc (decode?_eq_some_iff.mp hwhole).symm with ⟨text, htext⟩
      rw [decode?_eq_some_iff.mpr htext] at hbytes
      cases hbytes

end Utf8
end LinePalette
