import LinePalette.Proofs.Text.Encoding

/-!
# Byte offsets

A text may be cut at the byte offset of any of its characters, and at its end.  The
offset behind some characters is their byte size, so cutting there gives them back.
-/

namespace LinePalette
namespace Text

variable {text : Text} {start stop : Nat}

/-!
# Cutting
-/

/-- The offset where a character starts, or where the text ends. -/
def IsBoundary (text : Text) (offset : Nat) : Prop := byteSize (takeBytes offset text) = offset

instance (text : Text) (offset : Nat) : Decidable (IsBoundary text offset) :=
  inferInstanceAs (Decidable (byteSize (takeBytes offset text) = offset))

/-- The text between two byte offsets; nothing is given for an offset inside a character. -/
def sliceBytes? (start stop : Nat) (text : Text) : Option Text :=
  if start ≤ stop ∧ IsBoundary text start ∧ IsBoundary text stop then
    some (sliceBytes start stop text)
  else
    none

theorem takeBytes_byteSize (front back : Text) :
    takeBytes (byteSize front) (front ++ back) = front := by
  induction front with
  | nil =>
      cases back with
      | nil => rfl
      | cons c rest => exact if_neg (Nat.not_le.mpr c.utf8Size_pos)
  | cons c rest ih =>
      rw [byteSize, List.cons_append, takeBytes, if_pos (Nat.le_add_right _ _),
        Nat.add_sub_cancel_left, ih]

theorem dropBytes_byteSize (front back : Text) :
    dropBytes (byteSize front) (front ++ back) = back := by
  have hwhole := takeBytes_append_dropBytes (byteSize front) (front ++ back)
  rw [takeBytes_byteSize] at hwhole
  exact List.append_cancel_left hwhole

theorem isBoundary_byteSize (front back : Text) : IsBoundary (front ++ back) (byteSize front) := by
  unfold IsBoundary
  rw [takeBytes_byteSize]

theorem takeBytes_append_of_le {front : Text} (h : byteSize front ≤ stop) (back : Text) :
    takeBytes stop (front ++ back) = front ++ takeBytes (stop - byteSize front) back := by
  induction front generalizing stop with
  | nil => rfl
  | cons c rest ih =>
      rw [byteSize] at h
      rw [List.cons_append, takeBytes, if_pos (by omega), ih (by omega), byteSize, Nat.sub_sub]
      rfl

theorem takeBytes_takeBytes (h : start ≤ stop) (text : Text) :
    takeBytes start (takeBytes stop text) = takeBytes start text := by
  induction text generalizing start stop with
  | nil => rfl
  | cons c rest ih =>
      by_cases hfits : c.utf8Size ≤ start
      · rw [takeBytes, if_pos (Nat.le_trans hfits h), takeBytes, if_pos hfits, takeBytes,
          if_pos hfits, ih (Nat.sub_le_sub_right h _)]
      · have hnone : ∀ later, takeBytes start (c :: later) = [] := fun _ => if_neg hfits
        rw [hnone, takeBytes]
        split
        · exact hnone _
        · rfl

theorem IsBoundary.divide (hstart : IsBoundary text start) (hstop : IsBoundary text stop)
    (h : start ≤ stop) :
    ∃ front middle back, text = front ++ (middle ++ back) ∧ byteSize front = start ∧
      byteSize front + byteSize middle = stop := by
  unfold IsBoundary at hstart hstop
  refine ⟨takeBytes start text, takeBytes (stop - start) (dropBytes start text),
    dropBytes (stop - start) (dropBytes start text), ?_, hstart, ?_⟩
  · rw [takeBytes_append_dropBytes, takeBytes_append_dropBytes]
  · rw [← takeBytes_append_dropBytes start text,
      takeBytes_append_of_le (Nat.le_trans (Nat.le_of_eq hstart) h), hstart, byteSize_append] at hstop
    exact hstop

theorem IsBoundary.takeBytes {offset : Nat} (hoffset : IsBoundary text offset)
    (h : offset ≤ stop) : IsBoundary (takeBytes stop text) offset := by
  unfold IsBoundary at hoffset ⊢
  rw [takeBytes_takeBytes h, hoffset]

theorem IsBoundary.takeBytes_append {offset : Nat} (hoffset : IsBoundary text offset)
    (back : Text) :
    Text.takeBytes offset (Text.takeBytes offset text ++ back) = Text.takeBytes offset text := by
  have hfront := takeBytes_byteSize (Text.takeBytes offset text) back
  rwa [hoffset] at hfront

theorem IsBoundary.takeBytes_append_of_le {offset : Nat} (hoffset : IsBoundary text offset)
    (h : offset ≤ stop) (back : Text) :
    Text.takeBytes stop (Text.takeBytes offset text ++ back) =
      Text.takeBytes offset text ++ Text.takeBytes (stop - offset) back := by
  have hwhole := Text.takeBytes_append_of_le (Nat.le_trans (Nat.le_of_eq hoffset) h) back
  rwa [hoffset] at hwhole

theorem dropBytes_append (front middle back : Text) :
    dropBytes (byteSize front + byteSize middle) (front ++ (middle ++ back)) = back := by
  rw [← byteSize_append, ← List.append_assoc, dropBytes_byteSize]

theorem sliceBytes_append (front middle back : Text) :
    sliceBytes (byteSize front) (byteSize front + byteSize middle) (front ++ (middle ++ back)) =
      middle := by
  unfold sliceBytes
  rw [dropBytes_byteSize, Nat.add_sub_cancel_left, takeBytes_byteSize]

theorem sliceBytes?_append (front middle back : Text) :
    sliceBytes? (byteSize front) (byteSize front + byteSize middle) (front ++ (middle ++ back)) =
      some middle := by
  have hstop : IsBoundary (front ++ (middle ++ back)) (byteSize front + byteSize middle) := by
    rw [← byteSize_append, ← List.append_assoc]
    exact isBoundary_byteSize (front ++ middle) back
  unfold sliceBytes?
  rw [if_pos ⟨Nat.le_add_right _ _, isBoundary_byteSize front _, hstop⟩, sliceBytes_append]

/-!
# Offsets of positions
-/

theorem take_append_slice (text : Text) (h : start ≤ stop) :
    text.take start ++ slice start stop text = text.take stop := by
  unfold slice
  rw [← List.take_add, Nat.add_sub_cancel' h]

theorem sliceBytes?_byteOffset (text : Text) (h : start ≤ stop) :
    sliceBytes? (byteOffset text start) (byteOffset text stop) text =
      some (slice start stop text) := by
  have hcut := sliceBytes?_append (text.take start) (slice start stop text) (text.drop stop)
  rw [← byteSize_append, ← List.append_assoc, take_append_slice text h,
    List.take_append_drop] at hcut
  exact hcut

theorem isBoundary_byteOffset (text : Text) (position : Nat) :
    IsBoundary text (byteOffset text position) := by
  have hfront := isBoundary_byteSize (text.take position) (text.drop position)
  rw [List.take_append_drop] at hfront
  exact hfront

theorem byteOffset_add (text : Text) (h : start ≤ stop) :
    byteOffset text stop = byteOffset text start + byteSize (slice start stop text) := by
  unfold byteOffset
  rw [← byteSize_append, take_append_slice text h]

theorem byteOffset_mono (text : Text) (h : start ≤ stop) :
    byteOffset text start ≤ byteOffset text stop := by
  rw [byteOffset_add text h]
  exact Nat.le_add_right _ _

theorem byteOffset_le_byteSize (text : Text) (position : Nat) :
    byteOffset text position ≤ byteSize text := by
  have hwhole := byteSize_append (text.take position) (text.drop position)
  rw [List.take_append_drop] at hwhole
  rw [hwhole]
  exact Nat.le_add_right _ _

theorem sliceBytes?_drop (text : Text) (position : Nat) :
    sliceBytes? (byteOffset text position) (byteSize text) text = some (text.drop position) := by
  have hcut := sliceBytes?_append (text.take position) (text.drop position) []
  rw [← byteSize_append, List.append_nil, List.take_append_drop] at hcut
  exact hcut

theorem length_le_byteSize (text : Text) : text.length ≤ byteSize text := by
  induction text with
  | nil => exact Nat.le_refl _
  | cons c rest ih =>
      have hpos := c.utf8Size_pos
      rw [List.length_cons, byteSize]
      omega

theorem byteOffset_lt (h : start < stop) (hstop : stop ≤ text.length) :
    byteOffset text start < byteOffset text stop := by
  have hlength := length_le_byteSize (slice start stop text)
  rw [slice, List.length_take, List.length_drop] at hlength
  rw [byteOffset_add text (Nat.le_of_lt h), slice]
  omega

theorem byteOffset_le_iff (hstart : start ≤ text.length) :
    byteOffset text start ≤ byteOffset text stop ↔ start ≤ stop := by
  constructor
  · intro hoffset
    apply Nat.le_of_not_lt
    intro hbefore
    exact absurd hoffset (Nat.not_le.mpr (byteOffset_lt hbefore hstart))
  · exact byteOffset_mono text

end Text

namespace Utf8

/-!
# Offsets in encodings
-/

theorem length_encode (text : Text) : (encode text).length = Text.byteSize text := by
  unfold encode
  induction text with
  | nil => rfl
  | cons c rest ih =>
      rw [List.flatMap_cons, List.length_append, ih, String.length_utf8EncodeChar, Text.byteSize]

theorem drop_encode (front back : Text) :
    (encode (front ++ back)).drop (Text.byteSize front) = encode back := by
  rw [encode_append, ← length_encode]
  exact List.drop_left

theorem slice_encode (text : Text) {start stop : Nat} (h : start ≤ stop) :
    ((encode text).drop (Text.byteOffset text start)).take
      (Text.byteOffset text stop - Text.byteOffset text start) =
      encode (Text.slice start stop text) := by
  have hback : text.drop start = Text.slice start stop text ++ text.drop stop := by
    unfold Text.slice
    rw [← Nat.add_sub_cancel' h, ← List.drop_drop, Nat.add_sub_cancel_left, List.take_append_drop]
  have hdrop : (encode text).drop (Text.byteOffset text start) = encode (text.drop start) := by
    have hsplit := drop_encode (text.take start) (text.drop start)
    rwa [List.take_append_drop] at hsplit
  rw [hdrop, hback, Text.byteOffset_add text h, Nat.add_sub_cancel_left, encode_append,
    ← length_encode, List.take_left]

def asCharacters (bytes : Bytes) : Text := bytes.map fun byte => Char.ofNat byte.toNat

theorem toNat_ofNat_byte {n : Nat} (h : n < 256) : (Char.ofNat n).toNat = n := by
  have hvalid : n.isValidChar := Or.inl (Nat.lt_trans h (by decide))
  unfold Char.ofNat
  rw [dif_pos hvalid]
  rfl

theorem asCharacters_encode_ascii {c : Char} (h : c.toNat < 128) (rest : Text) :
    asCharacters (encode (c :: rest)) = c :: asCharacters (encode rest) := by
  have hbyte : (UInt8.ofNat c.toNat).toNat = c.toNat := by
    rw [UInt8.toNat_ofNat']
    omega
  show asCharacters (String.utf8EncodeChar c ++ encode rest) = _
  rw [utf8EncodeChar_ascii h]
  unfold asCharacters
  rw [List.map_append, List.map_singleton, hbyte, Char.ofNat_toNat, List.singleton_append]

theorem asCharacters_encode_not_ascii {c : Char} (h : 128 ≤ c.toNat) (rest : Text) :
    ∃ lead more, asCharacters (encode (c :: rest)) = lead :: more ∧ 128 ≤ lead.toNat := by
  cases hbytes : String.utf8EncodeChar c with
  | nil => exact absurd hbytes String.utf8EncodeChar_ne_nil
  | cons lead more =>
      refine ⟨Char.ofNat lead.toNat, asCharacters (more ++ encode rest), ?_, ?_⟩
      · show asCharacters (String.utf8EncodeChar c ++ encode rest) = _
        rw [hbytes]
        rfl
      · rw [toNat_ofNat_byte lead.toNat_lt]
        exact lead_of_not_ascii h hbytes

end Utf8
end LinePalette
