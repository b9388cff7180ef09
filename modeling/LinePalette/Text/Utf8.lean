import LinePalette.Text.Basic

/-!
# UTF-8

Files and input are bytes.  A byte string that is the encoding of some text
decodes to that text, and every other byte string is refused.  The decoder
gathers the bytes of one character, and accepts them only when encoding the
character they spell gives the same bytes; overlong forms, surrogates and
values past the last code point are refused by that one test.
-/

namespace LinePalette

abbrev Bytes := List UInt8

namespace Utf8

def encode (text : Text) : Bytes := text.flatMap String.utf8EncodeChar

/-- The code point spelled by the payload bits of one to four bytes. -/
def payload : Bytes -> Nat
  | [a] => a.toNat
  | [a, b] => (a.toNat % 32) * 64 + b.toNat % 64
  | [a, b, c] => ((a.toNat % 16) * 64 + b.toNat % 64) * 64 + c.toNat % 64
  | [a, b, c, d] =>
      (((a.toNat % 8) * 64 + b.toNat % 64) * 64 + c.toNat % 64) * 64 + d.toNat % 64
  | _ => 0

def charOf? (bytes : Bytes) : Option Char :=
  if String.utf8EncodeChar (Char.ofNat (payload bytes)) = bytes then
    some (Char.ofNat (payload bytes))
  else
    none

/-- Decoding with the bytes of an unfinished character already read. -/
def decodeFrom (pending : Bytes) : Bytes -> Option Text
  | [] => if pending.isEmpty then some [] else none
  | b :: rest =>
      let gathered := pending ++ [b]
      match charOf? gathered with
      | some c => (decodeFrom [] rest).map (c :: ·)
      | none => if gathered.length < 4 then decodeFrom gathered rest else none

def decode? (bytes : Bytes) : Option Text := decodeFrom [] bytes

theorem encode_of_charOf? {bytes : Bytes} {c : Char} (h : charOf? bytes = some c) :
    String.utf8EncodeChar c = bytes := by
  unfold charOf? at h
  split at h
  · next heq =>
      cases h
      exact heq
  · cases h

theorem encode_of_decodeFrom {pending bytes : Bytes} {text : Text}
    (h : decodeFrom pending bytes = some text) : encode text = pending ++ bytes := by
  induction bytes generalizing pending text with
  | nil =>
      simp only [decodeFrom] at h
      split at h
      · next hp =>
          cases h
          simp [encode, List.isEmpty_iff.mp hp]
      · cases h
  | cons b rest ih =>
      simp only [decodeFrom] at h
      split at h
      · next c hc =>
          obtain ⟨tail, htail, rfl⟩ := Option.map_eq_some_iff.mp h
          have hrest := ih htail
          simp only [encode, List.nil_append] at hrest
          simp [encode, hrest, encode_of_charOf? hc]
      · next hc =>
          split at h
          · simpa using ih h
          · cases h

theorem encode_of_decode? {bytes : Bytes} {text : Text}
    (h : decode? bytes = some text) : encode text = bytes := by
  simpa using encode_of_decodeFrom h

end Utf8
end LinePalette
