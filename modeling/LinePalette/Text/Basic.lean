/-!
# Text

A text is a list of characters.  Offsets into it are counted in two ways: by
characters, which is what the editor and the matcher use, and by the size of
its UTF-8 encoding, which is what every offset shown to the outside uses.
-/

namespace LinePalette

abbrev Text := List Char

namespace Text

/-!
# Byte offsets

The byte size of a text is the length of its UTF-8 encoding.  Cutting at a byte
offset keeps whole characters: one that would straddle the offset stays on the
right.
-/

def byteSize : Text -> Nat
  | [] => 0
  | c :: rest => c.utf8Size + byteSize rest

/-- The characters that fit into the first `n` bytes. -/
def takeBytes : Nat -> Text -> Text
  | _, [] => []
  | n, c :: rest =>
      if c.utf8Size ≤ n then
        c :: takeBytes (n - c.utf8Size) rest
      else
        []

def dropBytes : Nat -> Text -> Text
  | _, [] => []
  | n, c :: rest =>
      if c.utf8Size ≤ n then
        dropBytes (n - c.utf8Size) rest
      else
        c :: rest

def sliceBytes (start stop : Nat) (text : Text) : Text :=
  takeBytes (stop - start) (dropBytes start text)

def slice (start stop : Nat) (text : Text) : Text :=
  (text.drop start).take (stop - start)

/-- The byte offset of a character position. -/
def byteOffset (text : Text) (position : Nat) : Nat :=
  byteSize (text.take position)

theorem takeBytes_append_dropBytes (n : Nat) (text : Text) :
    takeBytes n text ++ dropBytes n text = text := by
  induction text generalizing n with
  | nil => rfl
  | cons c rest ih =>
      by_cases h : c.utf8Size ≤ n
      · simp [takeBytes, dropBytes, h, ih]
      · simp [takeBytes, dropBytes, h]

theorem byteSize_append (left right : Text) :
    byteSize (left ++ right) = byteSize left + byteSize right := by
  induction left with
  | nil => simp [byteSize]
  | cons c rest ih =>
      simp [byteSize, ih]
      omega

/-!
# Splitting and joining

Splitting always yields at least one piece.  Joining the pieces of a split at
one character with that character gives the text back.
-/

def splitWhere (cut : Char -> Bool) : Text -> List Text
  | [] => [[]]
  | c :: rest =>
      if cut c then
        [] :: splitWhere cut rest
      else
        match splitWhere cut rest with
        | [] => [[c]]
        | piece :: pieces => (c :: piece) :: pieces

def splitOn (separator : Char) (text : Text) : List Text :=
  splitWhere (· == separator) text

def join (separator : Text) : List Text -> Text
  | [] => []
  | [piece] => piece
  | piece :: next :: pieces => piece ++ separator ++ join separator (next :: pieces)

theorem splitWhere_ne_nil (cut : Char -> Bool) (text : Text) :
    splitWhere cut text ≠ [] := by
  cases text with
  | nil => simp [splitWhere]
  | cons c rest =>
      rw [splitWhere]
      split
      · simp
      · split <;> simp

theorem join_splitOn (separator : Char) (text : Text) :
    join [separator] (splitOn separator text) = text := by
  unfold splitOn
  induction text with
  | nil => rfl
  | cons c rest ih =>
      rw [splitWhere]
      cases hp : splitWhere (· == separator) rest with
      | nil => exact absurd hp (splitWhere_ne_nil _ rest)
      | cons piece pieces =>
          rw [hp] at ih
          split
          · next h => simp [join, ih, beq_iff_eq.mp h]
          · cases pieces with
            | nil => simpa [join] using ih
            | cons next pieces => simpa [join] using ih

theorem cut_eq_false_of_mem_splitWhere {cut : Char -> Bool} {text piece : Text}
    (h : piece ∈ splitWhere cut text) : ∀ c ∈ piece, cut c = false := by
  induction text generalizing piece with
  | nil =>
      simp [splitWhere] at h
      simp [h]
  | cons c rest ih =>
      rw [splitWhere] at h
      split at h
      · rcases List.mem_cons.mp h with rfl | h
        · simp
        · exact ih h
      · next hc =>
          split at h
          · simp at h
            simp [h, hc]
          · next first pieces hp =>
              rcases List.mem_cons.mp h with rfl | h
              · have hfirst : ∀ c ∈ first, cut c = false := ih (by simp [hp])
                simpa [hc] using hfirst
              · exact ih (by simp [hp, h])

/-!
# Affixes and decimals
-/

def stripLeading? : Text -> Text -> Option Text
  | [], text => some text
  | _ :: _, [] => none
  | l :: lead, c :: rest => if l = c then stripLeading? lead rest else none

def stripTrailing? (tail text : Text) : Option Text :=
  (stripLeading? tail.reverse text.reverse).map List.reverse

def ofNat (n : Nat) : Text := Nat.toDigits 10 n

def decimalValue (digits : Text) : Nat :=
  digits.foldl (fun value digit => value * 10 + (digit.toNat - '0'.toNat)) 0

end Text
end LinePalette
