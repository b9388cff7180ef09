import LinePalette.Proofs.Pattern.Reading
import LinePalette.Proofs.Text.Offsets

/-!
# Scanning templates

A template may be expanded without taking its characters apart first, by a scan that
goes over its encoding from byte to byte.  All signs that a dollar sign can refer to
are one byte long, and no byte of a longer character looks like one of them, so the
scan finds the references that reading finds and stays on boundaries of characters.
-/

namespace LinePalette
namespace Template

variable {line template text rest front : Text} {found : Match} {c : Char} {fuel : Nat}

/-!
# The scan

Nothing comes of a scan that cuts a text inside a character, or that goes on for too
long.
-/

def fillBytes? (line : Text) (found : Match) : Piece -> Option Text
  | .literal c => some [c]
  | .before => Text.sliceBytes? 0 (Text.byteOffset line found.whole.start) line
  | .after => Text.sliceBytes? (Text.byteOffset line found.whole.stop) (Text.byteSize line) line
  | .group number =>
      match found.group? number with
      | some span =>
          Text.sliceBytes? (Text.byteOffset line span.start) (Text.byteOffset line span.stop) line
      | none => some []

def characterAt? (template : Text) (offset : Nat) : Option Text := do
  let rest ← Text.sliceBytes? offset (Text.byteSize template) template
  let size := (rest.head?.map Char.utf8Size).getD 1
  Text.sliceBytes? offset (offset + size) template

/-- The expansion of a template from a byte offset on. -/
def scanFrom (template line : Text) (found : Match) : Nat -> Nat -> Option Text
  | 0, _ => none
  | fuel + 1, offset =>
      match Utf8.asCharacters ((Utf8.encode template).drop offset) with
      | [] => some []
      | lead :: behind =>
          if lead ≠ '$' ∨ behind = [] then do
            let copied ← characterAt? template offset
            (scanFrom template line found fuel (offset + Text.byteSize copied)).map (copied ++ ·)
          else
            match reference? found.count behind with
            | some (piece, used) => do
                let meaning ← fillBytes? line found piece
                (scanFrom template line found fuel (offset + 1 + used)).map (meaning ++ ·)
            | none => (scanFrom template line found fuel (offset + 1)).map ('$' :: ·)

def scan (template line : Text) (found : Match) : Option Text :=
  scanFrom template line found ((Utf8.encode template).length + 1) 0

/-!
# Signs and bytes
-/

theorem reference?_of_not_ascii (count : Nat) (h : 128 ≤ c.toNat) (rest : Text) :
    reference? count (c :: rest) = none := by
  have hsign : ∀ sign : Char, sign.toNat < 128 -> c ≠ sign := by
    intro sign hascii hsame
    rw [hsame] at h
    exact Nat.not_le.mpr hascii h
  have hbacktick : c.toNat ≠ 0x60 := by omega
  have hdigit : ¬c.isDigit := fun hdigit => Nat.not_le.mpr (toNat_lt_of_isDigit hdigit) h
  unfold reference?
  simp only
  rw [if_neg (hsign _ (by decide)), if_neg (hsign _ (by decide)), if_neg hbacktick,
    if_neg (hsign _ (by decide)), if_neg hdigit]

theorem groupReference?_encode (count : Nat) (first : Char) (rest : Text) :
    groupReference? count first (Utf8.asCharacters (Utf8.encode rest)) =
      groupReference? count first rest := by
  cases rest with
  | nil => rfl
  | cons second later =>
      by_cases hascii : second.toNat < 128
      · rw [Utf8.asCharacters_encode_ascii hascii]
        rfl
      · -- what follows the first digit is no digit, whether seen as a character or as bytes
        have hplain : ∀ other : Char, 128 ≤ other.toNat -> ∀ behind : Text,
            groupReference? count first (other :: behind) = groupReference? count first [] := by
          intro other hother behind
          have hdigit : ¬other.isDigit := fun hdigit =>
            Nat.not_le.mpr (toNat_lt_of_isDigit hdigit) hother
          exact if_neg fun h => hdigit h.left
        have hsecond := Nat.le_of_not_lt hascii
        rcases Utf8.asCharacters_encode_not_ascii hsecond later with ⟨lead, more, hbytes, hlead⟩
        rw [hbytes, hplain lead hlead, hplain second hsecond]

theorem reference?_encode (count : Nat) (text : Text) :
    reference? count (Utf8.asCharacters (Utf8.encode text)) = reference? count text := by
  cases text with
  | nil => rfl
  | cons first rest =>
      by_cases hascii : first.toNat < 128
      · rw [Utf8.asCharacters_encode_ascii hascii]
        unfold reference?
        simp only [groupReference?_encode]
      · have hfirst := Nat.le_of_not_lt hascii
        rcases Utf8.asCharacters_encode_not_ascii hfirst rest with ⟨lead, more, hbytes, hlead⟩
        rw [hbytes, reference?_of_not_ascii count hlead, reference?_of_not_ascii count hfirst]

theorem asCharacters_encode_eq_nil {text : Text}
    (h : Utf8.asCharacters (Utf8.encode text) = []) : text = [] := by
  cases text with
  | nil => rfl
  | cons c rest =>
      exact absurd (List.map_eq_nil_iff.mp h) (Utf8.encode_ne_nil (List.cons_ne_nil _ _))

/-!
# Cutting
-/

theorem fillBytes?_eq (line : Text) (found : Match) (piece : Piece) :
    fillBytes? line found piece = some (piece.fill line found) := by
  cases piece with
  | literal c => rfl
  | before => exact Text.sliceBytes?_byteOffset line (Nat.zero_le _)
  | after => exact Text.sliceBytes?_drop line _
  | group number =>
      rw [fillBytes?, Piece.fill]
      cases found.group? number with
      | none => rfl
      | some span => exact Text.sliceBytes?_byteOffset line span.start_le_stop

theorem characterAt?_eq (front : Text) (c : Char) (rest : Text) :
    characterAt? (front ++ c :: rest) (Text.byteSize front) = some [c] := by
  have hrest := Text.sliceBytes?_append front (c :: rest) []
  have hfirst := Text.sliceBytes?_append front [c] rest
  rw [List.append_nil, ← Text.byteSize_append] at hrest
  unfold characterAt?
  rw [hrest]
  exact hfirst

/-!
# Agreement
-/

theorem scanFrom_nil (front : Text) :
    scanFrom front line found (fuel + 1) (Text.byteSize front) = some [] := by
  have hdone := Utf8.drop_encode front []
  rw [List.append_nil] at hdone
  unfold scanFrom
  rw [hdone]
  rfl

theorem scanFrom_copy (h : c ≠ '$' ∨ rest = []) :
    scanFrom (front ++ c :: rest) line found (fuel + 1) (Text.byteSize front) =
      (scanFrom (front ++ c :: rest) line found fuel (Text.byteSize (front ++ [c]))).map
        (c :: ·) := by
  have hlead : ∃ lead behind,
      Utf8.asCharacters (Utf8.encode (c :: rest)) = lead :: behind ∧
        (lead ≠ '$' ∨ behind = []) := by
    by_cases hascii : c.toNat < 128
    · refine ⟨c, _, Utf8.asCharacters_encode_ascii hascii rest, ?_⟩
      rcases h with hplain | hlast
      · exact Or.inl hplain
      · rw [hlast]
        exact Or.inr rfl
    · rcases Utf8.asCharacters_encode_not_ascii (Nat.le_of_not_lt hascii) rest with
        ⟨lead, more, hbytes, hlead⟩
      refine ⟨lead, more, hbytes, Or.inl ?_⟩
      intro hdollar
      rw [hdollar] at hlead
      exact absurd hlead (by decide)
  rcases hlead with ⟨lead, behind, hbytes, hcopied⟩
  rw [scanFrom, Utf8.drop_encode, hbytes]
  simp only
  rw [if_pos hcopied, characterAt?_eq, Text.byteSize_append]
  rfl

theorem dollar_before (h : rest ≠ []) :
    ¬('$' ≠ '$' ∨ Utf8.asCharacters (Utf8.encode rest) = []) := by
  rintro (hdollar | hnone)
  · exact hdollar rfl
  · exact h (asCharacters_encode_eq_nil hnone)

theorem scanFrom_reference {piece : Piece} {used : Nat}
    (h : reference? found.count rest = some (piece, used)) :
    scanFrom (front ++ '$' :: rest) line found (fuel + 1) (Text.byteSize front) =
      (scanFrom (front ++ '$' :: rest) line found fuel (Text.byteSize front + 1 + used)).map
        (piece.fill line found ++ ·) := by
  have hrest : rest ≠ [] := by
    rintro rfl
    cases h
  rw [scanFrom, Utf8.drop_encode, Utf8.asCharacters_encode_ascii (by decide)]
  simp only
  rw [if_neg (dollar_before hrest), reference?_encode, h]
  simp only [fillBytes?_eq]
  rfl

theorem scanFrom_literal (hrest : rest ≠ []) (h : reference? found.count rest = none) :
    scanFrom (front ++ '$' :: rest) line found (fuel + 1) (Text.byteSize front) =
      (scanFrom (front ++ '$' :: rest) line found fuel (Text.byteSize front + 1)).map
        ('$' :: ·) := by
  rw [scanFrom, Utf8.drop_encode, Utf8.asCharacters_encode_ascii (by decide)]
  simp only
  rw [if_neg (dollar_before hrest), reference?_encode, h]

/-- Behind any text that it has passed, the scan gives what is read there. -/
theorem scanFrom_reads (front : Text) (h : Reads line found rest text)
    (hfuel : rest.length < fuel) :
    scanFrom (front ++ rest) line found fuel (Text.byteSize front) = some text := by
  induction h generalizing front fuel with
  | nil =>
      rw [List.append_nil]
      cases fuel with
      | zero => cases hfuel
      | succ fuel => exact scanFrom_nil front
  | @plain c rest text hplain _ ih =>
      cases fuel with
      | zero => cases hfuel
      | succ fuel =>
          have hlater := ih (front ++ [c]) (Nat.lt_of_succ_lt_succ hfuel)
          rw [List.append_assoc, List.singleton_append] at hlater
          rw [scanFrom_copy (Or.inl hplain), hlater]
          rfl
  | @reference behind meaning rest text hrefers _ ih =>
      cases fuel with
      | zero => cases hfuel
      | succ fuel =>
          rcases hrefers.reference? with ⟨piece, signs, rfl, hsize, hreference, rfl⟩
          have hbehind : rest.length < fuel := by
            rw [List.length_cons, List.length_append] at hfuel
            omega
          have hlater := ih (front ++ '$' :: signs) hbehind
          have hoffset : Text.byteSize (front ++ '$' :: signs) =
              Text.byteSize front + 1 + signs.length := by
            rw [Text.byteSize_append, Text.byteSize, hsize, Nat.add_assoc]
            rfl
          rw [hoffset, List.append_assoc, List.cons_append] at hlater
          rw [scanFrom_reference hreference, hlater]
          rfl
  | @literal behind text hnone _ ih =>
      cases fuel with
      | zero => cases hfuel
      | succ fuel =>
          have hlater := ih (front ++ ['$']) (Nat.lt_of_succ_lt_succ hfuel)
          rw [List.append_assoc, List.singleton_append] at hlater
          by_cases hlast : behind = []
          · rw [scanFrom_copy (Or.inr hlast), hlater]
            rfl
          · have hreference : reference? found.count behind = none := by
              cases h : reference? found.count behind with
              | none => rfl
              | some reference => exact absurd (refers_of_reference? h) (hnone _ _)
            rw [Text.byteSize_append] at hlater
            rw [scanFrom_literal hlast hreference]
            exact congrArg (Option.map ('$' :: ·)) hlater

theorem scan_eq (template line : Text) (found : Match) :
    scan template line found = some (expand template line found) := by
  have hfuel : template.length < (Utf8.encode template).length + 1 := by
    rw [Utf8.length_encode]
    exact Nat.lt_succ_of_le (Text.length_le_byteSize template)
  exact scanFrom_reads [] (reads_iff.mpr rfl) hfuel

/--
A template expands to what it says when read from left to right, and to nothing else:
the references are those listed by `Refers`, and every other character stands for
itself.  Scanning the bytes of the template comes to the same text and cuts no text
inside a character.  A text with its dollar signs doubled expands to itself.
-/
theorem expansion_reads_left_to_right (template line : Text) (found : Match) :
    (∀ text, Reads line found template text ↔ text = expand template line found) ∧
      scan template line found = some (expand template line found) ∧
      expand (doubled template) line found = template := by
  refine ⟨?_, ?_, ?_⟩
  · intro text
    exact reads_iff
  · exact scan_eq template line found
  · exact (reads_iff.mp (reads_doubled template)).symm

end Template
end LinePalette
