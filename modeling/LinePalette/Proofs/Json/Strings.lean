import LinePalette.Json.Reader

/-!
# Quoted strings

A string is read as the text that it spells, whatever stands behind its closing quote.
The way in which a compact text spells it leaves no control character in it.
-/

namespace LinePalette
namespace Json

def IsControl (c : Char) : Prop := c.toNat < 0x20

instance (c : Char) : Decidable (IsControl c) := inferInstanceAs (Decidable (c.toNat < 0x20))

/-!
# Numeric escapes
-/

def IsHexDigit (n : Nat) (digit : Char) : Prop :=
  n < 16 ∧ (digit = hexDigit n ∨ digit = (hexDigit n).toUpper)

inductive SpellsUnit : Nat -> Text -> Prop where
  | digits {a b c d : Nat} {first second third fourth : Char} :
      IsHexDigit a first -> IsHexDigit b second -> IsHexDigit c third -> IsHexDigit d fourth ->
      SpellsUnit (((a * 16 + b) * 16 + c) * 16 + d) [first, second, third, fourth]

theorem isHexDigit_hexDigit {n : Nat} (h : n < 16) : IsHexDigit n (hexDigit n) :=
  ⟨h, Or.inl rfl⟩

theorem hexDigitValue?_hexDigit : ∀ n < 16, hexDigitValue? (hexDigit n) = some n := by
  decide

theorem hexDigitValue?_toUpper : ∀ n < 16, hexDigitValue? (hexDigit n).toUpper = some n := by
  decide

theorem not_isControl_hexDigit : ∀ n < 16, ¬IsControl (hexDigit n) := by
  decide

theorem not_isControl_toUpper : ∀ n < 16, ¬IsControl (hexDigit n).toUpper := by
  decide

theorem IsHexDigit.value {n : Nat} {digit : Char} (h : IsHexDigit n digit) :
    hexDigitValue? digit = some n := by
  rcases h with ⟨hn, rfl | rfl⟩
  · exact hexDigitValue?_hexDigit n hn
  · exact hexDigitValue?_toUpper n hn

theorem IsHexDigit.not_isControl {n : Nat} {digit : Char} (h : IsHexDigit n digit) :
    ¬IsControl digit := by
  rcases h with ⟨hn, rfl | rfl⟩
  · exact not_isControl_hexDigit n hn
  · exact not_isControl_toUpper n hn

theorem SpellsUnit.not_isControl {n : Nat} {digits : Text} {c : Char} (h : SpellsUnit n digits)
    (hc : c ∈ digits) : ¬IsControl c := by
  cases h with
  | digits hfirst hsecond hthird hfourth =>
      simp only [List.mem_cons, List.not_mem_nil, or_false] at hc
      rcases hc with rfl | rfl | rfl | rfl
      · exact hfirst.not_isControl
      · exact hsecond.not_isControl
      · exact hthird.not_isControl
      · exact hfourth.not_isControl

theorem SpellsUnit.readUnit_append {n : Nat} {digits : Text} (h : SpellsUnit n digits)
    (rest : Text) : readUnit (digits ++ rest) = .ok (n, rest) := by
  cases h with
  | @digits a b c d first second third fourth hfirst hsecond hthird hfourth =>
      have hsize : ¬Text.byteSize ([first, second, third, fourth] ++ rest) < 4 := by
        have hone := Char.utf8Size_pos first
        have htwo := Char.utf8Size_pos second
        have hthree := Char.utf8Size_pos third
        have hfour := Char.utf8Size_pos fourth
        simp only [Text.byteSize, List.cons_append]
        omega
      simp only [List.cons_append, List.nil_append] at hsize ⊢
      rw [readUnit, if_neg hsize]
      simp only [hfirst.value, hsecond.value, hthird.value, hfourth.value]

theorem spellsUnit_hexDigits {n : Nat} (h : n < 256) :
    SpellsUnit n ['0', '0', hexDigit (n / 16), hexDigit (n % 16)] := by
  have hzero : IsHexDigit 0 '0' := isHexDigit_hexDigit (by decide)
  have hunit := SpellsUnit.digits hzero hzero
    (isHexDigit_hexDigit (show n / 16 < 16 by omega))
    (isHexDigit_hexDigit (show n % 16 < 16 by omega))
  rw [show ((0 * 16 + 0) * 16 + n / 16) * 16 + n % 16 = n by omega] at hunit
  exact hunit

theorem isLeadingSurrogate_iff {n : Nat} :
    isLeadingSurrogate n = true ↔ 0xD800 ≤ n ∧ n ≤ 0xDBFF := by
  simp only [isLeadingSurrogate, Bool.and_eq_true, decide_eq_true_eq]

theorem isTrailingSurrogate_iff {n : Nat} :
    isTrailingSurrogate n = true ↔ 0xDC00 ≤ n ∧ n ≤ 0xDFFF := by
  simp only [isTrailingSurrogate, Bool.and_eq_true, decide_eq_true_eq]

theorem toNat_not_surrogate (c : Char) :
    isLeadingSurrogate c.toNat = false ∧ isTrailingSurrogate c.toNat = false := by
  have hvalid : c.toNat < 0xD800 ∨ 0xDFFF < c.toNat ∧ c.toNat < 0x110000 := c.valid
  rw [← Bool.not_eq_true, ← Bool.not_eq_true, isLeadingSurrogate_iff, isTrailingSurrogate_iff]
  omega

theorem readCodeEscape_unit {c : Char} {digits : Text} (h : SpellsUnit c.toNat digits)
    (rest : Text) : readCodeEscape (digits ++ rest) = .ok (c, rest) := by
  rcases toNat_not_surrogate c with ⟨hleading, htrailing⟩
  rw [readCodeEscape, h.readUnit_append]
  simp only [bind, Except.bind, htrailing, hleading, Char.ofNat_toNat]
  rfl

/-- The two numbers of the surrogate pair for a character. -/
def leadingUnit (c : Char) : Nat := 0xD800 + (c.toNat - 0x10000) / 0x400

def trailingUnit (c : Char) : Nat := 0xDC00 + (c.toNat - 0x10000) % 0x400

theorem isLeadingSurrogate_leadingUnit (c : Char) : isLeadingSurrogate (leadingUnit c) = true := by
  have hvalid : c.toNat < 0xD800 ∨ 0xDFFF < c.toNat ∧ c.toNat < 0x110000 := c.valid
  rw [isLeadingSurrogate_iff]
  unfold leadingUnit
  omega

theorem isTrailingSurrogate_trailingUnit (c : Char) :
    isTrailingSurrogate (trailingUnit c) = true := by
  rw [isTrailingSurrogate_iff]
  unfold trailingUnit
  omega

theorem not_isTrailingSurrogate_of_leading {n : Nat} (h : isLeadingSurrogate n = true) :
    isTrailingSurrogate n = false := by
  rw [isLeadingSurrogate_iff] at h
  rw [← Bool.not_eq_true, isTrailingSurrogate_iff]
  omega

theorem toNat_of_pair {c : Char} (h : 0x10000 ≤ c.toNat) :
    0x10000 + (leadingUnit c - 0xD800) * 0x400 + (trailingUnit c - 0xDC00) = c.toNat := by
  unfold leadingUnit trailingUnit
  omega

theorem readCodeEscape_surrogates {first second : Nat} {leading trailing : Text}
    (hfirst : isLeadingSurrogate first = true) (hsecond : isTrailingSurrogate second = true)
    (hleading : SpellsUnit first leading) (htrailing : SpellsUnit second trailing)
    (rest : Text) :
    readCodeEscape (leading ++ '\\' :: 'u' :: (trailing ++ rest)) =
      .ok (Char.ofNat (0x10000 + (first - 0xD800) * 0x400 + (second - 0xDC00)), rest) := by
  rw [readCodeEscape, hleading.readUnit_append]
  simp only [bind, Except.bind, not_isTrailingSurrogate_of_leading hfirst, hfirst,
    htrailing.readUnit_append, hsecond, Bool.false_eq_true, if_true, if_false]

theorem readCodeEscape_pair {c : Char} {leading trailing : Text} (hc : 0x10000 ≤ c.toNat)
    (hleading : SpellsUnit (leadingUnit c) leading)
    (htrailing : SpellsUnit (trailingUnit c) trailing) (rest : Text) :
    readCodeEscape (leading ++ '\\' :: 'u' :: (trailing ++ rest)) = .ok (c, rest) := by
  have hread := readCodeEscape_surrogates (isLeadingSurrogate_leadingUnit c)
    (isTrailingSurrogate_trailingUnit c) hleading htrailing rest
  have hchar := (congrArg Char.ofNat (toNat_of_pair hc)).trans (Char.ofNat_toNat c)
  exact hread.trans (congrArg (fun decoded => Except.ok (decoded, rest)) hchar)

/-!
# Escapes

A character stands for itself, or is written with a letter, with its number or, when the
number is too large for four digits, as a surrogate pair.
-/

def escapeLetters : List (Char × Char) :=
  [('"', '"'), ('\\', '\\'), ('/', '/'), ('b', '\x08'), ('f', '\x0C'), ('n', '\n'),
    ('r', '\r'), ('t', '\t')]

inductive Escape (c : Char) : Text -> Prop where
  | plain : c ≠ '"' -> c ≠ '\\' -> ¬IsControl c -> Escape c [c]
  | letter {letter : Char} : (letter, c) ∈ escapeLetters -> Escape c ['\\', letter]
  | unit {digits : Text} : SpellsUnit c.toNat digits -> Escape c ('\\' :: 'u' :: digits)
  | pair {leading trailing : Text} :
      0x10000 ≤ c.toNat -> SpellsUnit (leadingUnit c) leading ->
      SpellsUnit (trailingUnit c) trailing ->
      Escape c ('\\' :: 'u' :: (leading ++ '\\' :: 'u' :: trailing))

theorem escape_escapeChar (c : Char) : Escape c (escapeChar c) := by
  unfold escapeChar
  -- the seven characters that have a letter of their own
  iterate 7
    split
    · next hc =>
        subst hc
        exact Escape.letter (by decide)
  split
  · next hcontrol => exact Escape.unit (spellsUnit_hexDigits (by omega))
  · next hcontrol => exact Escape.plain ‹¬c = '"'› ‹¬c = '\\'› hcontrol

theorem Escape.ne_nil {c : Char} {escape : Text} (h : Escape c escape) : escape ≠ [] := by
  cases h with
  | _ => exact List.cons_ne_nil _ _

theorem Escape.not_isControl {c d : Char} {escape : Text} (h : Escape c escape)
    (hd : d ∈ escape) : ¬IsControl d := by
  have hslash : ¬IsControl '\\' := by decide
  have hletter : ¬IsControl 'u' := by decide
  cases h with
  | plain _ _ hc =>
      rw [List.mem_singleton.mp hd]
      exact hc
  | letter hmem =>
      have hletters : ∀ known ∈ escapeLetters, ¬IsControl known.1 := by decide
      simp only [List.mem_cons, List.not_mem_nil, or_false] at hd
      rcases hd with rfl | rfl
      · exact hslash
      · exact hletters _ hmem
  | unit hdigits =>
      rcases List.mem_cons.mp hd with rfl | hd
      · exact hslash
      rcases List.mem_cons.mp hd with rfl | hd
      · exact hletter
      · exact hdigits.not_isControl hd
  | pair _ hleading htrailing =>
      simp only [List.mem_cons, List.mem_append] at hd
      rcases hd with rfl | rfl | hd | rfl | rfl | hd
      · exact hslash
      · exact hletter
      · exact hleading.not_isControl hd
      · exact hslash
      · exact hletter
      · exact htrailing.not_isControl hd

theorem readEscape_letter {letter c : Char} (h : (letter, c) ∈ escapeLetters) (rest : Text) :
    readEscape (letter :: rest) = .ok (c, rest) := by
  simp only [escapeLetters, List.mem_cons, Prod.mk.injEq, List.not_mem_nil, or_false] at h
  rcases h with ⟨rfl, rfl⟩ | ⟨rfl, rfl⟩ | ⟨rfl, rfl⟩ | ⟨rfl, rfl⟩ | ⟨rfl, rfl⟩ | ⟨rfl, rfl⟩ |
    ⟨rfl, rfl⟩ | ⟨rfl, rfl⟩
  all_goals rfl

/-- What is read for the rest of a string, with one more character in front. -/
def precededBy (c : Char) (read : Except JsonFault (Text × Text)) :
    Except JsonFault (Text × Text) :=
  read.map fun (text, after) => (c :: text, after)

theorem readStringFrom_backslash {c : Char} {text rest : Text}
    (h : readEscape text = .ok (c, rest)) (fuel : Nat) :
    readStringFrom (fuel + 1) ('\\' :: text) = precededBy c (readStringFrom fuel rest) := by
  rw [readStringFrom, if_neg (by decide), if_pos rfl, h]
  simp only [bind, Except.bind]
  cases readStringFrom fuel rest with
  | error fault => rfl
  | ok read => rfl

theorem Escape.readStringFrom_append {c : Char} {escape : Text} (h : Escape c escape)
    (fuel : Nat) (rest : Text) :
    readStringFrom (fuel + 1) (escape ++ rest) = precededBy c (readStringFrom fuel rest) := by
  cases h with
  | plain hquote hslash hcontrol =>
      unfold IsControl at hcontrol
      rw [List.singleton_append, readStringFrom, if_neg hquote, if_neg hslash, if_neg hcontrol]
      simp only [bind, Except.bind]
      cases readStringFrom fuel rest with
      | error fault => rfl
      | ok read => rfl
  | letter hmem => exact readStringFrom_backslash (readEscape_letter hmem rest) fuel
  | @unit digits hdigits =>
      have hread : readEscape ('u' :: (digits ++ rest)) = .ok (c, rest) :=
        readCodeEscape_unit hdigits rest
      exact readStringFrom_backslash hread fuel
  | @pair leading trailing hc hleading htrailing =>
      have hread : readEscape ('u' :: (leading ++ '\\' :: 'u' :: (trailing ++ rest))) =
          .ok (c, rest) := readCodeEscape_pair hc hleading htrailing rest
      rw [List.cons_append, List.cons_append, List.append_assoc]
      exact readStringFrom_backslash hread fuel

/-!
# Whole strings
-/

/-- The characters of a text, each of them written in one of its ways. -/
inductive SpellsCharacters : Text -> Text -> Prop where
  | nil : SpellsCharacters [] []
  | cons {c : Char} {text escape spelling : Text} :
      Escape c escape -> SpellsCharacters text spelling ->
      SpellsCharacters (c :: text) (escape ++ spelling)

inductive SpellsText (text : Text) : Text -> Prop where
  | quoted {spelling : Text} :
      SpellsCharacters text spelling -> SpellsText text ('"' :: (spelling ++ ['"']))

theorem spellsCharacters_escaped (text : Text) :
    SpellsCharacters text (text.flatMap escapeChar) := by
  induction text with
  | nil => exact SpellsCharacters.nil
  | cons c text ih => exact SpellsCharacters.cons (escape_escapeChar c) ih

theorem spellsText_quote (text : Text) : SpellsText text (quote text) :=
  SpellsText.quoted (spellsCharacters_escaped text)

theorem SpellsCharacters.length_le {text spelling : Text} (h : SpellsCharacters text spelling) :
    text.length ≤ spelling.length := by
  induction h with
  | nil => exact Nat.le_refl _
  | cons hescape _ ih =>
      have hpos := List.length_pos_iff.mpr hescape.ne_nil
      rw [List.length_append, List.length_cons]
      omega

theorem SpellsCharacters.readStringFrom_append {text spelling : Text}
    (h : SpellsCharacters text spelling) {fuel : Nat} (hfuel : text.length < fuel)
    (rest : Text) : readStringFrom fuel (spelling ++ '"' :: rest) = .ok (text, rest) := by
  induction h generalizing fuel with
  | nil =>
      cases fuel with
      | zero => cases hfuel
      | succ fuel => rw [List.nil_append, readStringFrom, if_pos rfl]
  | cons hescape _ ih =>
      cases fuel with
      | zero => cases hfuel
      | succ fuel =>
          rw [List.append_assoc, hescape.readStringFrom_append, ih (Nat.lt_of_succ_lt_succ hfuel)]
          rfl

theorem SpellsCharacters.readString_append {text spelling : Text}
    (h : SpellsCharacters text spelling) (rest : Text) :
    readString (spelling ++ '"' :: rest) = .ok (text, rest) := by
  unfold readString
  apply h.readStringFrom_append
  have hlength := h.length_le
  rw [List.length_append]
  omega

theorem quote_append (text rest : Text) :
    quote text ++ rest = '"' :: (text.flatMap escapeChar ++ '"' :: rest) := by
  simp only [quote, List.append_assoc, List.cons_append, List.nil_append]

theorem not_isControl_of_mem_quote {text : Text} {c : Char} (h : c ∈ quote text) :
    ¬IsControl c := by
  have hmark : ¬IsControl '"' := by decide
  simp only [quote, List.mem_append, List.mem_singleton, List.mem_flatMap] at h
  rcases h with (rfl | ⟨d, _, hc⟩) | rfl
  · exact hmark
  · exact (escape_escapeChar d).not_isControl hc
  · exact hmark

end Json
end LinePalette
