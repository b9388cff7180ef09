import LinePalette.Json.Reader

/-!
# Numbers

A number that is not too large is read with all of its parts, when what stands behind it
cannot go on with any of them.
-/

namespace LinePalette
namespace Json

/-!
# Spelling
-/

def IsDigits (text : Text) : Prop := text ≠ [] ∧ ∀ c ∈ text, c.isDigit = true

instance (text : Text) : Decidable (IsDigits text) :=
  decidable_of_iff (text ≠ [] ∧ text.all Char.isDigit = true)
    (and_congr_right fun _ => List.all_eq_true)

inductive SpellsFraction : Text -> Text -> Prop where
  | absent : SpellsFraction [] []
  | point {digits : Text} : IsDigits digits -> SpellsFraction digits ('.' :: digits)

inductive SpellsExponent : Text -> Bool -> Text -> Prop where
  | absent : SpellsExponent [] false []
  | unsigned {mark : Char} {digits : Text} :
      mark ∈ ['e', 'E'] -> IsDigits digits -> SpellsExponent digits false (mark :: digits)
  | plus {mark : Char} {digits : Text} :
      mark ∈ ['e', 'E'] -> IsDigits digits -> SpellsExponent digits false (mark :: '+' :: digits)
  | minus {mark : Char} {digits : Text} :
      mark ∈ ['e', 'E'] -> IsDigits digits -> SpellsExponent digits true (mark :: '-' :: digits)

/-- A number without its sign, within the limits; only zero itself starts with a zero. -/
inductive SpellsMagnitude : Text -> Prop where
  | parts {whole fraction fractionText exponent exponentText : Text} {negative : Bool} :
      IsDigits whole -> (whole.head? = some '0' -> whole = ['0']) ->
      SpellsFraction fraction fractionText ->
      SpellsExponent exponent negative exponentText ->
      isTooLarge whole fraction exponent negative = false ->
      SpellsMagnitude (whole ++ fractionText ++ exponentText)

inductive SpellsNumber : Text -> Prop where
  | plain {magnitude : Text} : SpellsMagnitude magnitude -> SpellsNumber magnitude
  | minus {magnitude : Text} : SpellsMagnitude magnitude -> SpellsNumber ('-' :: magnitude)

/-!
# What stands behind a number
-/

/-- The text does not start with a character that satisfies the test. -/
def StopsAt (test : Char -> Bool) (rest : Text) : Prop :=
  ∀ c, rest.head? = some c -> test c = false

def continuesNumber (c : Char) : Bool := c.isDigit || c == '.' || c == 'e' || c == 'E'

variable {test : Char -> Bool} {rest digits text : Text}

theorem StopsAt.mono {other : Char -> Bool} (h : StopsAt test rest)
    (hother : ∀ c, other c = true -> test c = true) : StopsAt other rest := by
  intro c hc
  have htest := h c hc
  cases hvalue : other c with
  | false => rfl
  | true => rw [hother c hvalue] at htest; cases htest

theorem stopsAt_cons {c : Char} (h : test c = false) (rest : Text) : StopsAt test (c :: rest) := by
  intro d hd
  cases hd
  exact h

theorem digitsOf_append (h : ∀ c ∈ digits, c.isDigit = true) (hrest : StopsAt Char.isDigit rest) :
    digitsOf (digits ++ rest) = digits := by
  unfold digitsOf
  rw [List.takeWhile_append_of_pos h]
  cases rest with
  | nil => exact List.append_nil digits
  | cons c later => rw [List.takeWhile_cons_of_neg (by rw [hrest c rfl]; decide), List.append_nil]

theorem IsDigits.isEmpty (h : IsDigits digits) : digits.isEmpty = false := by
  cases digits with
  | nil => exact absurd rfl h.left
  | cons c later => rfl

theorem not_continued_of_mark {mark : Char} (h : mark ∈ ['e', 'E']) :
    (mark.isDigit || mark == '.') = false := by
  simp only [List.mem_cons, List.not_mem_nil, or_false] at h
  rcases h with rfl | rfl
  · rfl
  · rfl

/-!
# Reading
-/

theorem SpellsFraction.read_append (h : SpellsFraction digits text)
    (hrest : StopsAt (fun c => c.isDigit || c == '.') rest) :
    readFraction (text ++ rest) = .ok (digits, text, rest) := by
  cases h with
  | absent =>
      unfold readFraction
      split
      · next later heq =>
          rw [List.nil_append] at heq
          have hpoint := hrest '.' (by rw [heq]; rfl)
          cases hpoint
      · rfl
  | point hdigits =>
      have hread := digitsOf_append hdigits.right
        (hrest.mono fun c hc => by rw [hc]; rfl)
      rw [List.cons_append]
      unfold readFraction
      simp only [hread, hdigits.isEmpty, List.drop_left]
      rfl

theorem readExponent_signed {mark : Char} (hmark : mark ∈ ['e', 'E'])
    (hdigits : IsDigits digits) (hrest : StopsAt Char.isDigit rest) (sign : Text)
    (hsign : sign ∈ [[], ['+'], ['-']]) :
    readExponent (mark :: (sign ++ digits ++ rest)) =
      .ok (digits, sign = ['-'], mark :: (sign ++ digits), rest) := by
  have hcase : mark = 'e' ∨ mark = 'E' := by simpa using hmark
  have hread := digitsOf_append hdigits.right hrest
  unfold readExponent
  simp only [if_pos hcase]
  simp only [List.mem_cons, List.not_mem_nil, or_false] at hsign
  rcases hsign with rfl | rfl | rfl
  · cases digits with
    | nil => exact absurd rfl hdigits.left
    | cons d more =>
        have hd := hdigits.right d List.mem_cons_self
        have hplus : d ≠ '+' := by
          rintro rfl
          cases hd
        have hminus : d ≠ '-' := by
          rintro rfl
          cases hd
        rw [List.cons_append] at hread
        simp [hread, hplus, hminus]
  · simp [hread, hdigits.isEmpty]
  · simp [hread, hdigits.isEmpty]

theorem SpellsExponent.read_append {negative : Bool} (h : SpellsExponent digits negative text)
    (hrest : StopsAt (fun c => c.isDigit || c == 'e' || c == 'E') rest) :
    readExponent (text ++ rest) = .ok (digits, negative, text, rest) := by
  have hdigit : StopsAt Char.isDigit rest := hrest.mono fun c hc => by rw [hc]; rfl
  cases h with
  | absent =>
      cases rest with
      | nil => rfl
      | cons c later =>
          have hc : ¬(c = 'e' ∨ c = 'E') := by
            have hstop := hrest c rfl
            rintro (rfl | rfl)
            · cases hstop
            · cases hstop
          rw [List.nil_append]
          unfold readExponent
          simp only [if_neg hc]
  | unsigned hmark hdigits => exact readExponent_signed hmark hdigits hdigit [] (by decide)
  | plus hmark hdigits => exact readExponent_signed hmark hdigits hdigit ['+'] (by decide)
  | minus hmark hdigits => exact readExponent_signed hmark hdigits hdigit ['-'] (by decide)

theorem SpellsExponent.stopsAt {negative : Bool} (h : SpellsExponent digits negative text)
    (hrest : StopsAt (fun c => c.isDigit || c == '.') rest) :
    StopsAt (fun c => c.isDigit || c == '.') (text ++ rest) := by
  cases h with
  | absent => exact hrest
  | unsigned hmark _ => exact stopsAt_cons (not_continued_of_mark hmark) _
  | plus hmark _ => exact stopsAt_cons (not_continued_of_mark hmark) _
  | minus hmark _ => exact stopsAt_cons (not_continued_of_mark hmark) _

theorem SpellsFraction.stopsAt (h : SpellsFraction digits text)
    (hrest : StopsAt Char.isDigit rest) : StopsAt Char.isDigit (text ++ rest) := by
  cases h with
  | absent => exact hrest
  | point _ => exact stopsAt_cons rfl _

theorem SpellsMagnitude.read_append (h : SpellsMagnitude text)
    (hrest : StopsAt continuesNumber rest) : readMagnitude (text ++ rest) = .ok (text, rest) := by
  cases h with
  | @parts whole fraction fractionText exponent exponentText negative hwhole hzero hfraction
      hexponent hlimit =>
      have hmark : StopsAt (fun c => c.isDigit || c == 'e' || c == 'E') rest :=
        hrest.mono fun c hc => by
          simp only [continuesNumber, Bool.or_eq_true] at hc ⊢
          exact hc.imp_left fun hdigit => hdigit.imp_left Or.inl
      have hpoint : StopsAt (fun c => c.isDigit || c == '.') (exponentText ++ rest) :=
        hexponent.stopsAt (hrest.mono fun c hc => by
          simp only [continuesNumber, Bool.or_eq_true] at hc ⊢
          exact Or.inl (Or.inl hc))
      have hdigit : StopsAt Char.isDigit (fractionText ++ (exponentText ++ rest)) :=
        hfraction.stopsAt (hpoint.mono fun c hc => by rw [hc]; rfl)
      have hread := digitsOf_append hwhole.right hdigit
      rw [List.append_assoc, List.append_assoc]
      unfold readMagnitude
      simp only [hread, List.drop_left, hfraction.read_append hpoint,
        hexponent.read_append hmark, bind, Except.bind, hlimit, List.append_assoc]
      split
      · exact absurd rfl hwhole.left
      · cases hzero rfl
      · rfl

theorem SpellsMagnitude.starts (h : SpellsMagnitude text) :
    ∃ c later, text = c :: later ∧ c.isDigit = true := by
  cases h with
  | @parts whole _ _ _ _ _ hwhole _ _ _ _ =>
      cases whole with
      | nil => exact absurd rfl hwhole.left
      | cons c later => exact ⟨c, _, rfl, hwhole.right c List.mem_cons_self⟩

theorem SpellsNumber.starts (h : SpellsNumber text) :
    ∃ c later, text = c :: later ∧ (c = '-' ∨ c.isDigit = true) := by
  cases h with
  | plain hmagnitude =>
      rcases hmagnitude.starts with ⟨c, later, htext, hdigit⟩
      exact ⟨c, later, htext, Or.inr hdigit⟩
  | minus _ => exact ⟨'-', _, rfl, Or.inl rfl⟩

theorem SpellsNumber.read_append (h : SpellsNumber text) (hrest : StopsAt continuesNumber rest) :
    readNumber (text ++ rest) = .ok (text, rest) := by
  cases h with
  | plain hmagnitude =>
      have hread := hmagnitude.read_append hrest
      rcases hmagnitude.starts with ⟨c, later, rfl, hdigit⟩
      unfold readNumber
      split
      · next heq =>
          cases heq
          cases hdigit
      · exact hread
  | @minus magnitude hmagnitude =>
      show (readMagnitude (magnitude ++ rest)).map _ = _
      rw [hmagnitude.read_append hrest]
      rfl

end Json
end LinePalette
