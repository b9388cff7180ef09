import LinePalette.Pattern.Template

/-!
# Reading templates

What a template says, read from left to right.  A dollar sign and what follows it may
refer to a part of the line; a dollar sign that does not, and every other character,
stands for itself.
-/

namespace LinePalette
namespace Template

variable {line text rest meaning : Text} {found : Match}

/-!
# References
-/

def backtick : Char := Char.ofNat 0x60

def captured (line : Text) (found : Match) (number : Nat) : Text :=
  ((found.group? number).map fun span => span.of line).getD []

def Names (found : Match) (number : Nat) : Prop := 1 ≤ number ∧ number < found.count

def twoDigits (first second : Char) : Nat := digitValue first * 10 + digitValue second

/--
A text that makes the dollar sign before it refer to something, with what that is and
the text behind the reference.  Two digits are one number if they name a group.
-/
inductive Refers (line : Text) (found : Match) : Text -> Text -> Text -> Prop where
  | dollar {rest : Text} : Refers line found ('$' :: rest) ['$'] rest
  | whole {rest : Text} : Refers line found ('&' :: rest) (found.whole.of line) rest
  | before {rest : Text} : Refers line found (backtick :: rest) (line.take found.whole.start) rest
  | after {rest : Text} : Refers line found ('\'' :: rest) (line.drop found.whole.stop) rest
  | long {first second : Char} {rest : Text} :
      first.isDigit -> second.isDigit -> Names found (twoDigits first second) ->
      Refers line found (first :: second :: rest)
        (captured line found (twoDigits first second)) rest
  | short {first : Char} {rest : Text} :
      first.isDigit -> Names found (digitValue first) ->
      (∀ second ∈ rest.head?, second.isDigit -> ¬Names found (twoDigits first second)) ->
      Refers line found (first :: rest) (captured line found (digitValue first)) rest

/-- What a template says about a match. -/
inductive Reads (line : Text) (found : Match) : Text -> Text -> Prop where
  | nil : Reads line found [] []
  | plain {c : Char} {rest text : Text} :
      c ≠ '$' -> Reads line found rest text -> Reads line found (c :: rest) (c :: text)
  | reference {behind meaning rest text : Text} :
      Refers line found behind meaning rest -> Reads line found rest text ->
      Reads line found ('$' :: behind) (meaning ++ text)
  | literal {behind text : Text} :
      (∀ meaning rest, ¬Refers line found behind meaning rest) ->
      Reads line found behind text -> Reads line found ('$' :: behind) ('$' :: text)

/-!
# Looking up references
-/

theorem eq_backtick_iff {c : Char} : c.toNat = 0x60 ↔ c = backtick := by
  constructor
  · intro h
    rw [← Char.ofNat_toNat c, h]
    rfl
  · intro h
    rw [h]
    rfl

theorem reference?_digit {first : Char} (count : Nat) (h : first.isDigit) (rest : Text) :
    reference? count (first :: rest) = groupReference? count first rest := by
  have hother : ∀ sign : Char, sign.isDigit = false -> first ≠ sign := by
    intro sign hsign hsame
    rw [hsame, hsign] at h
    cases h
  unfold reference?
  simp only [eq_backtick_iff]
  rw [if_neg (hother _ rfl), if_neg (hother _ rfl), if_neg (hother _ rfl), if_neg (hother _ rfl),
    if_pos h]

theorem fill_group (line : Text) (found : Match) (number : Nat) :
    (Piece.group number).fill line found = captured line found number := by
  unfold captured
  rw [Piece.fill]
  cases found.group? number with
  | none => rfl
  | some span => rfl

theorem refers_of_groupReference? {first : Char} {piece : Piece} {used : Nat}
    (hfirst : first.isDigit) (h : groupReference? found.count first rest = some (piece, used)) :
    Refers line found (first :: rest) (piece.fill line found) ((first :: rest).drop used) := by
  have hsingle :
      (∀ second ∈ rest.head?, second.isDigit -> ¬Names found (twoDigits first second)) ->
      (if 1 ≤ digitValue first ∧ digitValue first < found.count
        then some (Piece.group (digitValue first), 1) else none) = some (piece, used) ->
      Refers line found (first :: rest) (piece.fill line found) ((first :: rest).drop used) := by
    intro hlong h
    split at h
    · next hnames =>
        cases h
        rw [fill_group]
        exact .short hfirst hnames hlong
    · cases h
  unfold groupReference? at h
  cases rest with
  | nil => exact hsingle (fun _ hmem => nomatch hmem) h
  | cons second later =>
      simp only at h
      split at h
      · next hlong =>
          cases h
          rw [fill_group]
          exact .long hfirst hlong.left hlong.right
      · next hlong =>
          apply hsingle _ h
          intro other hmem hdigit hnames
          cases hmem
          exact hlong ⟨hdigit, hnames⟩

theorem refers_of_reference? {piece : Piece} {used : Nat}
    (h : reference? found.count text = some (piece, used)) :
    Refers line found text (piece.fill line found) (text.drop used) := by
  unfold reference? at h
  split at h
  · cases h
  · next first rest =>
      split at h
      · next hsign =>
          cases h
          rw [hsign]
          exact .dollar
      split at h
      · next hsign =>
          cases h
          rw [hsign]
          exact .whole
      split at h
      · next hsign =>
          cases h
          rw [eq_backtick_iff.mp hsign]
          exact .before
      split at h
      · next hsign =>
          cases h
          rw [hsign]
          exact .after
      split at h
      · next hdigit => exact refers_of_groupReference? hdigit h
      · cases h

theorem toNat_lt_of_isDigit {c : Char} (h : c.isDigit) : c.toNat < 128 := by
  unfold Char.isDigit at h
  have hhigh : c.val ≤ '9'.val := of_decide_eq_true (Bool.and_eq_true_iff.mp h).right
  exact Nat.lt_of_le_of_lt hhigh (by decide)

theorem utf8Size_of_isDigit {c : Char} (h : c.isDigit) : c.utf8Size = 1 :=
  if_pos (Nat.le_of_lt_succ (toNat_lt_of_isDigit h))

theorem Refers.reference? (h : Refers line found text meaning rest) :
    ∃ piece signs,
      text = signs ++ rest ∧ Text.byteSize signs = signs.length ∧
      Template.reference? found.count text = some (piece, signs.length) ∧
      piece.fill line found = meaning := by
  cases h with
  | dollar => exact ⟨.literal '$', ['$'], rfl, rfl, rfl, rfl⟩
  | whole => exact ⟨.group 0, ['&'], rfl, rfl, rfl, rfl⟩
  | before => exact ⟨.before, [backtick], rfl, rfl, rfl, rfl⟩
  | after => exact ⟨.after, ['\''], rfl, rfl, rfl, rfl⟩
  | @long first second rest hfirst hsecond hnames =>
      refine ⟨.group (twoDigits first second), [first, second], rfl, ?_, ?_, fill_group _ _ _⟩
      · simp only [Text.byteSize, utf8Size_of_isDigit hfirst, utf8Size_of_isDigit hsecond,
          List.length_cons, List.length_nil]
      · rw [reference?_digit _ hfirst]
        exact if_pos ⟨hsecond, hnames⟩
  | @short first rest hfirst hnames hlong =>
      refine ⟨.group (digitValue first), [first], rfl, ?_, ?_, fill_group _ _ _⟩
      · simp only [Text.byteSize, utf8Size_of_isDigit hfirst, List.length_cons, List.length_nil]
      · rw [reference?_digit _ hfirst]
        unfold groupReference?
        cases rest with
        | nil => exact if_pos hnames
        | cons second later =>
            have hplain : ¬(second.isDigit ∧ Names found (twoDigits first second)) :=
              fun h => hlong second rfl h.left h.right
            exact (if_neg hplain).trans (if_pos hnames)

theorem Refers.unique {other remaining : Text} (h : Refers line found text meaning rest)
    (hother : Refers line found text other remaining) : meaning = other ∧ rest = remaining := by
  rcases h.reference? with ⟨piece, signs, htext, _, hreference, rfl⟩
  rcases hother.reference? with ⟨piece', signs', htext', _, hreference', rfl⟩
  rw [hreference] at hreference'
  rcases Prod.mk.inj (Option.some.inj hreference') with ⟨rfl, hlength⟩
  rw [htext] at htext'
  exact ⟨rfl, (List.append_inj htext' hlength).right⟩

/-!
# Reading
-/

theorem Reads.unique {template other : Text} (h : Reads line found template text)
    (hother : Reads line found template other) : text = other := by
  induction h generalizing other with
  | nil =>
      cases hother
      rfl
  | plain hplain _ ih =>
      cases hother with
      | plain _ hrest => rw [ih hrest]
      | reference _ _ => exact absurd rfl hplain
      | literal _ _ => exact absurd rfl hplain
  | reference hrefers _ ih =>
      cases hother with
      | plain hplain _ => exact absurd rfl hplain
      | reference hother hrest =>
          rcases hrefers.unique hother with ⟨rfl, rfl⟩
          rw [ih hrest]
      | literal hnone _ => exact absurd hrefers (hnone _ _)
  | literal hnone _ ih =>
      cases hother with
      | plain hplain _ => exact absurd rfl hplain
      | reference hother _ => exact absurd hother (hnone _ _)
      | literal _ hrest => rw [ih hrest]

theorem reads_piecesFrom (skip : Nat) (template : Text) :
    Reads line found (template.drop skip)
      ((piecesFrom found.count skip template).flatMap (Piece.fill line found)) := by
  induction template generalizing skip with
  | nil =>
      rw [List.drop_nil]
      cases skip with
      | zero => exact .nil
      | succ skip => exact .nil
  | cons first rest ih =>
      cases skip with
      | succ skip => exact ih skip
      | zero =>
          rw [piecesFrom]
          split
          · next hdollar =>
              rw [hdollar]
              split
              · next piece used hreference =>
                  rw [List.flatMap_cons]
                  exact .reference (refers_of_reference? hreference) (ih used)
              · next hnone =>
                  refine .literal ?_ (ih 0)
                  intro meaning rest hrefers
                  rcases hrefers.reference? with ⟨piece, signs, _, _, hreference, _⟩
                  rw [hnone] at hreference
                  cases hreference
          · next hplain => exact .plain hplain (ih 0)

theorem reads_iff {template : Text} :
    Reads line found template text ↔ text = expand template line found := by
  have hexpand : Reads line found template (expand template line found) :=
    reads_piecesFrom 0 template
  constructor
  · intro h
    exact h.unique hexpand
  · intro h
    rw [h]
    exact hexpand

/-- A text with every dollar sign written twice. -/
def doubled (text : Text) : Text := text.flatMap fun c => if c = '$' then ['$', '$'] else [c]

theorem reads_doubled (text : Text) : Reads line found (doubled text) text := by
  induction text with
  | nil => exact .nil
  | cons c rest ih =>
      unfold doubled
      rw [List.flatMap_cons]
      split
      · next hdollar =>
          rw [hdollar]
          exact .reference .dollar ih
      · next hplain => exact .plain hplain ih

end Template
end LinePalette
