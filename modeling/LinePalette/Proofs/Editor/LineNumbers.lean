import LinePalette.Proofs.Editor.Addresses
import LinePalette.Proofs.Editor.Agreement
import LinePalette.Proofs.Editor.Ranges
import LinePalette.Proofs.Json.Numbers
import LinePalette.Proofs.Text.Blanks

/-!
# Line numbers

Line numbers are words of 64 bits with a sign.  An address is counted out before anybody
looks whether its lines exist, and the range of a pending edit waits until its text has
been typed.  No number leaves the words on that way: a number in an address is refused
when it is too large for a line number, so that a range reaches no further below the first
line than line numbers reach above it, and there is room to go one line further down.
-/

namespace LinePalette

/-!
# Words
-/

theorem InPlace.whole_maxLineNumber (n : Int) :
    InPlace.whole maxLineNumber n =
      if Int64.minValue.toInt ≤ n ∧ n ≤ Int64.maxValue.toInt then pure n
      else throw .arithmetic := by
  have hlow : Int64.minValue.toInt = -(maxLineNumber : Int) - 1 := rfl
  have hhigh : Int64.maxValue.toInt = maxLineNumber := rfl
  rw [hlow, hhigh]
  rfl

/-!
# Ranges
-/

namespace LineRange

variable {range : LineRange} {length first last : Nat}

structure InWords (range : LineRange) : Prop where
  low : -(maxLineNumber : Int) ≤ range.start
  order : range.start ≤ range.stop
  high : range.stop ≤ maxLineNumber

theorem indices_of_within_bounds (h : range.Within length) :
    ∃ first last,
      range.indices length = .ok (first, last) ∧
      (first : Int) = range.start - 1 ∧ (last : Int) = range.stop - 1 ∧
      first ≤ last ∧ last < length := by
  have hends := indices_of_within h
  rcases indices_ok hends with ⟨hstart, hstop⟩
  rcases indices_bounds hends with ⟨horder, hlast⟩
  exact ⟨_, _, hends, (Int.sub_eq_iff_eq_add.mpr hstart).symm,
    (Int.sub_eq_iff_eq_add.mpr hstop).symm, horder, hlast⟩

end LineRange

/-!
# Numbers in addresses
-/

namespace Address

variable {lines : List Text} {text digits : Text} {negative : Bool} {cursor : Nat}

inductive Sign : Text -> Bool -> Prop where
  | plain : Sign [] false
  | plus : Sign ['+'] false
  | minus : Sign ['-'] true

/-- The text starts with a number: there are blanks, a sign perhaps, and then the digits up to
the next character that is none. -/
inductive Numeral : Text -> Bool -> Text -> Prop where
  | parts {blanks sign digits rest : Text} {negative : Bool} :
      (∀ c ∈ blanks, Text.isBlank c = true) -> Sign sign negative -> Json.IsDigits digits ->
      Json.StopsAt Char.isDigit rest ->
      Numeral (blanks ++ (sign ++ (digits ++ rest))) negative digits

def signedValue (negative : Bool) (digits : Text) : Int :=
  if negative then -(Text.decimalValue digits : Int) else Text.decimalValue digits

theorem exists_first_digit (h : Json.IsDigits digits) (rest : Text) :
    ∃ c later, digits ++ rest = c :: later ∧ c.isDigit = true := by
  cases digits with
  | nil => exact absurd rfl h.left
  | cons c later => exact ⟨c, later ++ rest, rfl, h.right c List.mem_cons_self⟩

theorem Numeral.leadingInteger?_eq (h : Numeral text negative digits) :
    leadingInteger? text =
      if maxLineNumber < Text.decimalValue digits then none
      else some (signedValue negative digits) := by
  cases h with
  | @parts blanks sign _ rest _ hblanks hsign hdigits hrest =>
      have htake : (digits ++ rest).takeWhile Char.isDigit = digits :=
        Json.digitsOf_append hdigits.right hrest
      unfold leadingInteger? Text.trimStart
      rw [List.dropWhile_append_of_pos hblanks]
      cases hsign with
      | plus =>
          rw [List.singleton_append, List.dropWhile_cons_of_neg Bool.false_ne_true]
          simp only [htake, hdigits.isEmpty, Bool.false_eq_true, false_or]
          rfl
      | minus =>
          rw [List.singleton_append, List.dropWhile_cons_of_neg Bool.false_ne_true]
          simp only [htake, hdigits.isEmpty, Bool.false_eq_true, false_or]
          rfl
      | plain =>
          rcases exists_first_digit hdigits rest with ⟨c, later, hhead, hc⟩
          have hblank := Bool.eq_false_iff.mp (Text.isBlank_of_isDigit hc)
          rw [List.nil_append, hhead, List.dropWhile_cons_of_neg hblank]
          split
          next number unsigned hsigned =>
            -- a digit is no sign, so nothing is taken off
            split at hsigned
            · next heq =>
                cases heq
                cases hc
            · next heq =>
                cases heq
                cases hc
            · cases hsigned
              rw [← hhead]
              simp only [htake, hdigits.isEmpty, Bool.false_eq_true, false_or]
              rfl

theorem Numeral.ne_of_no_digit {other : Text} (h : Numeral text negative digits)
    (hother : other.all (fun c => !c.isDigit) = true) : text ≠ other := by
  intro htext
  cases h with
  | @parts blanks sign _ rest _ _ _ hdigits _ =>
      rcases exists_first_digit hdigits rest with ⟨c, later, hhead, hc⟩
      have hmem : c ∈ other := by
        rw [← htext, hhead]
        exact List.mem_append_right _ (List.mem_append_right _ List.mem_cons_self)
      have hnone := List.all_eq_true.mp hother c hmem
      rw [hc] at hnone
      cases hnone

theorem Numeral.slashed?_eq_none (h : Numeral text negative digits) : slashed? text = none := by
  apply Option.eq_none_iff_forall_not_mem.mpr
  intro source hsource
  have hslash := slashed?_eq_some_iff.mp hsource
  cases h with
  | @parts blanks sign _ rest _ hblanks hsign hdigits _ =>
      cases blanks with
      | cons c later =>
          rw [(List.cons.inj hslash).left] at hblanks
          cases hblanks '/' List.mem_cons_self
      | nil =>
          cases hsign with
          | plus => cases hslash
          | minus => cases hslash
          | plain =>
              rcases exists_first_digit hdigits rest with ⟨c, later, hhead, hc⟩
              rw [List.nil_append, List.nil_append, hhead] at hslash
              rw [(List.cons.inj hslash).left] at hc
              cases hc

/-- A number is what its digits and its sign say, unless it is too large for a line number. -/
theorem Numeral.resolveOne_eq (h : Numeral text negative digits) (lines : List Text)
    (reference : Int) (wrap : Wrap) :
    resolveOne lines text reference wrap =
      if maxLineNumber < Text.decimalValue digits then .error .invalidAddress
      else .ok (signedValue negative digits) := by
  have hhere : ¬(text = [] ∨ text = ['.']) :=
    not_or.mpr ⟨h.ne_of_no_digit rfl, h.ne_of_no_digit rfl⟩
  unfold resolveOne
  rw [if_neg hhere, if_neg (h.ne_of_no_digit rfl), h.leadingInteger?_eq, h.slashed?_eq_none]
  by_cases hlarge : maxLineNumber < Text.decimalValue digits
  · rw [if_pos hlarge, if_pos hlarge]
  · rw [if_neg hlarge, if_neg hlarge]

def TooLarge (text : Text) : Prop :=
  ∃ negative digits, Numeral text negative digits ∧ maxLineNumber < Text.decimalValue digits

theorem TooLarge.ne_of_no_digit {other : Text} (h : TooLarge text)
    (hother : other.all (fun c => !c.isDigit) = true) : text ≠ other := by
  rcases h with ⟨negative, digits, hnumeral, _⟩
  exact hnumeral.ne_of_no_digit hother

theorem TooLarge.resolveOne_eq (h : TooLarge text) (lines : List Text) (reference : Int)
    (wrap : Wrap) : resolveOne lines text reference wrap = .error .invalidAddress := by
  rcases h with ⟨negative, digits, hnumeral, hlarge⟩
  rw [hnumeral.resolveOne_eq, if_pos hlarge]

/-- Resolving the address comes to a number that is too large for a line number. -/
inductive Exceeds (lines : List Text) (cursor : Nat) (text : Text) : Prop where
  | alone : ',' ∉ text -> TooLarge text -> Exceeds lines cursor text
  | left {left right : Text} : TwoSided text left right -> TooLarge left ->
      Exceeds lines cursor text
  | right {left right : Text} {start : Int} : TwoSided text left right ->
      resolveOne lines left (lineNumber cursor) .around = .ok start -> TooLarge right ->
      Exceeds lines cursor text

theorem Exceeds.resolve_eq (h : Exceeds lines cursor text) :
    resolve lines text cursor = .error .invalidAddress := by
  cases h with
  | alone hcomma hlarge =>
      have hresolve := resolve_of_no_comma hcomma (hlarge.ne_of_no_digit rfl)
        (hlarge.ne_of_no_digit rfl) lines cursor
      rw [hresolve, hlarge.resolveOne_eq]
      rfl
  | left hsides hlarge =>
      rw [resolve_of_twoSided hsides]
      exact resolvePair_of_left_error (hlarge.resolveOne_eq _ _ _)
  | right hsides hleft hlarge =>
      rw [resolve_of_twoSided hsides]
      exact resolvePair_of_right_error hleft (hlarge.resolveOne_eq _ _ _)

/-!
# Resolved ranges
-/

theorem resolve_stop_le {range : LineRange} {limit : Nat} (hmax : maxLineNumber ≤ limit)
    (hlines : lines.length ≤ limit) (hcursor : cursor ≤ lines.length - 1)
    (h : resolve lines text cursor = .ok range) : range.stop ≤ limit := by
  have hone : 1 ≤ maxLineNumber := by decide
  have hhere : lineNumber cursor + 1 ≤ limit := by
    have hnumber := lineNumber_le cursor
    omega
  unfold resolve at h
  simp only at h
  split at h
  · cases h
    exact hhere
  · split at h
    · have hlast := lineNumber_le lines.length
      cases h
      show max (lineNumber lines.length) 1 ≤ (limit : Int)
      omega
    · split at h
      · rcases resolvePair_eq_ok_iff.mp h with ⟨hleft, hright, _⟩
        have hstart := resolveOne_le hmax hlines hhere hleft
        rw [← Int.sub_add_cancel range.start 1] at hstart
        exact resolveOne_le hmax hlines hstart hright
      · cases hline : resolveOne lines text (lineNumber cursor) .around with
        | error error =>
            rw [hline] at h
            cases h
        | ok line =>
            rw [hline] at h
            cases h
            exact resolveOne_le hmax hlines hhere hline

end Address

/-!
# Pending edits
-/

namespace Editor

variable {editor after : Editor} {line tail : Text} {range : LineRange} {letter : Char}
  {outcome : Outcome}

/-- A pending edit reaches no further than line numbers and the buffer reach. -/
def PendingNear (editor : Editor) : Prop :=
  ∀ edit, editor.mode = .typing edit ->
    edit.range.stop ≤ (max maxLineNumber editor.buffer.length : Nat)

theorem pendingNear_of_command (h : editor.mode = .command) : editor.PendingNear := by
  intro edit hedit
  rw [h] at hedit
  cases hedit

theorem Performed.mode_cases (h : Performed editor range tail letter outcome after) :
    after.mode = editor.mode ∨
      after.buffer = editor.buffer ∧
        ∃ kind, after.mode = .typing { kind := kind, range := range, lines := [] } := by
  cases h with
  | append => exact Or.inr ⟨rfl, .append, rfl⟩
  | insert => exact Or.inr ⟨rfl, .insert, rfl⟩
  | change => exact Or.inr ⟨rfl, .change, rfl⟩
  | _ => exact Or.inl rfl

theorem attempted_pendingNear (hsound : editor.Sound) (h : editor.PendingNear)
    (hattempted : Attempted editor line outcome after) : after.PendingNear := by
  cases hattempted with
  | stepped hmode _ _ => exact pendingNear_of_command hmode
  | performed hmode _ hrange hperformed =>
      rcases hperformed.mode_cases with hsame | ⟨hbuffer, kind, hbegun⟩
      · exact pendingNear_of_command (hsame.trans hmode)
      · intro edit hedit
        rw [hbegun] at hedit
        cases hedit
        rw [hbuffer]
        exact Address.resolve_stop_le (Nat.le_max_left _ _) (Nat.le_max_right _ _)
          hsound.cursor_le hrange
  | typed hmode _ =>
      have hbefore := h _ hmode
      intro edit hedit
      cases hedit
      exact hbefore
  | committed _ _ hedit =>
      rcases applyEdit_ok hedit with ⟨buffer, cursor, rfl⟩
      exact pendingNear_of_command rfl

theorem process_pendingNear (hsound : editor.Sound) (h : editor.PendingNear) (line : Text) :
    (editor.process line).2.PendingNear := by
  rcases process_cases editor line with ⟨error, hfailed⟩ | hattempted
  · rw [hfailed]
    exact pendingNear_of_command rfl
  · exact attempted_pendingNear hsound h hattempted

theorem Reachable.pendingNear (h : editor.Reachable) : editor.PendingNear := by
  induction h with
  | start lines options => exact pendingNear_of_command rfl
  | process line hbefore ih => exact process_pendingNear hbefore.sound ih line
  | moveTo line _ ih => exact ih

theorem process_exceeds {command : Command} (hmode : editor.mode = .command)
    (hparse : Command.parse? (Text.trim line) = some command)
    (hlarge : Address.Exceeds editor.buffer editor.cursor command.address) :
    editor.process line = editor.fail .invalidAddress := by
  rw [process_parsed hmode hparse, hlarge.resolve_eq]
  rfl

/--
Every line is answered with numbers of 64 bits just as it is with numbers of any size, though
editing in place halts at a number that 64 bits do not hold.  The range of an address and
that of a pending edit have both their ends among the line numbers and their negatives.  A
number in an address is the one that its digits say, however many there are, or it is refused
because it is larger than any line number.  Indices come of the ranges that lie between the
first line and the last, and of no others.
-/
theorem line_numbers_stay_in_words (h : editor.Reachable)
    (hlines : editor.buffer.length ≤ maxLineNumber) :
    (∀ n,
      InPlace.whole maxLineNumber n =
        if Int64.minValue.toInt ≤ n ∧ n ≤ Int64.maxValue.toInt then pure n
        else throw .arithmetic) ∧
    (∀ line,
      InPlace.process maxLineNumber line editor =
        .ok (editor.process line).1 (editor.process line).2) ∧
    (∀ text range,
      Address.resolve editor.buffer text editor.cursor = .ok range -> range.InWords) ∧
    (∀ edit, editor.mode = .typing edit -> edit.range.InWords) ∧
    (∀ text negative digits, Address.Numeral text negative digits -> ∀ reference wrap,
      Address.resolveOne editor.buffer text reference wrap =
        if maxLineNumber < Text.decimalValue digits then .error .invalidAddress
        else .ok (Address.signedValue negative digits)) ∧
    (∀ line command, editor.mode = .command -> Command.parse? (Text.trim line) = some command ->
      Address.Exceeds editor.buffer editor.cursor command.address ->
      editor.process line = editor.fail .invalidAddress) ∧
    ∀ (range : LineRange) (length : Nat),
      (1 ≤ range.start ∧ range.start ≤ range.stop ∧
          range.stop ≤ (min length maxLineNumber : Nat) ->
        ∃ first last,
          range.indices length = .ok (first, last) ∧
          (first : Int) = range.start - 1 ∧ (last : Int) = range.stop - 1 ∧
          first ≤ last ∧ last < length) ∧
      (¬(1 ≤ range.start ∧ range.start ≤ range.stop ∧
          range.stop ≤ (min length maxLineNumber : Nat)) ->
        range.indices length = .error .invalidAddress) := by
  have hsound := h.sound
  have hlimit : max maxLineNumber editor.buffer.length = maxLineNumber := Nat.max_eq_left hlines
  refine ⟨?_, ?_, ?_, ?_, ?_, ?_, ?_⟩
  · exact InPlace.whole_maxLineNumber
  · intro line
    exact InPlace.process_eq ⟨Nat.le_refl _, hlines⟩ hsound line
  · intro text range hrange
    have hresolved := Address.resolve_resolved hrange
    have hhigh := Address.resolve_stop_le (Nat.le_refl _) hlines hsound.cursor_le hrange
    exact ⟨hresolved.start_low, hresolved.start_le_stop, hhigh⟩
  · intro edit hmode
    have hresolved := (hsound.pending edit hmode).resolved
    have hhigh := h.pendingNear edit hmode
    rw [hlimit] at hhigh
    exact ⟨hresolved.start_low, hresolved.start_le_stop, hhigh⟩
  · intro text negative digits hnumeral reference wrap
    exact hnumeral.resolveOne_eq editor.buffer reference wrap
  · intro line command hmode hparse hlarge
    exact process_exceeds hmode hparse hlarge
  · intro range length
    constructor
    · exact LineRange.indices_of_within_bounds
    · exact LineRange.indices_of_not_within

/-- An insertion as far down as a number can lead, and a number that is one too large. -/
theorem line_numbers_stay_in_words_lowest :
    let ready := start [['a']] Options.default
    let begun := (ready.process "-9223372036854775807i".toList).2
    let lowest := LineRange.single (-9223372036854775807)
    (begun.Reachable ∧ begun.buffer.length ≤ maxLineNumber) ∧
      begun.mode = .typing { kind := .insert, range := lowest, lines := [] } ∧
      lowest.InWords ∧
      InPlace.process maxLineNumber ['.'] begun = .ok (.output []) ready ∧
      ready.process "1,+9223372036854775808p".toList = ready.fail .invalidAddress := by
  intro ready begun lowest
  have hready : ready.Reachable := Reachable.start _ _
  have hbegun : begun.Reachable := hready.process _
  have hlines : ready.buffer.length ≤ maxLineNumber := by decide
  have hmode : begun.mode = .typing { kind := .insert, range := lowest, lines := [] } := rfl
  obtain ⟨_, hprocess, _, hpending, _⟩ := line_numbers_stay_in_words hbegun hlines
  obtain ⟨_, _, _, _, _, hexceeds, _⟩ := line_numbers_stay_in_words hready hlines
  have hlarge : Address.TooLarge "+9223372036854775808".toList := by
    refine ⟨false, "9223372036854775808".toList, ?_, by decide⟩
    show Address.Numeral ([] ++ (['+'] ++ ("9223372036854775808".toList ++ []))) _ _
    apply Address.Numeral.parts (List.forall_mem_nil _) .plus (by decide)
    intro c hc
    cases hc
  refine ⟨⟨hbegun, hlines⟩, hmode, hpending _ hmode, hprocess ['.'], ?_⟩
  apply hexceeds _ { address := "1,+9223372036854775808".toList, letter := 'p', tail := [] } rfl rfl
  exact .right ⟨by decide, _, _, _, rfl, rfl, rfl⟩ rfl hlarge

example :
    InPlace.process (maxLineNumber - 1) "-9223372036854775807,1p".toList
        (start [['a']] Options.default) =
      .error .arithmetic (start [['a']] Options.default) := rfl

end Editor
end LinePalette
