import LinePalette.Proofs.Editor.Searches
import LinePalette.Proofs.Text.Affixes
import LinePalette.Proofs.Text.Splitting

/-!
# Addresses

What the forms of an address stand for.  The right side of a two-sided address counts
from the line that the left side has come to.  A pattern there finds lines behind that
line only, so that it cannot turn a range around.
-/

namespace LinePalette
namespace Address

variable {lines : List Text} {text left right source : Text} {reference cursor number : Int}
  {wrap : Wrap} {range : LineRange} {pattern : Pattern}

/-!
# Single addresses
-/

theorem resolveOne_dot (lines : List Text) (reference : Int) (wrap : Wrap) :
    resolveOne lines ['.'] reference wrap = .ok (reference + 1) := rfl

theorem resolveOne_dollar (lines : List Text) (reference : Int) (wrap : Wrap) :
    resolveOne lines ['$'] reference wrap = .ok (lineNumber lines.length) := rfl

theorem resolveOne_number (h : leadingInteger? text = some number) :
    resolveOne lines text reference wrap = .ok number := by
  have hplain : ∀ other, leadingInteger? other = none -> text ≠ other := by
    rintro other hother rfl
    rw [hother] at h
    cases h
  have hhere : ¬(text = [] ∨ text = ['.']) := not_or.mpr ⟨hplain [] rfl, hplain ['.'] rfl⟩
  unfold resolveOne
  rw [if_neg hhere, if_neg (hplain ['$'] rfl), h]

theorem slashed?_eq_some_iff : slashed? text = some source ↔ text = '/' :: (source ++ ['/']) := by
  unfold slashed?
  rw [Option.bind_eq_some_iff]
  constructor
  · rintro ⟨rest, hlead, htail⟩
    rw [Text.stripLeading?_eq_some_iff.mp hlead, Text.stripTrailing?_eq_some_iff.mp htail]
    rfl
  · intro h
    exact ⟨source ++ ['/'], Text.stripLeading?_eq_some_iff.mpr h,
      Text.stripTrailing?_eq_some_iff.mpr rfl⟩

theorem leadingInteger?_slash (rest : Text) : leadingInteger? ('/' :: rest) = none := rfl

theorem resolveOne_slash (rest : Text) :
    resolveOne lines ('/' :: rest) reference wrap =
      (slashed? ('/' :: rest)).elim (.error .invalidAddress)
        fun source => search source lines reference wrap := by
  have hhere : ¬('/' :: rest = [] ∨ '/' :: rest = ['.']) := by
    rintro (hempty | hdot)
    · cases hempty
    · cases hdot
  have hlast : '/' :: rest ≠ ['$'] := by
    intro hdollar
    cases hdollar
  unfold resolveOne
  rw [if_neg hhere, if_neg hlast, leadingInteger?_slash]
  cases slashed? ('/' :: rest) with
  | none => rfl
  | some source => rfl

theorem resolveOne_pattern (source : Text) :
    resolveOne lines ('/' :: (source ++ ['/'])) reference wrap =
      search source lines reference wrap := by
  rw [resolveOne_slash, slashed?_eq_some_iff.mpr rfl]
  rfl

theorem resolveOne_unended {rest : Text} (h : '/' ∉ rest) :
    resolveOne lines ('/' :: rest) reference wrap = .error .invalidAddress := by
  have hnone : slashed? ('/' :: rest) = none := by
    apply Option.eq_none_iff_forall_not_mem.mpr
    intro source hsource
    cases slashed?_eq_some_iff.mp hsource
    exact h (List.mem_append_right source (List.mem_singleton_self '/'))
  rw [resolveOne_slash, hnone]
  rfl

theorem searchLine_ne_invalidRange :
    searchLine pattern lines reference wrap ≠ .error .invalidRange := by
  intro herror
  cases (searchLine_eq_error_iff.mp herror).left

theorem resolveOne_ne_invalidRange :
    resolveOne lines text reference wrap ≠ .error .invalidRange := by
  unfold resolveOne
  intro herror
  split at herror
  · cases herror
  · split at herror
    · cases herror
    · split at herror
      · cases herror
      · split at herror
        · unfold search at herror
          split at herror
          · cases herror
          · exact searchLine_ne_invalidRange herror
        · cases herror

/-!
# One-sided addresses
-/

theorem resolve_of_no_comma (hcomma : ',' ∉ text) (hempty : text ≠ []) (hpercent : text ≠ ['%'])
    (lines : List Text) (cursor : Nat) :
    resolve lines text cursor =
      (resolveOne lines text (lineNumber cursor) .around).map LineRange.single := by
  have hboth : text ≠ [','] := by
    intro htext
    rw [htext] at hcomma
    exact hcomma List.mem_cons_self
  have hwhole : ¬(text = [','] ∨ text = ['%']) := not_or.mpr ⟨hboth, hpercent⟩
  unfold resolve
  rw [if_neg hempty]
  simp only [if_neg hwhole, Text.splitOn_of_not_mem hcomma]

/-!
# Two-sided addresses
-/

/-- The address has these sides, where the first and the last line stand for empty ones. -/
def TwoSided (text left right : Text) : Prop :=
  text ≠ [','] ∧
    ∃ first second more,
      Text.splitOn ',' text = first :: second :: more ∧
      left = sideOr ['1'] first ∧ right = sideOr ['$'] second

theorem resolve_of_twoSided (h : TwoSided text left right) (lines : List Text) (cursor : Nat) :
    resolve lines text cursor = resolvePair lines left right (lineNumber cursor) := by
  rcases h with ⟨hwhole, first, second, more, hsplit, rfl, rfl⟩
  have hempty : text ≠ [] := by
    rintro rfl
    cases hsplit
  have hpercent : text ≠ ['%'] := by
    rintro rfl
    cases hsplit
  unfold resolve
  simp only [if_neg hempty, if_neg (not_or.mpr ⟨hwhole, hpercent⟩), hsplit]

theorem twoSided_append {first rest : Text} (hfirst : ',' ∉ first)
    (hwhole : first ++ ',' :: rest ≠ [',']) :
    ∃ right, TwoSided (first ++ ',' :: rest) (sideOr ['1'] first) right := by
  have hsplit := Text.splitOn_append_cons ',' first rest
  rw [Text.splitOn_of_not_mem hfirst] at hsplit
  cases hrest : Text.splitOn ',' rest with
  | nil => exact absurd hrest (Text.splitWhere_ne_nil _ rest)
  | cons second more =>
      rw [hrest] at hsplit
      exact ⟨_, hwhole, first, second, more, hsplit, rfl, rfl⟩

/-- A pair of sides is turned around just when both name lines, the right one's in front. -/
theorem resolvePair_eq_invalidRange_iff :
    resolvePair lines left right cursor = .error .invalidRange ↔
      ∃ start stop,
        resolveOne lines left cursor .around = .ok start ∧
        resolveOne lines right (start - 1) .stop = .ok stop ∧ stop < start := by
  constructor
  · intro hpair
    cases hleft : resolveOne lines left cursor .around with
    | error error =>
        rw [resolvePair_of_left_error hleft] at hpair
        cases hpair
        exact absurd hleft resolveOne_ne_invalidRange
    | ok start =>
        cases hright : resolveOne lines right (start - 1) .stop with
        | error error =>
            rw [resolvePair_of_right_error hleft hright] at hpair
            cases hpair
            exact absurd hright resolveOne_ne_invalidRange
        | ok stop =>
            rw [resolvePair_of_sides hleft hright] at hpair
            split at hpair
            · next horder => exact ⟨start, stop, rfl, hright, horder⟩
            · cases hpair
  · rintro ⟨start, stop, hleft, hright, horder⟩
    rw [resolvePair_of_sides hleft hright, if_pos horder]

theorem twoSided_of_invalidRange {cursor : Nat}
    (h : resolve lines text cursor = .error .invalidRange) :
    ∃ left right, TwoSided text left right := by
  unfold resolve at h
  simp only at h
  split at h
  · cases h
  · split at h
    · cases h
    · next hwhole =>
        split at h
        · next first second more hsplit =>
            exact ⟨_, _, (not_or.mp hwhole).left, first, second, more, hsplit, rfl, rfl⟩
        · cases hone : resolveOne lines text (lineNumber cursor) .around with
          | error error =>
              rw [hone] at h
              cases h
              exact absurd hone resolveOne_ne_invalidRange
          | ok line =>
              rw [hone] at h
              cases h

/-!
# Patterns on the right side
-/

theorem firstLine_max_iff {start : Int} {index : Nat} :
    pattern.FirstLine lines (max start 0) index ↔ pattern.FirstLine lines start index := by
  unfold Pattern.FirstLine
  simp only [Int.max_le, Int.natCast_nonneg, and_true]

theorem resolveOne_right_pattern {start : Int} (hlines : lines.length ≤ maxLineNumber)
    (hpattern : Pattern.compile source = .ok pattern) :
    resolveOne lines ('/' :: (source ++ ['/'])) (start - 1) .stop = .ok number ↔
      ∃ index, pattern.FirstLine lines (max start 0) index ∧ number = index + 1 := by
  rw [resolveOne_pattern, search_stop_eq_ok_iff hpattern hlines, Int.sub_add_cancel]
  simp only [firstLine_max_iff]

theorem resolveOne_right_pattern_noMatch {start : Int}
    (hpattern : Pattern.compile source = .ok pattern) :
    resolveOne lines ('/' :: (source ++ ['/'])) (start - 1) .stop = .error .noMatch ↔
      ∀ index : Nat, max start 0 ≤ index -> ¬pattern.MatchesLine lines index := by
  rw [resolveOne_pattern, search_of_compile hpattern, searchLine_stop_eq_error_iff,
    Int.sub_add_cancel]
  simp only [Int.max_le, Int.natCast_nonneg, and_true]

section RightPattern

variable {start : Int} (hlines : lines.length ≤ maxLineNumber)
  (hpattern : Pattern.compile source = .ok pattern)
  (hleft : resolveOne lines left cursor .around = .ok start)

include hlines hpattern hleft

theorem resolvePair_right_pattern :
    resolvePair lines left ('/' :: (source ++ ['/'])) cursor =
      (resolveOne lines ('/' :: (source ++ ['/'])) (start - 1) .stop).map fun stop =>
        { start := start, stop := stop } := by
  cases hright : resolveOne lines ('/' :: (source ++ ['/'])) (start - 1) .stop with
  | error error =>
      rw [resolvePair_of_right_error hleft hright]
      rfl
  | ok stop =>
      rcases (resolveOne_right_pattern hlines hpattern).mp hright with ⟨index, hfirst, rfl⟩
      have hplace : start ≤ index := (firstLine_max_iff.mp hfirst).left
      have horder : ¬(index : Int) + 1 < start :=
        Int.not_lt.mpr (Int.le_trans hplace (Int.le_of_lt (Int.lt_succ index)))
      rw [resolvePair_of_sides hleft hright, if_neg horder]
      rfl

theorem resolvePair_right_pattern_eq_ok_iff :
    resolvePair lines left ('/' :: (source ++ ['/'])) cursor = .ok range ↔
      range.start = start ∧
      ∃ index : Nat, pattern.FirstLine lines (max start 0) index ∧ range.stop = index + 1 := by
  rw [resolvePair_right_pattern hlines hpattern hleft,
    ← resolveOne_right_pattern hlines hpattern]
  cases resolveOne lines ('/' :: (source ++ ['/'])) (start - 1) .stop with
  | error error =>
      constructor
      · intro hrange
        cases hrange
      · rintro ⟨_, hstop⟩
        cases hstop
  | ok stop =>
      constructor
      · intro hrange
        cases hrange
        exact ⟨rfl, rfl⟩
      · rintro ⟨rfl, hstop⟩
        cases hstop
        rfl

theorem resolvePair_right_pattern_eq_error_iff {error : EditError} :
    resolvePair lines left ('/' :: (source ++ ['/'])) cursor = .error error ↔
      resolveOne lines ('/' :: (source ++ ['/'])) (start - 1) .stop = .error error := by
  rw [resolvePair_right_pattern hlines hpattern hleft]
  cases resolveOne lines ('/' :: (source ++ ['/'])) (start - 1) .stop with
  | error other =>
      constructor
      · intro herror
        cases herror
        rfl
      · intro herror
        cases herror
        rfl
  | ok stop =>
      constructor
      · intro herror
        cases herror
      · intro herror
        cases herror

end RightPattern

/--
The range of an address is in order.  The sides of a two-sided address are taken one after
the other, the left one from the cursor and the right one from the line of the left one, and
only if that puts the right one in front is the range refused for its order.  A pattern on
the right side names the first line with a match behind that of the left side, if there is
one, and so never one at or in front of it.
-/
theorem resolved_ranges_are_in_order {cursor : Nat} (hlines : lines.length ≤ maxLineNumber)
    (hcursor : cursor ≤ lines.length - 1) (text : Text) :
    (∀ range, resolve lines text cursor = .ok range -> range.start ≤ range.stop) ∧
    (resolve lines text cursor = .error .invalidRange ↔
      ∃ left right start stop,
        TwoSided text left right ∧
        resolveOne lines left cursor .around = .ok start ∧
        resolveOne lines right (start - 1) .stop = .ok stop ∧ stop < start) ∧
    ∀ left right, TwoSided text left right ->
      (∀ range,
        resolve lines text cursor = .ok range ↔
          resolveOne lines left cursor .around = .ok range.start ∧
          resolveOne lines right (range.start - 1) .stop = .ok range.stop ∧
          range.start ≤ range.stop) ∧
      ∀ start, resolveOne lines left cursor .around = .ok start ->
        (right = ['.'] -> resolveOne lines right (start - 1) .stop = .ok start) ∧
        (right = ['$'] -> resolveOne lines right (start - 1) .stop = .ok lines.length) ∧
        (∀ number, leadingInteger? right = some number ->
          resolveOne lines right (start - 1) .stop = .ok number) ∧
        ∀ source pattern,
          right = '/' :: (source ++ ['/']) -> Pattern.compile source = .ok pattern ->
          (∀ stop,
            resolve lines text cursor = .ok { start := start, stop := stop } ↔
              ∃ index : Nat,
                pattern.FirstLine lines (max start 0) index ∧ stop = index + 1) ∧
          (∀ range, resolve lines text cursor = .ok range ->
            range.start = start ∧ max start 0 < range.stop) ∧
          (resolve lines text cursor = .error .noMatch ↔
            ∀ index : Nat, max start 0 ≤ index -> ¬pattern.MatchesLine lines index) ∧
          resolve lines text cursor ≠ .error .invalidRange := by
  have hnumber : lineNumber cursor = cursor := lineNumber_of_le (by omega)
  refine ⟨?_, ?_, ?_⟩
  · intro range hrange
    exact (resolve_resolved hrange).start_le_stop
  · constructor
    · intro hturned
      rcases twoSided_of_invalidRange hturned with ⟨left, right, hsides⟩
      rw [resolve_of_twoSided hsides, hnumber] at hturned
      rcases resolvePair_eq_invalidRange_iff.mp hturned with ⟨start, stop, hpair⟩
      exact ⟨left, right, start, stop, hsides, hpair⟩
    · rintro ⟨left, right, start, stop, hsides, hpair⟩
      rw [resolve_of_twoSided hsides, hnumber]
      exact resolvePair_eq_invalidRange_iff.mpr ⟨start, stop, hpair⟩
  · intro left right hsides
    rw [resolve_of_twoSided hsides, hnumber]
    constructor
    · intro range
      exact resolvePair_eq_ok_iff
    · intro start hleft
      refine ⟨?_, ?_, ?_, ?_⟩
      · rintro rfl
        rw [resolveOne_dot, Int.sub_add_cancel]
      · rintro rfl
        rw [resolveOne_dollar, lineNumber_of_le hlines]
      · intro number hright
        exact resolveOne_number hright
      · rintro source pattern rfl hpattern
        refine ⟨?_, ?_, ?_, ?_⟩
        · intro stop
          rw [resolvePair_right_pattern_eq_ok_iff hlines hpattern hleft]
          exact and_iff_right rfl
        · intro range hrange
          rcases (resolvePair_right_pattern_eq_ok_iff hlines hpattern hleft).mp hrange with
            ⟨hstart, index, hfirst, hstop⟩
          refine ⟨hstart, ?_⟩
          rw [hstop]
          exact Int.lt_add_one_of_le hfirst.left
        · rw [resolvePair_right_pattern_eq_error_iff hlines hpattern hleft]
          exact resolveOne_right_pattern_noMatch hpattern
        · intro hturned
          have hright :=
            (resolvePair_right_pattern_eq_error_iff hlines hpattern hleft).mp hturned
          exact resolveOne_ne_invalidRange hright

/-- A pattern finds the last line from the first one, and nothing behind the last one. -/
theorem resolved_ranges_are_in_order_searching :
    let lines : List Text := [['a'], ['b'], ['a']]
    (lines.length ≤ maxLineNumber ∧ 1 ≤ lines.length - 1 ∧
        TwoSided "1,/a/".toList ['1'] "/a/".toList) ∧
      resolve lines "1,/a/".toList 1 = .ok { start := 1, stop := 3 } ∧
      resolve lines "3,/a/".toList 1 = .error .noMatch := by
  intro lines
  have hmatches : (Pattern.compile ['a']).toOption.map
      (fun pattern => lines.map pattern.isMatch) = some [true, false, true] := by decide +kernel
  rcases Pattern.exists_of_isMatch_eq hmatches with ⟨pattern, hpattern, hline⟩
  have hlines : lines.length ≤ maxLineNumber := by decide
  have hcursor : 1 ≤ lines.length - 1 := by decide
  have hfirst : TwoSided "1,/a/".toList ['1'] "/a/".toList :=
    ⟨by decide, ['1'], "/a/".toList, [], rfl, rfl, rfl⟩
  have hthird : TwoSided "3,/a/".toList ['3'] "/a/".toList :=
    ⟨by decide, ['3'], "/a/".toList, [], rfl, rfl, rfl⟩
  refine ⟨⟨hlines, hcursor, hfirst⟩, ?_, ?_⟩
  · rcases resolved_ranges_are_in_order hlines hcursor "1,/a/".toList with ⟨_, _, hsides⟩
    rcases (hsides _ _ hfirst).right 1 rfl with ⟨_, _, _, hright⟩
    apply ((hright ['a'] pattern rfl hpattern).left 3).mpr
    refine ⟨2, ⟨by decide, (hline 2).mpr rfl, ?_⟩, rfl⟩
    intro earlier hone hearlier
    have hearlier : earlier = 1 := by omega
    rw [hearlier, hline]
    decide
  · rcases resolved_ranges_are_in_order hlines hcursor "3,/a/".toList with ⟨_, _, hsides⟩
    rcases (hsides _ _ hthird).right 3 rfl with ⟨_, _, _, hright⟩
    apply (hright ['a'] pattern rfl hpattern).2.2.1.mpr
    intro index hindex hmatch
    have hlength := hmatch.lt_length
    have hthree : index < 3 := hlength
    omega

end Address
end LinePalette
