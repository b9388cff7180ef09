import LinePalette.Proofs.Editor.Bounds
import LinePalette.Proofs.Pattern.Matches

/-!
# Searches

A search tries the lines behind its reference one after the other.  When it may go on
from the first line it comes once around all lines, to the one it started from last,
and finds the nearest line with a match that there is.  Otherwise it finds the first
one behind its reference, and a match further up is of no use to it.
-/

namespace LinePalette

/-!
# Lines with a match
-/

namespace Pattern

variable {pattern : Pattern} {lines : List Text} {index : Nat}

def MatchesLine (pattern : Pattern) (lines : List Text) (index : Nat) : Prop :=
  ∃ line, lines[index]? = some line ∧ pattern.isMatch line = true

/--
The line with that index is the first one with a match on the way around all lines that
begins behind the cursor; behind the last line comes the first.
-/
def NearestLine (pattern : Pattern) (lines : List Text) (cursor index : Nat) : Prop :=
  ∃ steps,
    1 ≤ steps ∧ steps ≤ lines.length ∧ index = (cursor + steps) % lines.length ∧
    pattern.MatchesLine lines index ∧
    ∀ fewer, 1 ≤ fewer -> fewer < steps ->
      ¬pattern.MatchesLine lines ((cursor + fewer) % lines.length)

/-- The line with that index is the first one with a match from a place on. -/
def FirstLine (pattern : Pattern) (lines : List Text) (place : Int) (index : Nat) : Prop :=
  place ≤ index ∧ pattern.MatchesLine lines index ∧
    ∀ earlier : Nat, place ≤ earlier -> earlier < index -> ¬pattern.MatchesLine lines earlier

theorem matchesLine_iff :
    pattern.MatchesLine lines index ↔ (lines[index]?).any pattern.isMatch = true :=
  (Option.any_eq_true pattern.isMatch lines[index]?).symm

theorem matchesLine_iff_getElem?_map :
    pattern.MatchesLine lines index ↔ (lines.map pattern.isMatch)[index]? = some true := by
  rw [List.getElem?_map, Option.map_eq_some_iff]
  rfl

theorem exists_of_isMatch_eq {source : Text} {found : List Bool}
    (h : (compile source).toOption.map (fun pattern => lines.map pattern.isMatch) = some found) :
    ∃ pattern, compile source = .ok pattern ∧
      ∀ index, pattern.MatchesLine lines index ↔ found[index]? = some true := by
  rcases exists_of_map_compile_eq h with ⟨pattern, hpattern, hfound⟩
  refine ⟨pattern, hpattern, ?_⟩
  intro index
  rw [matchesLine_iff_getElem?_map, hfound]

theorem MatchesLine.lt_length (h : pattern.MatchesLine lines index) : index < lines.length := by
  rcases h with ⟨line, hline, _⟩
  exact (List.getElem?_eq_some_iff.mp hline).1

theorem NearestLine.matchesLine {cursor : Nat} (h : pattern.NearestLine lines cursor index) :
    pattern.MatchesLine lines index := by
  rcases h with ⟨_, _, _, _, hmatch, _⟩
  exact hmatch

theorem forall_not_matchesLine_iff :
    (∀ index, ¬pattern.MatchesLine lines index) ↔
      ∀ line ∈ lines, pattern.isMatch line = false := by
  constructor
  · intro hnone line hline
    rcases List.mem_iff_getElem?.mp hline with ⟨index, hindex⟩
    apply Bool.eq_false_iff.mpr
    intro hmatch
    exact hnone index ⟨line, hindex, hmatch⟩
  · rintro hnone index ⟨line, hindex, hmatch⟩
    have hline : line ∈ lines := List.mem_iff_getElem?.mpr ⟨index, hindex⟩
    rw [hnone line hline] at hmatch
    cases hmatch

end Pattern

namespace Address

variable {pattern : Pattern} {lines : List Text} {length cursor index : Nat}
  {reference number : Int} {wrap : Wrap}

/-!
# The order of a search
-/

theorem searchOrder_stop (length : Nat) (reference : Int) :
    searchOrder length reference .stop =
      List.range' (reference + 1).toNat (length - (reference + 1).toNat) :=
  List.append_nil _

theorem searchOrder_around (h : cursor < length) :
    searchOrder length cursor .around =
      List.range' (cursor + 1) (length - (cursor + 1)) ++ List.range (cursor + 1) := by
  have hbehind : ((cursor : Int) + 1).toNat = cursor + 1 := rfl
  have hwrapped : ¬(cursor : Int) < 0 := Int.not_lt.mpr (Int.natCast_nonneg cursor)
  unfold searchOrder
  simp only [hbehind, if_neg hwrapped, Nat.min_eq_left h]

theorem nodup_searchOrder_around (h : cursor < length) :
    (searchOrder length cursor .around).Nodup := by
  rw [searchOrder_around h]
  apply List.nodup_append.mpr
  refine ⟨List.nodup_range' 1, List.nodup_range, ?_⟩
  intro behind hbehind wrapped hwrapped
  have hlow := (List.mem_range'_1.mp hbehind).left
  have hhigh := List.mem_range.mp hwrapped
  exact Nat.ne_of_gt (Nat.lt_of_lt_of_le hhigh hlow)

theorem mem_searchOrder_around_iff (h : cursor < length) :
    index ∈ searchOrder length cursor .around ↔ index < length := by
  constructor
  · exact mem_searchOrder
  · intro hindex
    rw [searchOrder_around h, List.mem_append, List.mem_range'_1, List.mem_range]
    omega

theorem getLast?_searchOrder_around (h : cursor < length) :
    (searchOrder length cursor .around).getLast? = some cursor := by
  rw [searchOrder_around h, List.getLast?_append, List.getLast?_range]
  rfl

theorem searchOrder_around_eq_map (h : cursor ≤ length - 1) :
    searchOrder length cursor .around =
      (List.range' 1 length).map fun steps => (cursor + steps) % length := by
  cases length with
  | zero =>
      have hcursor : cursor = 0 := Nat.le_zero.mp h
      rw [hcursor]
      rfl
  | succ last =>
      have hlength : cursor < last + 1 := Nat.lt_succ_of_le h
      have hsplit : List.range' 1 (last + 1) =
          List.range' 1 (last - cursor) ++ List.range' (1 + (last - cursor)) (cursor + 1) := by
        rw [List.range'_append_1, ← Nat.add_assoc, Nat.sub_add_cancel (Nat.le_of_lt_succ hlength)]
      have hbehind : (List.range' 1 (last - cursor)).map
          (fun steps => (cursor + steps) % (last + 1)) =
          List.range' (cursor + 1) (last - cursor) := by
        rw [← List.map_add_range']
        apply List.map_congr_left
        intro steps hsteps
        have hhigh := (List.mem_range'_1.mp hsteps).right
        exact Nat.mod_eq_of_lt (by omega)
      have hwrapped : (List.range' (1 + (last - cursor)) (cursor + 1)).map
          (fun steps => (cursor + steps) % (last + 1)) = List.range (cursor + 1) := by
        have hshift : List.range' (1 + (last - cursor)) (cursor + 1) =
            (List.range (cursor + 1)).map fun index => 1 + (last - cursor) + index := by
          rw [List.range_eq_range', List.map_add_range']
          rfl
        rw [hshift, List.map_map]
        refine Eq.trans (List.map_congr_left ?_) (List.map_id _)
        intro index hindex
        have haround : cursor + (1 + (last - cursor) + index) = last + 1 + index := by omega
        show (cursor + (1 + (last - cursor) + index)) % (last + 1) = index
        rw [haround, Nat.add_mod_left]
        exact Nat.mod_eq_of_lt (Nat.lt_of_lt_of_le (List.mem_range.mp hindex) hlength)
      rw [searchOrder_around hlength, hsplit, List.map_append, hbehind, hwrapped,
        Nat.add_sub_add_right]

/-!
# What a search finds
-/

theorem searchLine_eq_ok_iff :
    searchLine pattern lines reference wrap = .ok number ↔
      ∃ index,
        (searchOrder lines.length reference wrap).find?
          (fun index => (lines[index]?).any pattern.isMatch) = some index ∧
        number = lineNumber index + 1 := by
  unfold searchLine
  constructor
  · intro hnumber
    split at hnumber
    · next index hfound =>
        cases hnumber
        exact ⟨index, hfound, rfl⟩
    · cases hnumber
  · rintro ⟨index, hfound, rfl⟩
    rw [hfound]

theorem searchLine_eq_error_iff {error : EditError} :
    searchLine pattern lines reference wrap = .error error ↔
      error = .noMatch ∧
        ∀ index ∈ searchOrder lines.length reference wrap,
          ¬pattern.MatchesLine lines index := by
  have hnone : (searchOrder lines.length reference wrap).find?
      (fun index => (lines[index]?).any pattern.isMatch) = none ↔
        ∀ index ∈ searchOrder lines.length reference wrap,
          ¬pattern.MatchesLine lines index := by
    rw [List.find?_eq_none]
    simp only [Pattern.matchesLine_iff]
  rw [← hnone]
  unfold searchLine
  constructor
  · intro herror
    split at herror
    · cases herror
    · next hfound =>
        cases herror
        exact ⟨rfl, hfound⟩
  · rintro ⟨rfl, hfound⟩
    rw [hfound]

theorem find?_steps_eq_some_iff {start count steps : Nat} (way : Nat -> Nat) :
    (List.range' start count).find? (fun steps => (lines[way steps]?).any pattern.isMatch) =
        some steps ↔
      pattern.MatchesLine lines (way steps) ∧ start ≤ steps ∧ steps < start + count ∧
        ∀ fewer, start ≤ fewer -> fewer < steps -> ¬pattern.MatchesLine lines (way fewer) := by
  rw [List.find?_range'_eq_some, List.mem_range'_1]
  simp only [Pattern.matchesLine_iff, Bool.not_eq_true', Bool.not_eq_true, and_assoc]

theorem searchLine_around_eq_ok_iff (h : cursor ≤ lines.length - 1) :
    searchLine pattern lines cursor .around = .ok number ↔
      ∃ index, pattern.NearestLine lines cursor index ∧ number = lineNumber index + 1 := by
  rw [searchLine_eq_ok_iff, searchOrder_around_eq_map h]
  apply exists_congr
  intro index
  apply and_congr_left
  intro _
  rw [List.find?_map, Option.map_eq_some_iff]
  apply exists_congr
  intro steps
  rw [Function.comp_def, find?_steps_eq_some_iff fun steps => (cursor + steps) % lines.length,
    Nat.lt_one_add_iff]
  constructor
  · rintro ⟨⟨hmatch, hone, hhigh, hfewer⟩, rfl⟩
    exact ⟨hone, hhigh, rfl, hmatch, hfewer⟩
  · rintro ⟨hone, hhigh, rfl, hmatch, hfewer⟩
    exact ⟨⟨hmatch, hone, hhigh, hfewer⟩, rfl⟩

theorem searchLine_stop_eq_ok_iff :
    searchLine pattern lines reference .stop = .ok number ↔
      ∃ index, pattern.FirstLine lines (reference + 1) index ∧ number = lineNumber index + 1 := by
  rw [searchLine_eq_ok_iff, searchOrder_stop]
  apply exists_congr
  intro index
  apply and_congr_left
  intro _
  rw [find?_steps_eq_some_iff fun index => index]
  simp only [Int.toNat_le]
  constructor
  · rintro ⟨hmatch, hlow, _, hearlier⟩
    exact ⟨hlow, hmatch, hearlier⟩
  · rintro ⟨hlow, hmatch, hearlier⟩
    have hhigh := hmatch.lt_length
    have hplace := Int.toNat_le.mpr hlow
    exact ⟨hmatch, hlow, by omega, hearlier⟩

theorem searchLine_around_eq_error_iff (h : cursor ≤ lines.length - 1) :
    searchLine pattern lines cursor .around = .error .noMatch ↔
      ∀ line ∈ lines, pattern.isMatch line = false := by
  rw [searchLine_eq_error_iff, ← Pattern.forall_not_matchesLine_iff]
  constructor
  · rintro ⟨_, hnone⟩ index hmatch
    have hindex := hmatch.lt_length
    have hcursor : cursor < lines.length := by omega
    exact hnone index ((mem_searchOrder_around_iff hcursor).mpr hindex) hmatch
  · intro hnone
    exact ⟨rfl, fun index _ => hnone index⟩

theorem exists_nearestLine (h : cursor ≤ lines.length - 1)
    (hmatch : ∃ line ∈ lines, pattern.isMatch line = true) :
    ∃ index, pattern.NearestLine lines cursor index := by
  cases hsearch : searchLine pattern lines cursor .around with
  | error error =>
      rcases hmatch with ⟨line, hline, htrue⟩
      have hreason := (searchLine_eq_error_iff.mp hsearch).left
      rw [hreason] at hsearch
      have hfalse := (searchLine_around_eq_error_iff h).mp hsearch line hline
      rw [htrue] at hfalse
      cases hfalse
  | ok number =>
      rcases (searchLine_around_eq_ok_iff h).mp hsearch with ⟨index, hnearest, _⟩
      exact ⟨index, hnearest⟩

theorem searchLine_stop_eq_error_iff :
    searchLine pattern lines reference .stop = .error .noMatch ↔
      ∀ index : Nat, reference + 1 ≤ index -> ¬pattern.MatchesLine lines index := by
  rw [searchLine_eq_error_iff, searchOrder_stop]
  constructor
  · rintro ⟨_, hnone⟩ index hlow hmatch
    have hindex := hmatch.lt_length
    have hplace := Int.toNat_le.mpr hlow
    exact hnone index (List.mem_range'_1.mpr ⟨hplace, by omega⟩) hmatch
  · intro hnone
    refine ⟨rfl, ?_⟩
    intro index hindex
    exact hnone index (Int.toNat_le.mp (List.mem_range'_1.mp hindex).left)

/-!
# Patterns as addresses

The same for the text of a pattern.  As many lines as line numbers can count are
numbered from one on.
-/

variable {source : Text}

theorem search_of_compile (h : Pattern.compile source = .ok pattern) (lines : List Text)
    (reference : Int) (wrap : Wrap) :
    search source lines reference wrap = searchLine pattern lines reference wrap := by
  unfold search
  rw [h]

theorem search_around_eq_ok_iff (hpattern : Pattern.compile source = .ok pattern)
    (hlines : lines.length ≤ maxLineNumber) (hcursor : cursor ≤ lines.length - 1) :
    search source lines cursor .around = .ok number ↔
      ∃ index, pattern.NearestLine lines cursor index ∧ number = index + 1 := by
  rw [search_of_compile hpattern, searchLine_around_eq_ok_iff hcursor]
  apply exists_congr
  intro index
  apply and_congr_right
  intro hnearest
  rw [lineNumber_of_le (Nat.le_of_lt (Nat.lt_of_lt_of_le hnearest.matchesLine.lt_length hlines))]

theorem search_stop_eq_ok_iff (hpattern : Pattern.compile source = .ok pattern)
    (hlines : lines.length ≤ maxLineNumber) :
    search source lines reference .stop = .ok number ↔
      ∃ index, pattern.FirstLine lines (reference + 1) index ∧ number = index + 1 := by
  rw [search_of_compile hpattern, searchLine_stop_eq_ok_iff]
  apply exists_congr
  intro index
  apply and_congr_right
  intro hfirst
  rw [lineNumber_of_le (Nat.le_of_lt (Nat.lt_of_lt_of_le hfirst.2.1.lt_length hlines))]

/--
A search that may wrap takes the line that is the fewest steps behind the cursor among those
with a match.  It comes to no line twice and to the cursor's own line last, and fails when
no line has a match.  A search that may not wrap takes the first such line behind its
reference, which need not be a line, and fails when there is none from there on.
-/
theorem search_takes_first_match_on_its_way (hpattern : Pattern.compile source = .ok pattern)
    (hlines : lines.length ≤ maxLineNumber) :
    (∀ cursor : Nat, cursor ≤ lines.length - 1 ->
      (∀ number : Int,
        search source lines cursor .around = .ok number ↔
          ∃ index : Nat, pattern.NearestLine lines cursor index ∧ number = index + 1) ∧
      (search source lines cursor .around = .error .noMatch ↔
        ∀ line ∈ lines, pattern.isMatch line = false)) ∧
    (∀ cursor, cursor < lines.length ->
      (searchOrder lines.length cursor .around).Nodup ∧
      (∀ index, index ∈ searchOrder lines.length cursor .around ↔ index < lines.length) ∧
      (searchOrder lines.length cursor .around).getLast? = some cursor) ∧
    ∀ reference : Int,
      (∀ number : Int,
        search source lines reference .stop = .ok number ↔
          ∃ index : Nat, pattern.FirstLine lines (reference + 1) index ∧ number = index + 1) ∧
      (search source lines reference .stop = .error .noMatch ↔
        ∀ index : Nat, reference + 1 ≤ index -> ¬pattern.MatchesLine lines index) := by
  refine ⟨?_, ?_, ?_⟩
  · intro cursor hcursor
    constructor
    · intro number
      exact search_around_eq_ok_iff hpattern hlines hcursor
    · rw [search_of_compile hpattern]
      exact searchLine_around_eq_error_iff hcursor
  · intro cursor hcursor
    refine ⟨nodup_searchOrder_around hcursor, ?_, getLast?_searchOrder_around hcursor⟩
    intro index
    exact mem_searchOrder_around_iff hcursor
  · intro reference
    constructor
    · intro number
      exact search_stop_eq_ok_iff hpattern hlines
    · rw [search_of_compile hpattern]
      exact searchLine_stop_eq_error_iff

/-- From the second of three lines around to the first, which is out of reach without wrapping. -/
theorem search_takes_first_match_on_its_way_wrapping :
    let lines : List Text := [['a'], ['b'], ['c']]
    lines.length ≤ maxLineNumber ∧
      search ['a'] lines 1 .around = .ok 1 ∧
      search ['a'] lines 1 .stop = .error .noMatch ∧
      search ['a'] lines (-1) .stop = .ok 1 := by
  intro lines
  have hmatches : (Pattern.compile ['a']).toOption.map
      (fun pattern => lines.map pattern.isMatch) = some [true, false, false] := by decide +kernel
  rcases Pattern.exists_of_isMatch_eq hmatches with ⟨pattern, hpattern, hline⟩
  have hlines : lines.length ≤ maxLineNumber := by decide
  rcases search_takes_first_match_on_its_way hpattern hlines with ⟨haround, _, hstop⟩
  refine ⟨hlines, ?_, ?_, ?_⟩
  · apply ((haround 1 (by decide)).left 1).mpr
    refine ⟨0, ⟨2, by decide, by decide, (Nat.mod_self 3).symm, (hline 0).mpr rfl, ?_⟩, rfl⟩
    intro fewer hone hfewer
    have hfewer : fewer = 1 := by omega
    rw [hfewer, hline]
    decide
  · apply (hstop 1).right.mpr
    intro index hindex
    rw [hline]
    intro hsome
    match index with
    | 2 => cases hsome
    | _ + 3 => cases hsome
  · apply ((hstop (-1)).left 1).mpr
    refine ⟨0, ⟨by decide, (hline 0).mpr rfl, ?_⟩, rfl⟩
    intro earlier _ hearlier
    exact absurd hearlier (Nat.not_lt_zero earlier)

end Address
end LinePalette
