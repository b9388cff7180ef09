import LinePalette.Proofs.Editor.Alteration
import LinePalette.Proofs.Editor.Effects

/-!
# Bounds

The lines that an editor refers to exist.  The cursor is on a line whenever there
is one, and a pending edit has a range in order and holds no line that would have
ended its text.  Every step keeps this, so it holds wherever an editor is led.
-/

namespace LinePalette

/-!
# Ranges

A resolved range is in order and not far below the first line.  A range that has
been checked against a buffer names lines of it.
-/

theorem lineNumber_le (count : Nat) : lineNumber count ≤ count := by
  unfold lineNumber
  omega

theorem lineNumber_nonneg (count : Nat) : 0 ≤ lineNumber count := by
  unfold lineNumber
  omega

theorem lineNumber_le_max (count : Nat) : lineNumber count ≤ maxLineNumber := by
  unfold lineNumber
  omega

theorem lineNumber_of_le {count : Nat} (h : count ≤ maxLineNumber) : lineNumber count = count :=
  congrArg Nat.cast (Nat.min_eq_left h)

/-- A range in order whose start is no further from the first line than a line number. -/
structure LineRange.Resolved (range : LineRange) : Prop where
  start_le_stop : range.start ≤ range.stop
  start_low : -(maxLineNumber : Int) ≤ range.start
  start_high : range.start ≤ maxLineNumber + 1

theorem LineRange.indices_ok {range : LineRange} {length first last : Nat}
    (h : range.indices length = .ok (first, last)) :
    range.start = first + 1 ∧ range.stop = last + 1 := by
  unfold LineRange.indices at h
  split at h
  · cases h
  · cases h
    omega

theorem LineRange.indices_bounds {range : LineRange} {length first last : Nat}
    (h : range.indices length = .ok (first, last)) : first ≤ last ∧ last < length := by
  have hlength := lineNumber_le length
  unfold LineRange.indices at h
  split at h
  · cases h
  · cases h
    omega

namespace Address

theorem leadingInteger?_bounds {text : Text} {number : Int}
    (h : leadingInteger? text = some number) :
    -(maxLineNumber : Int) ≤ number ∧ number ≤ maxLineNumber := by
  unfold leadingInteger? at h
  split at h
  next negative unsigned _ =>
    simp only at h
    split at h
    · cases h
    · next hdigits =>
        have hvalue := fun hlarge => hdigits (Or.inr hlarge)
        cases h
        split <;> omega

theorem mem_searchOrder {length index : Nat} {reference : Int} {wrap : Wrap}
    (h : index ∈ searchOrder length reference wrap) : index < length := by
  unfold searchOrder at h
  rcases List.mem_append.mp h with hbehind | hwrapped
  · have hrange := List.mem_range'_1.mp hbehind
    omega
  · cases wrap with
    | around =>
        have hindex := List.mem_range.mp hwrapped
        simp only at hindex
        split at hindex
        · omega
        · omega
    | stop => cases hwrapped

theorem search_bounds {source : Text} {lines : List Text} {reference number : Int} {wrap : Wrap}
    (h : search source lines reference wrap = .ok number) :
    1 ≤ number ∧ number ≤ maxLineNumber + 1 ∧ number ≤ lines.length := by
  unfold search searchLine at h
  split at h
  · cases h
  · split at h
    · next index hfound =>
        have hindex := mem_searchOrder (List.mem_of_find?_eq_some hfound)
        have hle := lineNumber_le index
        have hmax := lineNumber_le_max index
        have hpos := lineNumber_nonneg index
        cases h
        omega
    · cases h

theorem resolveOne_bounds {lines : List Text} {text : Text} {reference number : Int} {wrap : Wrap}
    (hlow : -1 ≤ reference) (hhigh : reference ≤ maxLineNumber)
    (h : resolveOne lines text reference wrap = .ok number) :
    -(maxLineNumber : Int) ≤ number ∧ number ≤ maxLineNumber + 1 := by
  unfold resolveOne at h
  split at h
  · cases h
    omega
  · split at h
    · have hlast := lineNumber_nonneg lines.length
      have hmax := lineNumber_le_max lines.length
      cases h
      omega
    · split at h
      · next hnumber =>
          have hbounds := leadingInteger?_bounds hnumber
          cases h
          omega
      · split at h
        · have hbounds := search_bounds h
          omega
        · cases h

theorem resolveOne_le {lines : List Text} {text : Text} {reference number : Int} {wrap : Wrap}
    {limit : Nat} (hmax : maxLineNumber ≤ limit) (hlines : lines.length ≤ limit)
    (hreference : reference + 1 ≤ limit)
    (h : resolveOne lines text reference wrap = .ok number) : number ≤ limit := by
  unfold resolveOne at h
  split at h
  · cases h
    exact hreference
  · split at h
    · have hlast := lineNumber_le lines.length
      cases h
      omega
    · split at h
      · next hnumber =>
          have hbounds := leadingInteger?_bounds hnumber
          cases h
          omega
      · split at h
        · have hbounds := search_bounds h
          omega
        · cases h

section Pairs

variable {lines : List Text} {left right : Text} {cursor : Int} {range : LineRange}

theorem resolvePair_of_left_error {error : EditError}
    (h : resolveOne lines left cursor .around = .error error) :
    resolvePair lines left right cursor = .error error := by
  unfold resolvePair
  rw [h]
  rfl

theorem resolvePair_of_right_error {start : Int} {error : EditError}
    (hleft : resolveOne lines left cursor .around = .ok start)
    (hright : resolveOne lines right (start - 1) .stop = .error error) :
    resolvePair lines left right cursor = .error error := by
  unfold resolvePair
  rw [hleft]
  simp only [bind, Except.bind, hright]

theorem resolvePair_of_sides {start stop : Int}
    (hleft : resolveOne lines left cursor .around = .ok start)
    (hright : resolveOne lines right (start - 1) .stop = .ok stop) :
    resolvePair lines left right cursor =
      if stop < start then .error .invalidRange else .ok { start := start, stop := stop } := by
  unfold resolvePair
  rw [hleft]
  simp only [bind, Except.bind, hright]

/-- A pair of sides names a range just when both name lines, the right one's not in front. -/
theorem resolvePair_eq_ok_iff :
    resolvePair lines left right cursor = .ok range ↔
      resolveOne lines left cursor .around = .ok range.start ∧
      resolveOne lines right (range.start - 1) .stop = .ok range.stop ∧
      range.start ≤ range.stop := by
  constructor
  · intro hpair
    cases hleft : resolveOne lines left cursor .around with
    | error error =>
        rw [resolvePair_of_left_error hleft] at hpair
        cases hpair
    | ok start =>
        cases hright : resolveOne lines right (start - 1) .stop with
        | error error =>
            rw [resolvePair_of_right_error hleft hright] at hpair
            cases hpair
        | ok stop =>
            rw [resolvePair_of_sides hleft hright] at hpair
            split at hpair
            · cases hpair
            · next horder =>
                cases hpair
                exact ⟨rfl, hright, Int.not_lt.mp horder⟩
  · rintro ⟨hleft, hright, horder⟩
    rw [resolvePair_of_sides hleft hright, if_neg (Int.not_lt.mpr horder)]

end Pairs

/-- A resolved range is in order, and close enough to the lines, whether or not it names any. -/
theorem resolve_resolved {lines : List Text} {text : Text} {cursor : Nat} {range : LineRange}
    (h : resolve lines text cursor = .ok range) : range.Resolved := by
  have hlow := lineNumber_nonneg cursor
  have hhigh := lineNumber_le_max cursor
  unfold resolve at h
  simp only at h
  split at h
  · cases h
    refine ⟨Int.le_refl _, ?_, ?_⟩
    · show -(maxLineNumber : Int) ≤ lineNumber cursor + 1
      omega
    · show lineNumber cursor + 1 ≤ maxLineNumber + 1
      omega
  · split at h
    · cases h
      refine ⟨Int.le_max_right _ _, ?_, ?_⟩
      · show -(maxLineNumber : Int) ≤ 1
        omega
      · show (1 : Int) ≤ maxLineNumber + 1
        omega
    · split at h
      · rcases resolvePair_eq_ok_iff.mp h with ⟨hstart, _, hle⟩
        have hbounds := resolveOne_bounds (by omega) hhigh hstart
        exact ⟨hle, hbounds.left, hbounds.right⟩
      · cases hline : resolveOne lines text (lineNumber cursor) .around with
        | error error =>
            rw [hline] at h
            cases h
        | ok line =>
            rw [hline] at h
            cases h
            have hbounds := resolveOne_bounds (by omega) hhigh hline
            exact ⟨Int.le_refl _, hbounds.left, hbounds.right⟩

end Address

/-!
# Editors

The invariant, and what keeps it.
-/

structure PendingEdit.Sound (edit : PendingEdit) : Prop where
  resolved : edit.range.Resolved
  no_dot : ['.'] ∉ edit.lines

/-- The cursor is on a line, unless there is none, and a pending edit is sound. -/
structure Editor.Sound (editor : Editor) : Prop where
  cursor_le : editor.cursor ≤ editor.buffer.length - 1
  pending : ∀ edit, editor.mode = .typing edit -> edit.Sound

namespace Editor

theorem Sound.cursor_lt {editor : Editor} (h : editor.Sound) (hlines : editor.buffer ≠ []) :
    editor.cursor < editor.buffer.length := by
  have hpos := List.length_pos_iff.mpr hlines
  have hcursor := h.cursor_le
  omega

theorem Sound.relocate {editor after : Editor} (h : editor.Sound)
    (hmode : after.mode = editor.mode) (hcursor : after.cursor ≤ after.buffer.length - 1) :
    after.Sound := by
  constructor
  · exact hcursor
  · intro edit hedit
    rw [hmode] at hedit
    exact h.pending edit hedit

theorem start_sound (lines : List Text) (options : Options) : (start lines options).Sound := by
  constructor
  · exact Nat.le_refl _
  · intro edit hedit
    cases hedit

theorem moveTo_sound {editor : Editor} (h : editor.Sound) (line : Nat) :
    (editor.moveTo line).Sound :=
  h.relocate rfl (Nat.min_le_right _ _)

theorem beginTyping_sound {editor : Editor} {range : LineRange} (h : editor.Sound)
    (hrange : range.Resolved)
    (kind : EditKind) :
    Sound
      { editor with mode := .typing { kind := kind, range := range, lines := [] } } := by
  constructor
  · exact h.cursor_le
  · intro edit hedit
    cases hedit
    exact ⟨hrange, List.not_mem_nil⟩

theorem performed_sound {editor after : Editor} {range : LineRange} {tail : Text}
    {letter : Char} {outcome : Outcome} (h : editor.Sound)
    (hrange : range.Resolved)
    (hperformed : Performed editor range tail letter outcome after) : after.Sound := by
  cases hperformed with
  | append => exact beginTyping_sound h hrange .append
  | insert => exact beginTyping_sound h hrange .insert
  | change => exact beginTyping_sound h hrange .change
  | delete _ => exact h.relocate rfl (Nat.min_le_right _ _)
  | print hends =>
      have hbounds := LineRange.indices_bounds hends
      exact h.relocate rfl (Nat.le_sub_one_of_lt hbounds.right)
  | number hends =>
      have hbounds := LineRange.indices_bounds hends
      exact h.relocate rfl (Nat.le_sub_one_of_lt hbounds.right)
  | substitute _ _ _ halter =>
      rcases Buffer.alterLines_changed halter with ⟨hindex, _⟩
      have hlength := Buffer.length_alterLines halter
      refine h.relocate rfl ?_
      simp only
      omega
  | guide => exact h
  | empty => exact h.relocate rfl (Nat.zero_le _)
  | save => exact h
  | help => exact h
  | explain => exact h.relocate rfl h.cursor_le
  | showPrompt => exact h.relocate rfl h.cursor_le

theorem applyEdit_sound {editor after : Editor} {edit : PendingEdit} (h : editor.Sound)
    (happly : editor.applyEdit edit = .ok after) : after.Sound := by
  have hinsert : ∀ position lines, editor.insertAt position lines = .ok after -> after.Sound := by
    intro position lines hok
    rcases insertAt_ok hok with ⟨_, rfl⟩
    refine h.relocate rfl ?_
    have hcursor := h.cursor_le
    simp only [Buffer.length_replaceLines]
    split
    · next hempty =>
        simp only [hempty, List.length_nil]
        omega
    · omega
  unfold applyEdit at happly
  split at happly
  · exact hinsert _ _ happly
  · exact hinsert _ _ happly
  · rcases changeLines_ok happly with ⟨first, last, hends, rfl⟩
    have hbounds := LineRange.indices_bounds hends
    refine h.relocate rfl ?_
    simp only [Buffer.length_replaceLines]
    omega

theorem ended_sound {editor : Editor} (h : editor.Sound) :
    Sound { editor with mode := .command } := by
  constructor
  · exact h.cursor_le
  · intro edit hedit
    cases hedit

theorem attempted_sound {editor after : Editor} {line : Text} {outcome : Outcome}
    (h : editor.Sound) (hattempted : Attempted editor line outcome after) : after.Sound := by
  cases hattempted with
  | stepped _ _ hlines =>
      have hnext := Nat.mod_lt (editor.cursor + 1) (List.length_pos_iff.mpr hlines)
      exact h.relocate rfl (Nat.le_sub_one_of_lt hnext)
  | performed _ _ hrange hperformed =>
      exact performed_sound h (Address.resolve_resolved hrange) hperformed
  | committed _ _ hedit => exact applyEdit_sound (ended_sound h) hedit
  | typed hmode hdot =>
      have hedit := h.pending _ hmode
      constructor
      · exact h.cursor_le
      · intro longer hlonger
        cases hlonger
        constructor
        · exact hedit.resolved
        · intro hmem
          rcases List.mem_append.mp hmem with hold | hnew
          · exact hedit.no_dot hold
          · exact hdot (List.mem_singleton.mp hnew).symm

theorem process_sound {editor : Editor} (h : editor.Sound) (line : Text) :
    (editor.process line).2.Sound := by
  rcases process_cases editor line with ⟨error, hfailed⟩ | hattempted
  · rw [hfailed]
    exact (ended_sound h).relocate rfl h.cursor_le
  · exact attempted_sound h hattempted

/-!
# Reachable editors

An editor is led on by the lines it is given and by moves of its cursor, which may
come at any time.
-/

inductive Reachable : Editor -> Prop where
  | start (lines : List Text) (options : Options) : Reachable (start lines options)
  | process {editor : Editor} (line : Text) :
      Reachable editor -> Reachable (editor.process line).2
  | moveTo {editor : Editor} (line : Nat) : Reachable editor -> Reachable (editor.moveTo line)

theorem Reachable.sound {editor : Editor} (h : Reachable editor) : editor.Sound := by
  induction h with
  | start lines options => exact start_sound lines options
  | process line _ ih => exact process_sound ih line
  | moveTo line _ ih => exact moveTo_sound ih line

end Editor
end LinePalette
