import LinePalette.Highlight.Plan
import LinePalette.Proofs.Highlight.Locating
import LinePalette.Proofs.Pattern.Matches
import Mathlib.Data.List.Forall2

/-!
# Planned highlights

A capture is what a group of a match took of the text, if that is not nothing.  Every
capture lies in the joined text, so it is found in the segments, and the plan shows the
captures of all matches one by one: from the last match to the first, and in each match
from the highest group to the lowest.
-/

namespace LinePalette

/-!
# Captures
-/

structure Capture where
  found : Match
  group : Nat
  span : Span
deriving DecidableEq

/-- The span is the text that a group took in a match, and not empty. -/
structure Match.Took (found : Match) (group : Nat) (span : Span) : Prop where
  group_pos : 1 ≤ group
  group?_eq : found.group? group = some span
  start_lt_stop : span.start < span.stop

theorem Span.isEmpty_eq_false_iff {span : Span} :
    span.isEmpty = false ↔ span.start < span.stop := by
  have horder := span.start_le_stop
  unfold Span.isEmpty
  rw [beq_eq_false_iff_ne]
  omega

namespace Match

variable {found : Match} {group : Nat} {span : Span} {capture : Capture}

def capture? (found : Match) (group : Nat) : Option Capture :=
  match found.group? group with
  | none => none
  | some span =>
      if span.isEmpty then none else some { found := found, group := group, span := span }

def captures (found : Match) : List Capture :=
  ((List.range found.groups.length).reverse.map (· + 1)).filterMap found.capture?

theorem capture?_eq_some_iff :
    found.capture? group = some capture ↔
      capture = { found := found, group := group, span := capture.span } ∧
        found.group? group = some capture.span ∧ capture.span.start < capture.span.stop := by
  unfold capture?
  constructor
  · intro h
    split at h
    · cases h
    · next span hspan =>
        split at h
        · cases h
        · next hempty =>
            cases h
            exact ⟨rfl, hspan, Span.isEmpty_eq_false_iff.mp (Bool.not_eq_true _ ▸ hempty)⟩
  · rintro ⟨hcapture, hspan, horder⟩
    rw [hspan]
    simp only
    rw [Span.isEmpty_eq_false_iff.mpr horder, hcapture]
    rfl

theorem Took.mem_range (h : found.Took group span) :
    group ∈ (List.range found.groups.length).reverse.map (· + 1) := by
  rcases Nat.exists_eq_add_of_le' h.group_pos with ⟨index, rfl⟩
  have hgroup : found.groups[index]? = some (some span) :=
    Option.join_eq_some_iff.mp h.group?_eq
  have hindex : index < found.groups.length := (List.getElem?_eq_some_iff.mp hgroup).1
  exact List.mem_map_of_mem (List.mem_reverse.mpr (List.mem_range.mpr hindex))

theorem mem_captures_iff :
    capture ∈ found.captures ↔
      capture.found = found ∧ found.Took capture.group capture.span := by
  unfold captures
  rw [List.mem_filterMap]
  constructor
  · rintro ⟨group, hgroup, hcapture⟩
    rcases capture?_eq_some_iff.mp hcapture with ⟨heq, hspan, horder⟩
    rcases List.mem_map.mp hgroup with ⟨index, _, rfl⟩
    rw [heq]
    exact ⟨rfl, Nat.le_add_left 1 index, hspan, horder⟩
  · rintro ⟨hfound, htook⟩
    refine ⟨capture.group, htook.mem_range, capture?_eq_some_iff.mpr ?_⟩
    refine ⟨?_, htook.group?_eq, htook.start_lt_stop⟩
    rw [← hfound]

theorem captures_ordered (found : Match) :
    found.captures.Pairwise fun earlier later => later.group < earlier.group := by
  have hgroups : ((List.range found.groups.length).reverse.map (· + 1)).Pairwise
      fun earlier later => later < earlier := by
    rw [List.pairwise_map, List.pairwise_reverse]
    exact List.pairwise_lt_range.imp Nat.succ_lt_succ
  unfold captures
  rw [List.pairwise_filterMap]
  apply hgroups.imp
  intro high low hlower earlier hearlier later hlater
  rw [(capture?_eq_some_iff.mp hearlier).1, (capture?_eq_some_iff.mp hlater).1]
  exact hlower

end Match

namespace Pattern

variable {pattern : Pattern} {text : Text} {capture : Capture}

def captures (pattern : Pattern) (text : Text) : List Capture :=
  (pattern.matchesIn text).reverse.flatMap Match.captures

theorem mem_captures_iff :
    capture ∈ pattern.captures text ↔
      capture.found ∈ pattern.matchesIn text ∧
        capture.found.Took capture.group capture.span := by
  unfold captures
  rw [List.mem_flatMap]
  constructor
  · rintro ⟨found, hfound, hcapture⟩
    rcases Match.mem_captures_iff.mp hcapture with ⟨rfl, htook⟩
    exact ⟨List.mem_reverse.mp hfound, htook⟩
  · rintro ⟨hfound, htook⟩
    exact ⟨capture.found, List.mem_reverse.mpr hfound, Match.mem_captures_iff.mpr ⟨rfl, htook⟩⟩

theorem captures_within (h : capture ∈ pattern.captures text) :
    capture.found.whole.start ≤ capture.span.start ∧
      capture.span.stop ≤ capture.found.whole.stop ∧
      capture.found.whole.stop ≤ text.length := by
  rcases mem_captures_iff.mp h with ⟨hfound, htook⟩
  have hwithin := (matchesIn_ordered pattern text).1 capture.found hfound
  rcases hwithin.groups capture.group capture.span htook.group?_eq with ⟨hstart, hstop⟩
  exact ⟨hstart, hstop, hwithin.stop_le_high⟩

theorem span_of_mem_captures (h : capture ∈ pattern.captures text) :
    capture.span.start < capture.span.stop ∧ capture.span.stop ≤ text.length := by
  rcases captures_within h with ⟨_, hstop, hwhole⟩
  exact ⟨(mem_captures_iff.mp h).2.start_lt_stop, Nat.le_trans hstop hwhole⟩

theorem captures_apart (pattern : Pattern) (text : Text) :
    (pattern.matchesIn text).reverse.Pairwise fun behind before =>
      ∀ earlier ∈ behind.captures, ∀ later ∈ before.captures,
        later.found.whole.stop ≤ earlier.found.whole.start := by
  rw [List.pairwise_reverse]
  apply (matchesIn_ordered pattern text).2.imp
  intro before behind hordered earlier hearlier later hlater
  rw [(Match.mem_captures_iff.mp hearlier).1, (Match.mem_captures_iff.mp hlater).1]
  exact hordered.1

/-- Of two captures the later one is of a match further left, or of a lower group of the same. -/
theorem captures_ordered (pattern : Pattern) (text : Text) :
    (pattern.captures text).Pairwise fun earlier later =>
      (later.found.whole.start < earlier.found.whole.start ∧
        later.found.whole.stop ≤ earlier.found.whole.start) ∨
      (later.found = earlier.found ∧ later.group < earlier.group) := by
  have hapart : (pattern.captures text).Pairwise fun earlier later =>
      later.found.whole.stop ≤ earlier.found.whole.start ∨
        (later.found = earlier.found ∧ later.group < earlier.group) := by
    unfold captures
    rw [List.pairwise_flatMap]
    constructor
    · intro found _
      apply found.captures_ordered.imp_of_mem
      intro earlier later hearlier hlater hlower
      rw [(Match.mem_captures_iff.mp hearlier).1, (Match.mem_captures_iff.mp hlater).1]
      exact Or.inr ⟨rfl, hlower⟩
    · apply (captures_apart pattern text).imp
      intro behind before hordered earlier hearlier later hlater
      exact Or.inl (hordered earlier hearlier later hlater)
  apply hapart.imp_of_mem
  intro earlier later _ hlater hordered
  -- An empty match may start where the next one does, but it holds no capture.
  apply hordered.imp_left
  intro hstop
  have htook := (mem_captures_iff.mp hlater).2.start_lt_stop
  rcases captures_within hlater with ⟨hstart, hend, _⟩
  omega

end Pattern

/-!
# Highlights of captures
-/

namespace Highlight

variable {segments : List Text} {found : Match} {capture : Capture} {highlight : Highlight}

/-- A highlight for the group of a capture, at the byte offsets and the places of its span. -/
structure Shows (segments : List Text) (capture : Capture) (highlight : Highlight) : Prop where
  group_eq : highlight.group = capture.group
  flatStart_eq : highlight.flatStart =
    Text.byteOffset (Segments.joined segments) capture.span.start
  flatStop_eq : highlight.flatStop =
    Text.byteOffset (Segments.joined segments) capture.span.stop
  opens : Segments.Opens segments highlight.flatStart highlight.start
  closes : Segments.Closes segments highlight.flatStop highlight.stop

theorem Shows.unique {other : Highlight} (h : Shows segments capture highlight)
    (horder : capture.span.start < capture.span.stop)
    (hstop : capture.span.stop ≤ (Segments.joined segments).length)
    (hother : Shows segments capture other) :
    highlight = other := by
  have hflat : highlight.flatStart < highlight.flatStop := by
    rw [h.flatStart_eq, h.flatStop_eq]
    exact Text.byteOffset_lt horder hstop
  have hstart : other.flatStart = highlight.flatStart :=
    hother.flatStart_eq.trans h.flatStart_eq.symm
  have hend : other.flatStop = highlight.flatStop := hother.flatStop_eq.trans h.flatStop_eq.symm
  have hlocated := (Segments.locate_eq_some_iff hflat).mpr ⟨h.opens, h.closes⟩
  have hagain := (Segments.locate_eq_some_iff hflat).mpr
    ⟨hstart ▸ hother.opens, hend ▸ hother.closes⟩
  rw [hlocated] at hagain
  have hgroup : highlight.group = other.group := h.group_eq.trans hother.group_eq.symm
  cases highlight
  cases other
  cases hagain
  cases hstart
  cases hend
  cases hgroup
  rfl

theorem exists_located (segments : List Text) {start stop : Nat} (h : start < stop)
    (hstop : stop ≤ (Segments.joined segments).length) :
    ∃ opening closing,
      Segments.locate segments (Text.byteOffset (Segments.joined segments) start)
        (Text.byteOffset (Segments.joined segments) stop) = some (opening, closing) ∧
      Segments.Opens segments (Text.byteOffset (Segments.joined segments) start) opening ∧
      Segments.Closes segments (Text.byteOffset (Segments.joined segments) stop) closing := by
  have horder := Text.byteOffset_lt h hstop
  cases hlocated : Segments.locate segments (Text.byteOffset (Segments.joined segments) start)
      (Text.byteOffset (Segments.joined segments) stop) with
  | none =>
      have hbehind := (Segments.locate_eq_none_iff horder).mp hlocated
      exact absurd hbehind (Nat.not_lt.mpr (Text.byteOffset_le_byteSize _ stop))
  | some places =>
      exact ⟨places.1, places.2, rfl, (Segments.locate_eq_some_iff horder).mp hlocated⟩

theorem ofGroup?_shows (hfound : found.Within 0 (Segments.joined segments).length) (group : Nat) :
    Option.Rel (Shows segments) (found.capture? group) (ofGroup? segments found group) := by
  unfold Match.capture? ofGroup?
  cases hspan : found.group? group with
  | none => exact .none
  | some span =>
      by_cases hempty : span.isEmpty = true
      · simp only [if_pos hempty]
        exact .none
      · have hnonempty := Span.isEmpty_eq_false_iff.mp (Bool.eq_false_iff.mpr hempty)
        have hstop : span.stop ≤ (Segments.joined segments).length :=
          Nat.le_trans (hfound.groups group span hspan).2 hfound.stop_le_high
        rcases exists_located segments hnonempty hstop with
          ⟨opening, closing, hlocated, hopens, hcloses⟩
        simp only [if_neg hempty, hlocated, Option.map_some]
        exact .some ⟨rfl, rfl, rfl, hopens, hcloses⟩

theorem ofMatch_shows (hfound : found.Within 0 (Segments.joined segments).length) :
    List.Forall₂ (Shows segments) found.captures (ofMatch segments found) := by
  have hgroups : List.Forall₂ (· = ·)
      ((List.range found.groups.length).reverse.map (· + 1))
      ((List.range found.groups.length).reverse.map (· + 1)) :=
    List.forall₂_refl _
  refine List.rel_filterMap ?_ hgroups
  rintro group _ rfl
  exact ofGroup?_shows hfound group

/-- The plan shows the captures one by one. -/
theorem plan_shows (pattern : Pattern) (segments : List Text) :
    List.Forall₂ (Shows segments) (pattern.captures (Segments.joined segments))
      (plan pattern segments) := by
  have hmatches : List.Forall₂
      (fun found other => found = other ∧ found.Within 0 (Segments.joined segments).length)
      (pattern.matchesIn (Segments.joined segments)).reverse
      (pattern.matchesIn (Segments.joined segments)).reverse := by
    apply List.forall₂_same.mpr
    intro found hfound
    exact ⟨rfl, (Pattern.matchesIn_ordered pattern _).1 found (List.mem_reverse.mp hfound)⟩
  refine List.rel_flatMap hmatches ?_
  rintro found _ ⟨rfl, hwithin⟩
  exact ofMatch_shows hwithin

theorem Shows.text_eq (h : Shows segments capture highlight) :
    Text.sliceBytes? highlight.flatStart highlight.flatStop (Segments.joined segments) =
      some (capture.span.of (Segments.joined segments)) := by
  rw [h.flatStart_eq, h.flatStop_eq]
  exact Text.sliceBytes?_byteOffset _ capture.span.start_le_stop

theorem exists_capture_of_mem_plan {pattern : Pattern} (h : highlight ∈ plan pattern segments) :
    ∃ capture ∈ pattern.captures (Segments.joined segments), Shows segments capture highlight := by
  have hshows := plan_shows pattern segments
  generalize plan pattern segments = highlights at h hshows
  generalize pattern.captures (Segments.joined segments) = captures at hshows ⊢
  induction hshows with
  | nil => cases h
  | cons hfirst _ ih =>
      rcases List.mem_cons.mp h with rfl | hlater
      · exact ⟨_, List.mem_cons_self, hfirst⟩
      · rcases ih hlater with ⟨capture, hcapture, hshows⟩
        exact ⟨capture, List.mem_cons_of_mem _ hcapture, hshows⟩

theorem map_flat_plan (pattern : Pattern) (segments : List Text) :
    (plan pattern segments).map (fun highlight => (highlight.flatStart, highlight.flatStop)) =
      (pattern.captures (Segments.joined segments)).map fun capture =>
        (Text.byteOffset (Segments.joined segments) capture.span.start,
          Text.byteOffset (Segments.joined segments) capture.span.stop) := by
  have hshows := plan_shows pattern segments
  generalize plan pattern segments = highlights at hshows ⊢
  generalize pattern.captures (Segments.joined segments) = captures at hshows ⊢
  induction hshows with
  | nil => rfl
  | cons hfirst _ ih =>
      rw [List.map_cons, List.map_cons, ih, hfirst.flatStart_eq, hfirst.flatStop_eq]

/--
The plan has one highlight for each group of each match that took part with some text, and
no other: they can be listed so that the matches go from right to left and the groups of a
match from the highest down, and the highlights stand in the same order.  Each has the
number of its group, the byte offsets of what the group took, and the places in the segments
that these offsets denote.
-/
theorem plan_shows_every_capture_once (pattern : Pattern) (segments : List Text) :
    ∃ captures : List Capture,
      (∀ capture, capture ∈ captures ↔
        capture.found ∈ pattern.matchesIn (Segments.joined segments) ∧
          capture.found.Took capture.group capture.span) ∧
      (captures.Pairwise fun earlier later =>
        (later.found.whole.start < earlier.found.whole.start ∧
          later.found.whole.stop ≤ earlier.found.whole.start) ∨
        (later.found = earlier.found ∧ later.group < earlier.group)) ∧
      List.Forall₂ (Shows segments) captures (plan pattern segments) :=
  ⟨pattern.captures (Segments.joined segments), fun _ => Pattern.mem_captures_iff,
    Pattern.captures_ordered pattern _, plan_shows pattern segments⟩

end Highlight
end LinePalette
