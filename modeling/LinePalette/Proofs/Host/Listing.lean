import LinePalette.Host.Session
import LinePalette.Proofs.Highlight.Planning
import LinePalette.Proofs.Palette.Outcomes
import Mathlib.Data.List.Sort

/-!
# Listed highlights

A line that lists the highlights of a pattern holds one object for each capture, match by
match and group by group, with the places where the capture starts and stops.  There is
exactly one such line, and it is not taken for an outcome.
-/

namespace LinePalette

/-!
# The order of captures
-/

def Capture.Before (capture later : Capture) : Prop :=
  (capture.found.whole.start < later.found.whole.start ∧
      capture.found.whole.stop ≤ later.found.whole.start) ∨
    (capture.found = later.found ∧ capture.group < later.group)

theorem Capture.Before.asymm {capture later : Capture} (h : capture.Before later) :
    ¬later.Before capture := by
  intro hback
  rcases h with ⟨hstart, _⟩ | ⟨hfound, hgroup⟩
  · rcases hback with ⟨hother, _⟩ | ⟨hother, _⟩
    · exact Nat.lt_asymm hstart hother
    · rw [hother] at hstart
      exact Nat.lt_irrefl _ hstart
  · rcases hback with ⟨hother, _⟩ | ⟨_, hother⟩
    · rw [hfound] at hother
      exact Nat.lt_irrefl _ hother
    · exact Nat.lt_asymm hgroup hother

instance : Std.Asymm Capture.Before where
  asymm _ _ h := h.asymm

/-!
# Coordinates
-/

/-- The numbers that are printed for a highlight; lines are counted from one. -/
structure Coordinates where
  group : Nat
  start : Nat
  stop : Nat
  fromLine : Nat
  fromColumn : Nat
  toLine : Nat
  toColumn : Nat

namespace Coordinates

def toJson (coordinates : Coordinates) : Json :=
  .object
    [("className".toList, .string (classOfGroup coordinates.group)),
      ("end".toList, Json.ofNat coordinates.stop),
      ("from".toList, .object
        [("column".toList, Json.ofNat coordinates.fromColumn),
          ("line".toList, Json.ofNat coordinates.fromLine)]),
      ("group".toList, Json.ofNat coordinates.group),
      ("start".toList, Json.ofNat coordinates.start),
      ("to".toList, .object
        [("column".toList, Json.ofNat coordinates.toColumn),
          ("line".toList, Json.ofNat coordinates.toLine)])]

def ofHighlight (highlight : Highlight) : Coordinates :=
  { group := highlight.group, start := highlight.flatStart, stop := highlight.flatStop,
    fromLine := highlight.start.segment + 1, fromColumn := highlight.start.offset,
    toLine := highlight.stop.segment + 1, toColumn := highlight.stop.offset }

end Coordinates

namespace Host

variable {pattern : Pattern} {lines : List Text} {listing : Text}

/-!
# Lines as segments
-/

theorem joined_segmentsOf (lines : List Text) :
    Segments.joined (segmentsOf lines) = Text.join ['\n'] lines := by
  induction lines with
  | nil => rfl
  | cons line later ih =>
      cases later with
      | nil => exact List.append_nil line
      | cons next later => exact congrArg ((line ++ ['\n']) ++ ·) ih

/-!
# Listings
-/

/-- The text is an object that lists the highlights of the pattern in the joined lines: those of
all captures, in order, with the places where each of them starts and stops. -/
def ListsHighlights (pattern : Pattern) (lines : List Text) (listing : Text) : Prop :=
  ∃ (captures : List Capture) (highlights : List Highlight),
    (∀ capture, capture ∈ captures ↔
      capture.found ∈ pattern.matchesIn (Text.join ['\n'] lines) ∧
        capture.found.Took capture.group capture.span) ∧
    captures.Pairwise Capture.Before ∧
    List.Forall₂ (Highlight.Shows (segmentsOf lines)) captures highlights ∧
    listing =
      (Json.object
        [("highlights".toList,
          .array (highlights.map fun highlight =>
            (Coordinates.ofHighlight highlight).toJson))]).compact

theorem listsHighlights_plan (pattern : Pattern) (lines : List Text) :
    ListsHighlights pattern lines
      (highlightsJson (Highlight.plan pattern (segmentsOf lines))).compact := by
  have hshows := Highlight.plan_shows pattern (segmentsOf lines)
  rw [joined_segmentsOf] at hshows
  refine ⟨(pattern.captures (Text.join ['\n'] lines)).reverse,
    (Highlight.plan pattern (segmentsOf lines)).reverse, ?_, ?_, List.rel_reverse hshows, rfl⟩
  · intro capture
    rw [List.mem_reverse]
    exact Pattern.mem_captures_iff
  · rw [List.pairwise_reverse]
    exact Pattern.captures_ordered pattern _

theorem shows_within {captures : List Capture} {highlights : List Highlight}
    (hmem : ∀ capture, capture ∈ captures ↔
      capture.found ∈ pattern.matchesIn (Text.join ['\n'] lines) ∧
        capture.found.Took capture.group capture.span)
    (hshows : List.Forall₂ (Highlight.Shows (segmentsOf lines)) captures highlights) :
    List.Forall₂
      (fun capture highlight =>
        (capture.span.start < capture.span.stop ∧
            capture.span.stop ≤ (Text.join ['\n'] lines).length) ∧
          Highlight.Shows (segmentsOf lines) capture highlight)
      captures highlights := by
  apply (List.forall₂_and_left _ _).mpr
  refine ⟨?_, hshows⟩
  intro capture hcapture
  exact Pattern.span_of_mem_captures (Pattern.mem_captures_iff.mpr ((hmem capture).mp hcapture))

theorem ListsHighlights.unique {other : Text} (h : ListsHighlights pattern lines listing)
    (hother : ListsHighlights pattern lines other) : listing = other := by
  rcases h with ⟨captures, highlights, hmem, hordered, hshows, rfl⟩
  rcases hother with ⟨others, otherHighlights, hotherMem, hotherOrdered, hotherShows, rfl⟩
  have hcaptures : captures = others := by
    apply hordered.eq_of_mem_iff hotherOrdered
    intro capture
    rw [hmem, hotherMem]
  subst hcaptures
  have hhighlights : highlights = otherHighlights := by
    apply List.right_unique_forall₂' _ (shows_within hmem hshows)
      (shows_within hotherMem hotherShows)
    intro capture highlight otherHighlight h hother
    rcases h with ⟨⟨horder, hstop⟩, hshown⟩
    rw [← joined_segmentsOf] at hstop
    exact hshown.unique horder hstop hother.right
  rw [hhighlights]

theorem printable_ofNat (n : Nat) : Json.Printable (Text.ofNat n) := by
  intro c hc
  have hdigit := Char.isDigit_iff_toNat.mp
    (Nat.isDigit_of_mem_toDigits (by decide) (by decide) hc)
  unfold Json.IsControl
  have hzero : '0'.toNat = 48 := rfl
  omega

theorem printable_of_mem_literals_coordinates {coordinates : Coordinates} {literal : Text}
    (h : literal ∈ coordinates.toJson.literals) : Json.Printable literal := by
  have hliteral : literal ∈
      [coordinates.stop, coordinates.fromColumn, coordinates.fromLine, coordinates.group,
        coordinates.start, coordinates.toColumn, coordinates.toLine].map Text.ofNat := h
  rcases List.mem_map.mp hliteral with ⟨n, _, rfl⟩
  exact printable_ofNat n

theorem ListsHighlights.printable (h : ListsHighlights pattern lines listing) :
    Json.Printable listing := by
  rcases h with ⟨captures, highlights, _, _, _, rfl⟩
  apply Json.printable_compact
  intro literal hliteral
  change literal ∈ Json.literalsOfItems _ ++ [] at hliteral
  rw [List.append_nil, Json.mem_literalsOfItems] at hliteral
  rcases hliteral with ⟨item, hitem, hliteral⟩
  rcases List.mem_map.mp hitem with ⟨highlight, _, rfl⟩
  exact printable_of_mem_literals_coordinates hliteral

theorem ListsHighlights.ofLine?_eq_none (h : ListsHighlights pattern lines listing) :
    Outcome.ofLine? listing = none := by
  rcases h with ⟨captures, highlights, _, _, _, rfl⟩
  have hname : ∀ text, Outcome.ofText? "highlights".toList text = none := by
    intro text
    unfold Outcome.ofText?
    rw [if_neg (by decide), if_neg (by decide), if_neg fun h => absurd h.left (by decide)]
  show Outcome.ofLine?
    ('\x7b' :: (Json.quote "highlights".toList ++ [':'] ++ Json.compact (.array _) ++ ['\x7d'])) =
      none
  rw [List.append_assoc, List.append_assoc]
  exact Outcome.ofLine?_eq_none hname

/-!
# Printed listings
-/

theorem highlightOutput_json_ok {regex : Text} (h : Pattern.compile regex = .ok pattern)
    (lines : List Text) :
    ∃ listing,
      ListsHighlights pattern lines listing ∧
        highlightOutput true regex lines = listing ++ ['\n'] := by
  refine ⟨_, listsHighlights_plan pattern lines, ?_⟩
  unfold highlightOutput
  rw [h]
  rfl

theorem highlightOutput_json_error {regex : Text} {error : PatternError}
    (h : Pattern.compile regex = .error error) (lines : List Text) :
    highlightOutput true regex lines = [] := by
  unfold highlightOutput
  rw [h]
  rfl

end Host
end LinePalette
