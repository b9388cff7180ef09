import LinePalette.Proofs.Host.Listing
import Mathlib.Algebra.GroupWithZero.Nat

/-!
# Positions of highlights

A highlight is printed with offsets into the joined lines and with the lines and columns of
its ends.  The newline behind a line belongs to it, so a highlight may start at the end of a
line or stop one column behind it, but not in the last line, which has no newline.
-/

namespace LinePalette

theorem Text.mem_of_offset {front part back lead rest : Text} {c : Char}
    (h : front ++ (part ++ back) = lead ++ c :: rest) (hlow : byteSize front ≤ byteSize lead)
    (hhigh : byteSize lead < byteSize front + byteSize part) : c ∈ part := by
  -- what stands in front of the character reaches into the part and not to its end
  obtain ⟨inner, rfl⟩ : ∃ inner, lead = front ++ inner := by
    rcases List.append_eq_append_iff.mp h with ⟨inner, hinner, _⟩ | ⟨excess, hexcess, _⟩
    · exact ⟨inner, hinner⟩
    · rw [hexcess, byteSize_append] at hlow
      have hempty : excess = [] := List.length_eq_zero_iff.mp
        (Nat.le_zero.mp (Nat.le_trans (length_le_byteSize excess) (by omega)))
      exact ⟨[], by rw [hexcess, hempty, List.append_nil, List.append_nil]⟩
  rw [List.append_assoc] at h
  rw [byteSize_append] at hhigh
  rcases List.append_eq_append_iff.mp (List.append_cancel_left h) with
    ⟨excess, hexcess, _⟩ | ⟨rest, hrest, hback⟩
  · rw [hexcess, byteSize_append] at hhigh
    omega
  · cases rest with
    | nil =>
        rw [hrest, List.append_nil] at hhigh
        omega
    | cons first rest =>
        rw [hrest, (List.cons.inj hback).left]
        exact List.mem_append_right inner List.mem_cons_self

namespace Host

variable {lines : List Text} {line : Text} {index : Nat} {start stop : Nat} {place : Place}

/-!
# Lines as segments
-/

theorem getElem?_segmentsOf (lines : List Text) (index : Nat) :
    (segmentsOf lines)[index]? =
      lines[index]?.map fun line =>
        if index + 1 < lines.length then line ++ ['\n'] else line := by
  induction lines generalizing index with
  | nil => rfl
  | cons line later ih =>
      cases later with
      | nil =>
          cases index with
          | zero => rfl
          | succ index => rfl
      | cons next later =>
          cases index with
          | zero => simp [segmentsOf]
          | succ index =>
              have hlater := ih index
              simpa [segmentsOf] using hlater

/-- The bytes of the lines in front of one, and of the newline behind each of them. -/
def offsetOfLine (lines : List Text) (index : Nat) : Nat :=
  ((lines.take index).map fun line => Text.byteSize line + 1).sum

theorem offsetOfLine_succ (h : lines[index]? = some line) :
    offsetOfLine lines (index + 1) = offsetOfLine lines index + (Text.byteSize line + 1) := by
  unfold offsetOfLine
  rw [List.take_add_one, h, List.map_append, List.sum_append]
  rfl

theorem sizeBefore_segmentsOf (h : index < lines.length) :
    Segments.sizeBefore (segmentsOf lines) index = offsetOfLine lines index := by
  induction index with
  | zero => rfl
  | succ index ih =>
      have hindex : index < lines.length := Nat.lt_of_succ_lt h
      have hline : lines[index]? = some lines[index] := List.getElem?_eq_getElem hindex
      have hsegment : (segmentsOf lines)[index]? = some (lines[index] ++ ['\n']) := by
        rw [getElem?_segmentsOf, hline, Option.map_some, if_pos h]
      rw [Segments.sizeBefore_succ hsegment, ih hindex, offsetOfLine_succ hline,
        Text.byteSize_append]
      rfl

theorem exists_around_line (h : lines[index]? = some line) :
    ∃ front back,
      Text.join ['\n'] lines = front ++ (line ++ back) ∧
      Text.byteSize front = offsetOfLine lines index ∧
      (index + 1 < lines.length -> ∃ later, back = ['\n'] ++ later) := by
  have hindex : index < lines.length := (List.getElem?_eq_some_iff.mp h).1
  have hsegment := getElem?_segmentsOf lines index
  rw [h, Option.map_some] at hsegment
  rcases Segments.exists_around hsegment with ⟨before, behind, hsegments, hlength⟩
  have hsize := sizeBefore_segmentsOf hindex
  rw [hsegments, ← hlength, Segments.sizeBefore_append_length, hlength] at hsize
  have hjoined : Text.join ['\n'] lines = Segments.joined before ++
      ((if index + 1 < lines.length then line ++ ['\n'] else line) ++
        Segments.joined behind) := by
    rw [← joined_segmentsOf, hsegments]
    exact List.flatten_append
  split at hjoined
  · rw [List.append_assoc] at hjoined
    exact ⟨_, _, hjoined, hsize, fun _ => ⟨_, rfl⟩⟩
  · next hlast => exact ⟨_, _, hjoined, hsize, fun hmore => absurd hmore hlast⟩

/-!
# Columns
-/

theorem line_of_opens (h : Segments.Opens (segmentsOf lines) start place) :
    ∃ line, lines[place.segment]? = some line ∧
      start = offsetOfLine lines place.segment + place.offset ∧
      place.offset ≤ Text.byteSize line ∧
      (place.offset = Text.byteSize line -> place.segment + 1 < lines.length) := by
  rcases h with ⟨segment, hsegment, hoffset, hstart⟩
  rw [getElem?_segmentsOf] at hsegment
  rcases Option.map_eq_some_iff.mp hsegment with ⟨line, hline, rfl⟩
  rw [sizeBefore_segmentsOf (List.getElem?_eq_some_iff.mp hline).1] at hstart
  refine ⟨line, hline, hstart, ?_⟩
  split at hoffset
  · next hmore =>
      rw [Text.byteSize_append] at hoffset
      exact ⟨Nat.le_of_lt_succ hoffset, fun _ => hmore⟩
  · exact ⟨Nat.le_of_lt hoffset, fun hend => absurd hend (Nat.ne_of_lt hoffset)⟩

theorem line_of_closes (h : Segments.Closes (segmentsOf lines) stop place) :
    ∃ line, lines[place.segment]? = some line ∧
      stop = offsetOfLine lines place.segment + place.offset ∧
      1 ≤ place.offset ∧
      place.offset ≤
        Text.byteSize line + if place.segment + 1 < lines.length then 1 else 0 := by
  rcases h with ⟨segment, hsegment, hpos, hoffset, hstop⟩
  rw [getElem?_segmentsOf] at hsegment
  rcases Option.map_eq_some_iff.mp hsegment with ⟨line, hline, rfl⟩
  rw [sizeBefore_segmentsOf (List.getElem?_eq_some_iff.mp hline).1] at hstop
  refine ⟨line, hline, hstop, hpos, ?_⟩
  split at hoffset
  · next hmore =>
      rw [Text.byteSize_append] at hoffset
      rw [if_pos hmore]
      exact hoffset
  · next hlast =>
      rw [if_neg hlast]
      exact hoffset

theorem newline_iff {lead rest : Text} {c : Char} {column : Nat}
    (hline : lines[index]? = some line) (hfree : '\n' ∉ line)
    (htext : Text.join ['\n'] lines = lead ++ c :: rest)
    (hlead : Text.byteSize lead = offsetOfLine lines index + column)
    (hcolumn : column ≤ Text.byteSize line)
    (hmore : column = Text.byteSize line -> index + 1 < lines.length) :
    column = Text.byteSize line ↔ c = '\n' := by
  rcases exists_around_line hline with ⟨front, back, hjoin, hfront, hback⟩
  rw [hjoin] at htext
  constructor
  · intro hend
    rcases hback (hmore hend) with ⟨later, rfl⟩
    rw [← List.append_assoc] at htext
    have hsize := Text.byteSize_append front line
    have hone : Text.byteSize ['\n'] = 1 := rfl
    exact List.mem_singleton.mp (Text.mem_of_offset htext (by omega) (by omega))
  · rintro rfl
    apply Classical.byContradiction
    intro hinside
    exact hfree (Text.mem_of_offset htext (by omega) (by omega))

/-!
# Coordinates
-/

end Host

namespace Coordinates

structure Denotes (lines : List Text) (number column offset : Nat) : Prop where
  number_pos : 1 ≤ number
  number_le : number ≤ lines.length
  offset_eq : offset = Host.offsetOfLine lines (number - 1) + column

/-- Both systems of coordinates name the stretch of the lines that was captured. -/
structure Agree (lines : List Text) (captured : Text) (coordinates : Coordinates) : Prop where
  opens : Denotes lines coordinates.fromLine coordinates.fromColumn coordinates.start
  closes : Denotes lines coordinates.toLine coordinates.toColumn coordinates.stop
  fromColumn : ∀ line, lines[coordinates.fromLine - 1]? = some line ->
    coordinates.fromColumn ≤ Text.byteSize line ∧
      (coordinates.fromColumn = Text.byteSize line ↔ captured.head? = some '\n') ∧
      (coordinates.fromColumn = Text.byteSize line -> coordinates.fromLine < lines.length)
  toColumn : ∀ line, lines[coordinates.toLine - 1]? = some line ->
    1 ≤ coordinates.toColumn ∧
      coordinates.toColumn ≤
        Text.byteSize line + if coordinates.toLine < lines.length then 1 else 0
  bytes_eq :
    ((Utf8.encode (Text.join ['\n'] lines)).drop coordinates.start).take
      (coordinates.stop - coordinates.start) = Utf8.encode captured

end Coordinates

namespace Host

theorem exists_first {text : Text} {span : Span} (horder : span.start < span.stop)
    (hstop : span.stop ≤ text.length) :
    ∃ c rest, text = text.take span.start ++ c :: rest ∧ (span.of text).head? = some c := by
  cases hdrop : text.drop span.start with
  | nil =>
      have hlength := congrArg List.length hdrop
      rw [List.length_drop, List.length_nil] at hlength
      omega
  | cons c rest =>
      refine ⟨c, rest, by rw [← hdrop, List.take_append_drop], ?_⟩
      unfold Span.of Text.slice
      rw [hdrop, ← Nat.succ_pred_eq_of_pos (Nat.sub_pos_of_lt horder)]
      rfl

theorem agree_of_shows {capture : Capture} {highlight : Highlight}
    (hfree : ∀ line ∈ lines, '\n' ∉ line) (horder : capture.span.start < capture.span.stop)
    (hstop : capture.span.stop ≤ (Text.join ['\n'] lines).length)
    (hshows : Highlight.Shows (segmentsOf lines) capture highlight) :
    (Coordinates.ofHighlight highlight).Agree lines
      (capture.span.of (Text.join ['\n'] lines)) := by
  rcases hshows with ⟨_, hflatStart, hflatStop, hopens, hcloses⟩
  rw [joined_segmentsOf] at hflatStart hflatStop
  rcases line_of_opens hopens with ⟨first, hfirst, hstart, hcolumn, hmore⟩
  rcases line_of_closes hcloses with ⟨last, hlast, hend, hpos, hbehind⟩
  refine ⟨⟨Nat.le_add_left 1 _, (List.getElem?_eq_some_iff.mp hfirst).1, hstart⟩,
    ⟨Nat.le_add_left 1 _, (List.getElem?_eq_some_iff.mp hlast).1, hend⟩, ?_, ?_, ?_⟩
  · intro line hline
    cases hfirst.symm.trans hline
    refine ⟨hcolumn, ?_, hmore⟩
    rcases exists_first horder hstop with ⟨c, rest, htext, hhead⟩
    have hlead : Text.byteSize ((Text.join ['\n'] lines).take capture.span.start) =
        offsetOfLine lines highlight.start.segment + highlight.start.offset :=
      hflatStart.symm.trans hstart
    have hmem := List.mem_of_getElem? hfirst
    rw [hhead, Option.some.injEq]
    exact newline_iff hfirst (hfree first hmem) htext hlead hcolumn hmore
  · intro line hline
    cases hlast.symm.trans hline
    exact ⟨hpos, hbehind⟩
  · show ((Utf8.encode (Text.join ['\n'] lines)).drop highlight.flatStart).take
      (highlight.flatStop - highlight.flatStart) = _
    rw [hflatStart, hflatStop]
    exact Utf8.slice_encode _ (Nat.le_of_lt horder)

/--
The highlights that are printed as JSON are those of the captures of the pattern in the
joined lines, by increasing match and in each match by increasing group.  The offsets of
each, and its lines and columns, name the same stretch: what its group captured.
-/
theorem printed_coordinates_agree {host : Host} {regex : Text} {pattern : Pattern}
    {lines : List Text} (hjson : host.json = true) (hcompile : Pattern.compile regex = .ok pattern)
    (hfree : ∀ line ∈ lines, '\n' ∉ line) (disk : Disk) :
    let text := Text.join ['\n'] lines
    ∃ (captures : List Capture) (printed : List Coordinates),
      (host.execute disk (.execute (.highlight regex)) lines).1 =
        (Json.object
          [("highlights".toList, .array (printed.map Coordinates.toJson))]).compact ++ ['\n'] ∧
      (∀ capture, capture ∈ captures ↔
        capture.found ∈ pattern.matchesIn text ∧
          capture.found.Took capture.group capture.span) ∧
      (captures.Pairwise fun earlier later =>
        (earlier.found.whole.start < later.found.whole.start ∧
          earlier.found.whole.stop ≤ later.found.whole.start) ∨
        (earlier.found = later.found ∧ earlier.group < later.group)) ∧
      List.Forall₂
        (fun capture coordinates =>
          coordinates.group = capture.group ∧
            coordinates.Agree lines (capture.span.of text))
        captures printed := by
  intro text
  rcases highlightOutput_json_ok hcompile lines with ⟨listing, hlisting, hprinted⟩
  rcases hlisting with ⟨captures, highlights, hmem, hordered, hshows, hline⟩
  refine ⟨captures, highlights.map Coordinates.ofHighlight, ?_, hmem, hordered, ?_⟩
  · show highlightOutput host.json regex lines = _
    rw [hjson, hprinted, hline, List.map_map]
    rfl
  · rw [List.forall₂_map_right_iff]
    apply (shows_within hmem hshows).imp
    intro capture highlight h
    rcases h with ⟨⟨horder, hstop⟩, hshown⟩
    exact ⟨hshown.group_eq, agree_of_shows hfree horder hstop hshown⟩

/-- A capture that starts with the newline of a line and stops in the last one. -/
theorem printed_coordinates_agree_across :
    let host : Host :=
      { target := .clipboard, source := .clipboard, options := Options.default, json := true }
    let lines : List Text := [[], ['a', 'é'], ['b']]
    let text := Text.join ['\n'] lines
    ∃ pattern : Pattern, Pattern.compile "(\n)(b)".toList = .ok pattern ∧
      (pattern.matchesIn text).map (fun found => (found.whole.start, found.whole.stop)) =
        [(3, 5)] ∧
      (∀ line ∈ lines, '\n' ∉ line) ∧
      ∃ (captures : List Capture) (printed : List Coordinates),
        (host.execute { here := [], entries := [] } (.execute (.highlight "(\n)(b)".toList))
          lines).1 =
          (Json.object
            [("highlights".toList, .array (printed.map Coordinates.toJson))]).compact ++ ['\n'] ∧
        List.Forall₂
          (fun capture coordinates =>
            coordinates.group = capture.group ∧
              coordinates.Agree lines (capture.span.of text))
          captures printed := by
  intro host lines text
  have hfree : ∀ line ∈ lines, '\n' ∉ line := by decide
  obtain ⟨pattern, hcompile, hmatches⟩ : ∃ pattern : Pattern,
      Pattern.compile "(\n)(b)".toList = .ok pattern ∧
        (pattern.matchesIn text).map (fun found => (found.whole.start, found.whole.stop)) =
          [(3, 5)] :=
    Pattern.exists_of_map_compile_eq (by decide +kernel)
  rcases @printed_coordinates_agree host _ pattern lines rfl hcompile hfree
    { here := [], entries := [] } with ⟨captures, printed, hprinted, _, _, hagree⟩
  exact ⟨pattern, hcompile, hmatches, hfree, captures, printed, hprinted, hagree⟩

end Host
end LinePalette
