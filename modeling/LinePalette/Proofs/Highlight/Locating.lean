import LinePalette.Highlight.Segments
import LinePalette.Proofs.Text.Offsets

/-!
# Locating stretches

A stretch of the joined text is found again in the segments that hold its first and its
last byte.  A walk over the segments that has not met the start yet has passed only text
in front of it, and a walk that goes on has passed only text in front of the end.  So the
walk ends in the right segments, and nothing that it subtracts is too large.
-/

namespace LinePalette
namespace Segments

variable {segments front back : List Text} {segment : Text} {start stop index base : Nat}
  {known : Option Place} {opening closing : Place}

/-!
# Sizes
-/

def sizeBefore (segments : List Text) (index : Nat) : Nat :=
  Text.byteSize (joined (segments.take index))

theorem byteSize_joined_append (front back : List Text) :
    Text.byteSize (joined (front ++ back)) =
      Text.byteSize (joined front) + Text.byteSize (joined back) := by
  unfold joined
  rw [List.flatten_append, Text.byteSize_append]

theorem byteSize_joined_cons (segment : Text) (back : List Text) :
    Text.byteSize (joined (segment :: back)) =
      Text.byteSize segment + Text.byteSize (joined back) :=
  Text.byteSize_append segment (joined back)

theorem sizeBefore_append_length (front back : List Text) :
    sizeBefore (front ++ back) front.length = Text.byteSize (joined front) := by
  unfold sizeBefore
  rw [List.take_left]

theorem sizeBefore_succ (h : segments[index]? = some segment) :
    sizeBefore segments (index + 1) = sizeBefore segments index + Text.byteSize segment := by
  unfold sizeBefore
  rw [List.take_add_one, h, byteSize_joined_append]
  exact congrArg (_ + ·) (byteSize_joined_cons segment [])

theorem sizeBefore_mono {fewer more : Nat} (h : fewer ≤ more) :
    sizeBefore segments fewer ≤ sizeBefore segments more := by
  have htake : segments.take more =
      segments.take fewer ++ (segments.drop fewer).take (more - fewer) := by
    rw [← List.take_add, Nat.add_sub_cancel' h]
  unfold sizeBefore
  rw [htake, byteSize_joined_append]
  exact Nat.le_add_right _ _

theorem exists_around (h : segments[index]? = some segment) :
    ∃ front back, segments = front ++ segment :: back ∧ front.length = index := by
  rcases List.getElem?_eq_some_iff.mp h with ⟨hindex, hsegment⟩
  refine ⟨segments.take index, segments.drop (index + 1), ?_, ?_⟩
  · rw [← hsegment, ← List.drop_eq_getElem_cons hindex, List.take_append_drop]
  · exact List.length_take_of_le (Nat.le_of_lt hindex)

/-!
# Places

A stretch starts in front of a byte of its first segment and stops behind a byte of its
last one, so both hold some text.
-/

/-- The place of the byte that starts at an offset. -/
def Opens (segments : List Text) (start : Nat) (place : Place) : Prop :=
  ∃ segment, segments[place.segment]? = some segment ∧
    place.offset < Text.byteSize segment ∧
    start = sizeBefore segments place.segment + place.offset

/-- The place behind the byte that ends at an offset. -/
def Closes (segments : List Text) (stop : Nat) (place : Place) : Prop :=
  ∃ segment, segments[place.segment]? = some segment ∧
    1 ≤ place.offset ∧ place.offset ≤ Text.byteSize segment ∧
    stop = sizeBefore segments place.segment + place.offset

theorem exists_opens (h : start < Text.byteSize (joined segments)) :
    ∃ place, Opens segments start place := by
  induction segments generalizing start with
  | nil => exact absurd h (Nat.not_lt_zero start)
  | cons segment later ih =>
      rw [byteSize_joined_cons] at h
      by_cases hhere : start < Text.byteSize segment
      · exact ⟨{ segment := 0, offset := start }, segment, rfl, hhere, (Nat.zero_add start).symm⟩
      · have hlater : start - Text.byteSize segment < Text.byteSize (joined later) := by omega
        rcases ih hlater with ⟨place, found, hfound, hoffset, hstart⟩
        refine ⟨{ place with segment := place.segment + 1 }, found, hfound, hoffset, ?_⟩
        have hbefore : sizeBefore (segment :: later) (place.segment + 1) =
            Text.byteSize segment + sizeBefore later place.segment :=
          byteSize_joined_cons segment (later.take place.segment)
        show start = sizeBefore (segment :: later) (place.segment + 1) + place.offset
        omega

theorem exists_closes (hpos : 0 < stop) (h : stop ≤ Text.byteSize (joined segments)) :
    ∃ place, Closes segments stop place := by
  have hlast : stop - 1 < Text.byteSize (joined segments) := by omega
  rcases exists_opens hlast with ⟨place, segment, hsegment, hoffset, hstop⟩
  refine ⟨{ place with offset := place.offset + 1 }, segment, hsegment, Nat.le_add_left 1 _,
    hoffset, ?_⟩
  show stop = sizeBefore segments place.segment + (place.offset + 1)
  omega

theorem Opens.segment_le (hopens : Opens segments start opening)
    (hcloses : Closes segments stop closing) (h : start < stop) :
    opening.segment ≤ closing.segment := by
  rcases hopens with ⟨_, _, _, hstart⟩
  rcases hcloses with ⟨segment, hsegment, _, hoffset, hstop⟩
  apply Nat.le_of_not_lt
  intro hearlier
  have hpassed : sizeBefore segments (closing.segment + 1) ≤
      sizeBefore segments opening.segment := sizeBefore_mono hearlier
  rw [sizeBefore_succ hsegment] at hpassed
  omega

theorem Closes.segment_lt {count : Nat} (h : Closes segments stop closing)
    (hstop : stop = sizeBefore segments count) : closing.segment < count := by
  rcases h with ⟨_, _, hpos, _, hplace⟩
  apply Nat.lt_of_not_le
  intro hlater
  have hpassed : sizeBefore segments count ≤ sizeBefore segments closing.segment :=
    sizeBefore_mono hlater
  omega

/-!
# Walks
-/

theorem locateFrom_cons_known (place : Place) :
    locateFrom start stop index base (some place) (segment :: back) =
      if stop ≤ base + Text.byteSize segment then
        some (place, { segment := index, offset := stop - base })
      else
        locateFrom start stop (index + 1) (base + Text.byteSize segment) (some place) back :=
  rfl

theorem locateFrom_cons_of_le (h : base + Text.byteSize segment ≤ start) :
    locateFrom start stop index base none (segment :: back) =
      if stop ≤ base + Text.byteSize segment then
        none
      else
        locateFrom start stop (index + 1) (base + Text.byteSize segment) none back := by
  show (if stop ≤ base + Text.byteSize segment then
      (if start < base + Text.byteSize segment then _ else none : Option Place).map _
    else
      locateFrom start stop (index + 1) (base + Text.byteSize segment)
        (if start < base + Text.byteSize segment then _ else none) back) = _
  rw [if_neg (Nat.not_lt.mpr h)]
  rfl

theorem locateFrom_cons_of_lt (h : start < base + Text.byteSize segment) :
    locateFrom start stop index base none (segment :: back) =
      locateFrom start stop index base (some { segment := index, offset := start - base })
        (segment :: back) := by
  unfold locateFrom
  simp only [if_pos h]

/-- Segments that end before the stretch does are passed, and the start is not in them. -/
theorem locateFrom_append (hstart : known = none -> base + Text.byteSize (joined front) ≤ start)
    (hstop : base + Text.byteSize (joined front) < stop) :
    locateFrom start stop index base known (front ++ back) =
      locateFrom start stop (index + front.length) (base + Text.byteSize (joined front)) known
        back := by
  induction front generalizing index base with
  | nil => rfl
  | cons segment front ih =>
      rw [byteSize_joined_cons, ← Nat.add_assoc] at hstart hstop ⊢
      have hlength : index + (segment :: front).length = index + 1 + front.length := by
        rw [List.length_cons, Nat.add_assoc, Nat.add_comm 1]
      rw [hlength, ← ih hstart hstop, List.cons_append]
      cases known with
      | some place => rw [locateFrom_cons_known, if_neg (by omega)]
      | none =>
          have hbefore := hstart rfl
          rw [locateFrom_cons_of_le (by omega), if_neg (by omega)]

theorem locateFrom_append_known (place : Place)
    (hstop : base + Text.byteSize (joined front) < stop) :
    locateFrom start stop index base (some place) (front ++ back) =
      locateFrom start stop (index + front.length) (base + Text.byteSize (joined front))
        (some place) back :=
  locateFrom_append (fun hunknown => nomatch hunknown) hstop

theorem locateFrom_eq_none (h : base + Text.byteSize (joined segments) < stop) :
    locateFrom start stop index base known segments = none := by
  induction segments generalizing index base known with
  | nil => rfl
  | cons segment later ih =>
      rw [byteSize_joined_cons, ← Nat.add_assoc] at h
      unfold locateFrom
      simp only
      rw [if_neg (by omega)]
      exact ih h

theorem locate_eq_of_opens (hopens : Opens segments start opening) (h : start < stop) :
    locate segments start stop = locateFrom start stop 0 0 (some opening) segments := by
  rcases hopens with ⟨segment, hsegment, hoffset, hstart⟩
  rcases exists_around hsegment with ⟨front, back, rfl, hlength⟩
  rw [← hlength, sizeBefore_append_length] at hstart
  have hplace : opening =
      { segment := 0 + front.length, offset := start - (0 + Text.byteSize (joined front)) } := by
    rw [Nat.zero_add, Nat.zero_add, hlength, hstart, Nat.add_sub_cancel_left]
  have hstop : 0 + Text.byteSize (joined front) < stop := by omega
  unfold locate
  rw [locateFrom_append (fun _ => by omega) hstop, locateFrom_cons_of_lt (by omega), ← hplace,
    locateFrom_append_known opening hstop]

theorem locateFrom_of_closes (hcloses : Closes segments stop closing) :
    locateFrom start stop 0 0 (some opening) segments = some (opening, closing) := by
  rcases hcloses with ⟨segment, hsegment, hpos, hoffset, hstop⟩
  rcases exists_around hsegment with ⟨front, back, rfl, hlength⟩
  rw [← hlength, sizeBefore_append_length] at hstop
  have hplace : closing =
      { segment := 0 + front.length, offset := stop - (0 + Text.byteSize (joined front)) } := by
    rw [Nat.zero_add, Nat.zero_add, hlength, hstop, Nat.add_sub_cancel_left]
  rw [locateFrom_append_known opening (by omega),
    locateFrom_cons_known, if_pos (by omega), ← hplace]

theorem locate_eq_none_iff (h : start < stop) :
    locate segments start stop = none ↔ Text.byteSize (joined segments) < stop := by
  constructor
  · intro hnone
    apply Nat.lt_of_not_le
    intro hfits
    rcases exists_opens (Nat.lt_of_lt_of_le h hfits) with ⟨opening, hopens⟩
    rcases exists_closes (Nat.zero_lt_of_lt h) hfits with ⟨closing, hcloses⟩
    rw [locate_eq_of_opens hopens h, locateFrom_of_closes hcloses] at hnone
    cases hnone
  · intro hlong
    exact locateFrom_eq_none (by omega)

theorem locate_eq_some_iff (h : start < stop) :
    locate segments start stop = some (opening, closing) ↔
      Opens segments start opening ∧ Closes segments stop closing := by
  constructor
  · intro hfound
    have hfits : stop ≤ Text.byteSize (joined segments) := by
      apply Nat.le_of_not_lt
      intro hlong
      rw [(locate_eq_none_iff h).mpr hlong] at hfound
      cases hfound
    rcases exists_opens (Nat.lt_of_lt_of_le h hfits) with ⟨first, hopens⟩
    rcases exists_closes (Nat.zero_lt_of_lt h) hfits with ⟨last, hcloses⟩
    rw [locate_eq_of_opens hopens h, locateFrom_of_closes hcloses] at hfound
    cases hfound
    exact ⟨hopens, hcloses⟩
  · rintro ⟨hopens, hcloses⟩
    rw [locate_eq_of_opens hopens h, locateFrom_of_closes hcloses]

/-!
# Reading across segments
-/

/-- The bytes from one place to another, read across the segments from the first to the last. -/
def bytesBetween (segments : List Text) (opening closing : Place) : Bytes :=
  let bytesOf := fun (index : Nat) => Utf8.encode (segments[index]?.getD [])
  if opening.segment = closing.segment then
    ((bytesOf closing.segment).take closing.offset).drop opening.offset
  else
    (bytesOf opening.segment).drop opening.offset ++
      Utf8.encode (joined ((segments.take closing.segment).drop (opening.segment + 1))) ++
      (bytesOf closing.segment).take closing.offset

theorem drop_encode_joined (front : List Text) (bytes : Bytes) (offset : Nat) :
    (Utf8.encode (joined front) ++ bytes).drop (Text.byteSize (joined front) + offset) =
      bytes.drop offset := by
  rw [← Utf8.length_encode, ← List.drop_drop, List.drop_left]

theorem take_encode_joined (hsegment : segments[index]? = some segment) {offset : Nat}
    (hoffset : offset ≤ Text.byteSize segment) :
    (Utf8.encode (joined segments)).take (sizeBefore segments index + offset) =
      Utf8.encode (joined (segments.take index)) ++ (Utf8.encode segment).take offset := by
  rcases exists_around hsegment with ⟨front, back, rfl, rfl⟩
  have hjoined : joined (front ++ segment :: back) = joined front ++ (segment ++ joined back) :=
    List.flatten_append
  rw [sizeBefore_append_length, List.take_left, hjoined, Utf8.encode_append, Utf8.encode_append,
    ← Utf8.length_encode, List.take_length_add_append]
  rw [List.take_append_of_le_length (by rw [Utf8.length_encode]; exact hoffset)]

theorem encode_joined_take (hsegment : segments[index]? = some segment) {later : Nat}
    (h : index < later) :
    Utf8.encode (joined (segments.take later)) =
      Utf8.encode (joined (segments.take index)) ++
        (Utf8.encode segment ++
          Utf8.encode (joined ((segments.take later).drop (index + 1)))) := by
  have hkept : (segments.take later)[index]? = some segment := by
    rw [List.getElem?_take_of_lt h, hsegment]
  have hfront : (segments.take later).take index = segments.take index := by
    rw [List.take_take, Nat.min_eq_left (Nat.le_of_lt h)]
  rcases exists_around hkept with ⟨front, back, htake, rfl⟩
  rw [← hfront, htake, List.take_left, List.drop_length_add_append]
  show Utf8.encode (joined (front ++ segment :: back)) = _
  have hjoined : joined (front ++ segment :: back) = joined front ++ (segment ++ joined back) :=
    List.flatten_append
  rw [hjoined, Utf8.encode_append, Utf8.encode_append]
  rfl

/-- Read across the segments, the places enclose the bytes of the stretch. -/
theorem bytesBetween_eq (hopens : Opens segments start opening)
    (hcloses : Closes segments stop closing) (h : start < stop) :
    bytesBetween segments opening closing =
      ((Utf8.encode (joined segments)).drop start).take (stop - start) := by
  have horder := hopens.segment_le hcloses h
  rcases hopens with ⟨first, hfirst, hoffset, hstart⟩
  rcases hcloses with ⟨last, hlast, _, hend, hstop⟩
  have hread : ((Utf8.encode (joined segments)).drop start).take (stop - start) =
      (Utf8.encode (joined (segments.take closing.segment)) ++
        (Utf8.encode last).take closing.offset).drop start := by
    rw [← take_encode_joined hlast hend, ← hstop, List.drop_take]
  rw [hread, hstart]
  unfold bytesBetween sizeBefore
  simp only [hfirst, hlast, Option.getD_some]
  by_cases hsame : opening.segment = closing.segment
  · rw [if_pos hsame, hsame, drop_encode_joined]
  · rw [if_neg hsame, encode_joined_take hfirst (Nat.lt_of_le_of_ne horder hsame),
      List.append_assoc, List.append_assoc, List.append_assoc, drop_encode_joined,
      List.drop_append_of_le_length (by rw [Utf8.length_encode]; exact Nat.le_of_lt hoffset)]

/-!
# Subtractions
-/

def extents : Nat -> List Text -> List (Nat × Nat)
  | _, [] => []
  | base, segment :: later =>
      (base, Text.byteSize segment) :: extents (base + Text.byteSize segment) later

def difference? (left right : Nat) : Option Nat :=
  if right ≤ left then some (left - right) else none

def meet? (start index base size : Nat) : Option Place -> Option (Option Place)
  | some place => some (some place)
  | none =>
      if start < base + size then
        (difference? start base).map fun offset => some { segment := index, offset := offset }
      else
        some none

/--
The walk over offsets and sizes.  There is no answer at all when a subtraction would go
below zero.
-/
def walk? (start stop : Nat) :
    Nat -> Option Place -> List (Nat × Nat) -> Option (Option (Place × Place))
  | _, _, [] => some none
  | index, known, (base, size) :: later =>
      match meet? start index base size known with
      | none => none
      | some known =>
          if stop ≤ base + size then
            (difference? stop base).map fun offset =>
              known.map fun place => (place, { segment := index, offset := offset })
          else
            walk? start stop (index + 1) known later

theorem difference?_of_le {left right : Nat} (h : right ≤ left) :
    difference? left right = some (left - right) :=
  if_pos h

theorem walk?_extents (hstart : known = none -> base ≤ start) (hstop : base ≤ stop) :
    walk? start stop index known (extents base segments) =
      some (locateFrom start stop index base known segments) := by
  induction segments generalizing index base known with
  | nil => rfl
  | cons segment later ih =>
      have hknown : ∀ place,
          walk? start stop index (some place) (extents base (segment :: later)) =
            some (locateFrom start stop index base (some place) (segment :: later)) := by
        intro place
        rw [locateFrom_cons_known, extents, walk?, meet?]
        simp only
        by_cases hend : stop ≤ base + Text.byteSize segment
        · rw [if_pos hend, if_pos hend, difference?_of_le hstop]
          rfl
        · rw [if_neg hend, if_neg hend]
          exact ih (fun hunknown => nomatch hunknown) (by omega)
      cases known with
      | some place => exact hknown place
      | none =>
          by_cases hbegin : start < base + Text.byteSize segment
          · have hmet : meet? start index base (Text.byteSize segment) none =
                some (some { segment := index, offset := start - base }) := by
              rw [meet?, if_pos hbegin, difference?_of_le (hstart rfl)]
              rfl
            rw [locateFrom_cons_of_lt hbegin, ← hknown, extents, walk?, walk?, hmet, meet?]
          · have hpassed : base + Text.byteSize segment ≤ start := Nat.le_of_not_lt hbegin
            rw [locateFrom_cons_of_le hpassed, extents, walk?, meet?, if_neg hbegin]
            simp only
            by_cases hend : stop ≤ base + Text.byteSize segment
            · rw [if_pos hend, if_pos hend, difference?_of_le hstop]
              rfl
            · rw [if_neg hend, if_neg hend]
              exact ih (fun _ => hpassed) (by omega)

/-!
# Stretches
-/

/--
A stretch that is not empty is found unless it goes on behind the end of the text.  The
places that are found are the one where a segment holds the first byte and the one where a
segment holds the last byte, an end between segments belonging to the earlier one; what lies
between them, read across the segments, are the bytes of the stretch.  For no start and no
end, in order or not, does the walk subtract more than there is.
-/
theorem stretch_located_where_it_lies (segments : List Text) (start stop : Nat) :
    (start < stop ->
      (locate segments start stop = none ↔ Text.byteSize (joined segments) < stop) ∧
      ∀ opening closing,
        (locate segments start stop = some (opening, closing) ↔
          Opens segments start opening ∧ Closes segments stop closing) ∧
        (locate segments start stop = some (opening, closing) ->
          opening.segment ≤ closing.segment ∧
          (∀ count, stop = sizeBefore segments count -> closing.segment < count) ∧
          bytesBetween segments opening closing =
            ((Utf8.encode (joined segments)).drop start).take (stop - start))) ∧
    walk? start stop 0 none (extents 0 segments) = some (locate segments start stop) := by
  constructor
  · intro h
    refine ⟨locate_eq_none_iff h, ?_⟩
    intro opening closing
    refine ⟨locate_eq_some_iff h, ?_⟩
    intro hfound
    rcases (locate_eq_some_iff h).mp hfound with ⟨hopens, hcloses⟩
    refine ⟨hopens.segment_le hcloses h, ?_, bytesBetween_eq hopens hcloses h⟩
    intro count hstop
    exact hcloses.segment_lt hstop
  · exact walk?_extents (fun _ => Nat.zero_le start) (Nat.zero_le stop)

/-- From an empty segment over another one to the end of a third, which an empty one follows. -/
theorem stretch_located_where_it_lies_across :
    let segments : List Text := [[], ['a', 'é'], [], ['b'], []]
    1 < 4 ∧
      locate segments 1 4 =
        some ({ segment := 1, offset := 1 }, { segment := 3, offset := 1 }) ∧
      (∀ count, 4 = sizeBefore segments count -> 3 < count) ∧
      bytesBetween segments { segment := 1, offset := 1 } { segment := 3, offset := 1 } =
        [195, 169, 98] := by
  intro segments
  rcases stretch_located_where_it_lies segments 1 4 with ⟨hfound, _⟩
  have hlocated : locate segments 1 4 =
      some ({ segment := 1, offset := 1 }, { segment := 3, offset := 1 }) := by decide
  rcases ((hfound (by decide)).right _ _).right hlocated with ⟨_, hearlier, hbytes⟩
  refine ⟨by decide, hlocated, hearlier, ?_⟩
  rw [hbytes]
  decide +kernel

end Segments
end LinePalette
