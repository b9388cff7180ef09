import LinePalette.Proofs.Highlight.Planning

/-!
# Wrapping highlights

Whoever wraps the highlights of a plan one by one, in the order of the plan and at the
offsets as planned, relies on each highlight lying in front of those before it.  Across
matches this is so.  Within a match it is so just when the groups that took part stand from
left to right in the order of their numbers; then every pair of markers encloses what its
group took, and otherwise some offsets are no longer right when their turn comes.
-/

namespace LinePalette

/-!
# Orders of groups
-/

/-- Groups with higher numbers took their text behind the groups with lower ones. -/
def Match.InGroupOrder (found : Match) : Prop :=
  ∀ low high lowSpan highSpan, found.Took low lowSpan -> found.Took high highSpan ->
    low < high -> lowSpan.stop ≤ highSpan.start

/-- In a list that is ordered, what holds of all ordered pairs holds along the list. -/
theorem pairwise_iff_of_ordered {α : Type} {order relation : α -> α -> Prop} {list : List α}
    (hordered : list.Pairwise order) (hasymm : ∀ one other, order one other -> ¬order other one) :
    list.Pairwise relation ↔
      ∀ one ∈ list, ∀ other ∈ list, order one other -> relation one other := by
  constructor
  · intro hrelated
    induction list with
    | nil => exact fun _ hmem => absurd hmem List.not_mem_nil
    | cons first rest ih =>
        rcases List.pairwise_cons.mp hordered with ⟨hfirst, hrest⟩
        rcases List.pairwise_cons.mp hrelated with ⟨hrelates, hlater⟩
        intro one hone other hother horder
        rcases List.mem_cons.mp hone with hone | hone
        · rcases List.mem_cons.mp hother with hother | hother
          · rw [hone, hother] at horder
            exact absurd horder (hasymm first first horder)
          · rw [hone]
            exact hrelates other hother
        · rcases List.mem_cons.mp hother with hother | hother
          · rw [hother] at horder
            exact absurd (hfirst one hone) (hasymm one first horder)
          · exact ih hrest hlater one hone other hother horder
  · intro hall
    exact hordered.imp_of_mem fun hone hother horder => hall _ hone _ hother horder

theorem pairwise_iff_forall_front {α : Type} {relation : α -> α -> Prop} {list : List α} :
    list.Pairwise relation ↔
      ∀ front next back, list = front ++ next :: back -> ∀ one ∈ front, relation one next := by
  constructor
  · intro hrelated front next back hlist one hone
    rw [hlist] at hrelated
    exact (List.pairwise_append.mp hrelated).2.2 one hone next List.mem_cons_self
  · intro hall
    induction list with
    | nil => exact List.Pairwise.nil
    | cons first rest ih =>
        apply List.Pairwise.cons
        · intro other hother
          rcases List.append_of_mem hother with ⟨front, back, rfl⟩
          exact hall (first :: front) other back rfl first List.mem_cons_self
        · apply ih
          intro front next back hrest one hone
          exact hall (first :: front) next back (congrArg (first :: ·) hrest) one
            (List.mem_cons_of_mem _ hone)

theorem Match.captures_pairwise_iff (found : Match) :
    (found.captures.Pairwise fun earlier later => later.span.stop ≤ earlier.span.start) ↔
      found.InGroupOrder := by
  rw [pairwise_iff_of_ordered found.captures_ordered fun _ _ horder => Nat.lt_asymm horder]
  constructor
  · intro hall low high lowSpan highSpan hlow hhigh horder
    exact hall { found := found, group := high, span := highSpan }
      (Match.mem_captures_iff.mpr ⟨rfl, hhigh⟩)
      { found := found, group := low, span := lowSpan }
      (Match.mem_captures_iff.mpr ⟨rfl, hlow⟩) horder
  · intro hall earlier hearlier later hlater horder
    exact hall later.group earlier.group later.span earlier.span
      (Match.mem_captures_iff.mp hlater).2 (Match.mem_captures_iff.mp hearlier).2 horder

theorem Pattern.captures_pairwise_iff (pattern : Pattern) (text : Text) :
    ((pattern.captures text).Pairwise fun earlier later =>
        later.span.stop ≤ earlier.span.start) ↔
      ∀ found ∈ pattern.matchesIn text, found.InGroupOrder := by
  have happart : (pattern.matchesIn text).reverse.Pairwise fun behind before =>
      ∀ earlier ∈ behind.captures, ∀ later ∈ before.captures,
        later.span.stop ≤ earlier.span.start := by
    apply (Pattern.captures_apart pattern text).imp_of_mem
    intro behind before hbehind hbefore hapart earlier hearlier later hlater
    have horder := hapart earlier hearlier later hlater
    have hstart := (Pattern.captures_within
      (List.mem_flatMap.mpr ⟨behind, hbehind, hearlier⟩)).1
    have hstop := (Pattern.captures_within (List.mem_flatMap.mpr ⟨before, hbefore, hlater⟩)).2.1
    omega
  unfold Pattern.captures
  rw [List.pairwise_flatMap, and_iff_left happart]
  simp only [List.mem_reverse, Match.captures_pairwise_iff]

namespace Highlight

variable {segments : List Text} {text wrapped front middle back tail : Text} {offset : Nat}
  {highlight : Highlight} {highlights : List Highlight} {opening closing : Highlight -> Text}

/-!
# Wrapping
-/

def wrap (opening closing : Highlight -> Text) (text : Text) (highlight : Highlight) : Text :=
  Text.takeBytes highlight.flatStart text ++
    (opening highlight ++
      (Text.sliceBytes highlight.flatStart highlight.flatStop text ++
        (closing highlight ++ Text.dropBytes highlight.flatStop text)))

def wrapAll (opening closing : Highlight -> Text) (text : Text) (highlights : List Highlight) :
    Text :=
  highlights.foldl (wrap opening closing) text

/--
The text with the part under each highlight between its markers, for highlights from right
to left: the first of them divides the text, and the part in front of it goes on to be marked.
-/
def marked (opening closing : Highlight -> Text) : Text -> List Highlight -> Text
  | text, [] => text
  | text, highlight :: earlier =>
      marked opening closing (Text.takeBytes highlight.flatStart text) earlier ++
        (opening highlight ++
          (Text.sliceBytes highlight.flatStart highlight.flatStop text ++
            (closing highlight ++ Text.dropBytes highlight.flatStop text)))

structure Fits (text : Text) (highlight : Highlight) : Prop where
  start : Text.IsBoundary text highlight.flatStart
  stop : Text.IsBoundary text highlight.flatStop
  start_le_stop : highlight.flatStart ≤ highlight.flatStop

theorem Fits.takeBytes (h : highlight.Fits text) (hstop : highlight.flatStop ≤ offset) :
    highlight.Fits (Text.takeBytes offset text) :=
  ⟨h.start.takeBytes (Nat.le_trans h.start_le_stop hstop), h.stop.takeBytes hstop,
    h.start_le_stop⟩

theorem wrap_append (hstart : highlight.flatStart = Text.byteSize front)
    (hstop : highlight.flatStop = Text.byteSize front + Text.byteSize middle) :
    wrap opening closing (front ++ (middle ++ back)) highlight =
      front ++ (opening highlight ++ (middle ++ (closing highlight ++ back))) := by
  unfold wrap
  rw [hstart, hstop, Text.takeBytes_byteSize, Text.sliceBytes_append,
    Text.dropBytes_append]

theorem marked_append (hstart : highlight.flatStart = Text.byteSize front)
    (hstop : highlight.flatStop = Text.byteSize front + Text.byteSize middle) :
    marked opening closing (front ++ (middle ++ back)) (highlight :: highlights) =
      marked opening closing front highlights ++
        (opening highlight ++ (middle ++ (closing highlight ++ back))) := by
  rw [marked, hstart, hstop, Text.takeBytes_byteSize, Text.sliceBytes_append,
    Text.dropBytes_append]

/-- In order, the markers go where they belong, and nothing behind them matters. -/
theorem wrapAll_append (hfits : ∀ highlight ∈ highlights, highlight.Fits front)
    (hordered : highlights.Pairwise fun earlier later => later.flatStop ≤ earlier.flatStart) :
    wrapAll opening closing (front ++ tail) highlights =
      marked opening closing front highlights ++ tail := by
  unfold wrapAll
  induction highlights generalizing front tail with
  | nil => rfl
  | cons highlight later ih =>
      rcases List.forall_mem_cons.mp hfits with ⟨hfirst, hlater⟩
      rcases List.pairwise_cons.mp hordered with ⟨hbehind, hrest⟩
      rcases hfirst.start.divide hfirst.stop hfirst.start_le_stop with
        ⟨before, middle, back, rfl, hstart, hstop⟩
      have hfits : ∀ other ∈ later, other.Fits before := by
        intro other hother
        have hother := (hlater other hother).takeBytes (hbehind other hother)
        rw [← hstart, Text.takeBytes_byteSize] at hother
        exact hother
      rw [List.foldl_cons, List.append_assoc, List.append_assoc,
        wrap_append hstart.symm (by rw [hstop]), ih hfits hrest,
        marked_append hstart.symm (by rw [hstop])]
      simp only [List.append_assoc]

/-!
# Offsets that stay right

Up to an offset a text is intact or spoiled.  It is spoiled by the first marker that goes in
front of the offset, and stays so: what stands first in the marker is found nowhere in the
text, and no later marker hides it without being found itself.
-/

/-- Up to an offset, nothing has changed. -/
def Intact (text : Text) (offset : Nat) (wrapped : Text) : Prop :=
  Text.takeBytes offset wrapped = Text.takeBytes offset text

/-- Some character in front of an offset is none of the text, and all before it is intact. -/
def Spoiled (text : Text) (offset : Nat) (wrapped : Text) : Prop :=
  ∃ place c rest, Text.IsBoundary text place ∧ place < offset ∧
    wrapped = Text.takeBytes place text ++ c :: rest ∧ c ∉ text

/-- Every opening marker starts with a character that the text does not hold. -/
def Fresh (opening : Highlight -> Text) (text : Text) : Prop :=
  ∀ highlight, ∃ c rest, opening highlight = c :: rest ∧ c ∉ text

theorem Intact.mono {earlier : Nat} (h : Intact text offset wrapped) (hearlier : earlier ≤ offset) :
    Intact text earlier wrapped := by
  unfold Intact at h ⊢
  rw [← Text.takeBytes_takeBytes hearlier wrapped, h, Text.takeBytes_takeBytes hearlier]

theorem Spoiled.not_intact (h : Spoiled text offset wrapped) (hoffset : Text.IsBoundary text offset) :
    ¬Intact text offset wrapped := by
  rcases h with ⟨place, c, rest, hplace, hbefore, rfl, hc⟩
  rcases hplace.divide hoffset (Nat.le_of_lt hbefore) with
    ⟨front, middle, back, rfl, rfl, hmiddle⟩
  unfold Intact
  rw [Text.takeBytes_byteSize, Text.takeBytes_append_of_le (Nat.le_of_lt hbefore),
    Text.takeBytes_append_of_le (Nat.le_of_lt hbefore), ← hmiddle, Nat.add_sub_cancel_left,
    Text.takeBytes_byteSize]
  intro hsame
  have hmiddle_eq := List.append_cancel_left hsame
  rw [Text.takeBytes] at hmiddle_eq
  split at hmiddle_eq
  · apply hc
    rw [← hmiddle_eq]
    exact List.mem_append_right _ (List.mem_append_left _ List.mem_cons_self)
  · rw [← hmiddle_eq] at hmiddle
    exact Nat.lt_irrefl _ (hmiddle ▸ hbefore)

theorem Intact.wrap (h : Intact text offset wrapped) (hoffset : Text.IsBoundary text offset)
    (hbehind : offset ≤ highlight.flatStart) :
    Intact text offset (wrap opening closing wrapped highlight) := by
  unfold Intact at h ⊢
  have hwrapped : Text.IsBoundary wrapped offset := by
    unfold Text.IsBoundary
    rw [h]
    exact hoffset
  have hfront := hwrapped.takeBytes_append_of_le hbehind (Text.dropBytes offset wrapped)
  rw [Text.takeBytes_append_dropBytes] at hfront
  unfold Highlight.wrap
  rw [hfront, List.append_assoc, hwrapped.takeBytes_append, h]

theorem Intact.spoiled_of_lt (h : Intact text highlight.flatStart wrapped)
    (hfresh : Fresh opening text) (hstart : Text.IsBoundary text highlight.flatStart)
    (hbefore : highlight.flatStart < offset) :
    Spoiled text offset (Highlight.wrap opening closing wrapped highlight) := by
  rcases hfresh highlight with ⟨c, rest, hopening, hc⟩
  unfold Highlight.wrap
  rw [h, hopening]
  exact ⟨highlight.flatStart, c, _, hstart, hbefore, rfl, hc⟩

theorem Spoiled.wrap (h : Spoiled text offset wrapped) (hfresh : Fresh opening text)
    (hstart : Text.IsBoundary text highlight.flatStart) :
    Spoiled text offset (Highlight.wrap opening closing wrapped highlight) := by
  rcases h with ⟨place, c, rest, hplace, hbefore, rfl, hc⟩
  have hintact : Intact text place (Text.takeBytes place text ++ c :: rest) :=
    hplace.takeBytes_append (c :: rest)
  rcases Nat.lt_or_ge place highlight.flatStart with hbehind | hahead
  · unfold Highlight.wrap
    rw [hplace.takeBytes_append_of_le (Nat.le_of_lt hbehind), Text.takeBytes, List.append_assoc]
    -- The marker goes behind the strange character, or where it puts its own in front of it.
    split
    · exact ⟨place, c, _, hplace, hbefore, rfl, hc⟩
    · rcases hfresh highlight with ⟨d, marker, hopening, hd⟩
      rw [hopening]
      exact ⟨place, d, _, hplace, hbefore, rfl, hd⟩
  · exact (hintact.mono hahead).spoiled_of_lt hfresh hstart (Nat.lt_of_le_of_lt hahead hbefore)

theorem Spoiled.wrapAll (h : Spoiled text offset wrapped) (hfresh : Fresh opening text)
    (hstarts : ∀ highlight ∈ highlights, Text.IsBoundary text highlight.flatStart) :
    Spoiled text offset (wrapAll opening closing wrapped highlights) := by
  unfold Highlight.wrapAll
  induction highlights generalizing wrapped with
  | nil => exact h
  | cons highlight later ih =>
      rcases List.forall_mem_cons.mp hstarts with ⟨hstart, hlater⟩
      exact ih (h.wrap hfresh hstart) hlater

theorem Intact.wrapAll_iff (h : Intact text offset wrapped) (hfresh : Fresh opening text)
    (hoffset : Text.IsBoundary text offset)
    (hstarts : ∀ highlight ∈ highlights, Text.IsBoundary text highlight.flatStart) :
    Intact text offset (wrapAll opening closing wrapped highlights) ↔
      ∀ highlight ∈ highlights, offset ≤ highlight.flatStart := by
  induction highlights generalizing wrapped with
  | nil => exact iff_of_true h fun _ hmem => absurd hmem List.not_mem_nil
  | cons highlight later ih =>
      rcases List.forall_mem_cons.mp hstarts with ⟨hstart, hlater⟩
      rw [List.forall_mem_cons]
      -- A marker in front of the offset spoils it for good, one behind it changes nothing.
      rcases Nat.lt_or_ge highlight.flatStart offset with hbefore | hbehind
      · apply iff_of_false
        · have hspoiled :
              Spoiled text offset (Highlight.wrap opening closing wrapped highlight) :=
            (h.mono (Nat.le_of_lt hbefore)).spoiled_of_lt hfresh hstart hbefore
          exact (hspoiled.wrapAll hfresh hlater).not_intact hoffset
        · intro hall
          exact absurd hall.1 (Nat.not_le.mpr hbefore)
      · rw [and_iff_right hbehind]
        exact ih (h.wrap hoffset hbehind) hlater

/-!
# Plans
-/

theorem fits_of_mem_plan {pattern : Pattern} (h : highlight ∈ plan pattern segments) :
    highlight.Fits (Segments.joined segments) := by
  rcases exists_capture_of_mem_plan h with ⟨capture, _, hshows⟩
  constructor
  · rw [hshows.flatStart_eq]
    exact Text.isBoundary_byteOffset _ _
  · rw [hshows.flatStop_eq]
    exact Text.isBoundary_byteOffset _ _
  · rw [hshows.flatStart_eq, hshows.flatStop_eq]
    exact Text.byteOffset_mono _ capture.span.start_le_stop

theorem plan_pairwise_iff (pattern : Pattern) (segments : List Text) :
    ((plan pattern segments).Pairwise fun earlier later =>
        later.flatStop ≤ earlier.flatStart) ↔
      ∀ found ∈ pattern.matchesIn (Segments.joined segments), found.InGroupOrder := by
  have hflat : ((plan pattern segments).Pairwise fun earlier later =>
        later.flatStop ≤ earlier.flatStart) ↔
      ((plan pattern segments).map fun highlight =>
        (highlight.flatStart, highlight.flatStop)).Pairwise fun earlier later =>
          later.2 ≤ earlier.1 := by
    rw [List.pairwise_map]
  rw [hflat, map_flat_plan, List.pairwise_map, ← Pattern.captures_pairwise_iff]
  apply List.Pairwise.iff_of_mem
  intro earlier later _ hlater
  have hwithin := Pattern.captures_within hlater
  exact Text.byteOffset_le_iff (Nat.le_trans hwithin.2.1 hwithin.2.2)

/--
In a plan every highlight lies in front of those before it just when in every match the groups
that took part stand from left to right in the order of their numbers.  In just these cases
wrapping the highlights one by one leaves the text intact up to the end of the next one, with
opening markers that cannot be taken for the text.  Then the result is the text with every
highlight between its own markers and all else as it was; what a highlight covers is what a
group of a match took.
-/
theorem wrapping_in_place_iff_groups_in_order (pattern : Pattern) (segments : List Text) :
    let text := Segments.joined segments
    let highlights := plan pattern segments
    let inOrder := ∀ found ∈ pattern.matchesIn text, found.InGroupOrder
    ((highlights.Pairwise fun earlier later => later.flatStop ≤ earlier.flatStart) ↔ inOrder) ∧
      (∀ opening closing, Fresh opening text ->
        ((∀ front next back, highlights = front ++ next :: back ->
            Intact text next.flatStop (wrapAll opening closing text front)) ↔
          inOrder)) ∧
      (inOrder -> ∀ opening closing,
        wrapAll opening closing text highlights = marked opening closing text highlights) ∧
      ∀ highlight ∈ highlights, ∃ found ∈ pattern.matchesIn text, ∃ span,
        found.Took highlight.group span ∧
          Text.sliceBytes? highlight.flatStart highlight.flatStop text = some (span.of text) := by
  intro text highlights inOrder
  have horder : (highlights.Pairwise fun earlier later =>
      later.flatStop ≤ earlier.flatStart) ↔ inOrder := plan_pairwise_iff pattern segments
  have hfits : ∀ highlight ∈ highlights, highlight.Fits text := fun _ hmem => fits_of_mem_plan hmem
  refine ⟨horder, ?_, ?_, ?_⟩
  · intro opening closing hfresh
    rw [← horder, pairwise_iff_forall_front]
    refine forall_congr' fun front => forall_congr' fun next => forall_congr' fun back =>
      forall_congr' fun hsplit => ?_
    rw [hsplit] at hfits
    have hnext := (hfits next (List.mem_append_right _ List.mem_cons_self)).stop
    exact Intact.wrapAll_iff rfl hfresh hnext fun other hother =>
      (hfits other (List.mem_append_left _ hother)).start
  · intro hin opening closing
    have hwrapped : wrapAll opening closing (text ++ []) highlights =
        marked opening closing text highlights ++ [] := wrapAll_append hfits (horder.mpr hin)
    rwa [List.append_nil, List.append_nil] at hwrapped
  · intro highlight hmem
    rcases exists_capture_of_mem_plan hmem with ⟨capture, hcapture, hshows⟩
    rcases Pattern.mem_captures_iff.mp hcapture with ⟨hfound, htook⟩
    refine ⟨capture.found, hfound, capture.span, ?_, hshows.text_eq⟩
    rw [hshows.group_eq]
    exact htook

/-- Groups beside each other, and a group that follows in its own match only. -/
theorem wrapping_in_place_iff_groups_in_order_letters :
    let segments : List Text := [['a'], ['b', 'a', 'b']]
    let text := Segments.joined segments
    let opening : Highlight -> Text := fun _ => ['<']
    let closing : Highlight -> Text := fun _ => ['>']
    ∃ pattern, Pattern.compile "(a)(b)".toList = .ok pattern ∧
      (∀ found ∈ pattern.matchesIn text, found.InGroupOrder) ∧
      Fresh opening text ∧
      (∀ front next back, plan pattern segments = front ++ next :: back ->
        Intact text next.flatStop (wrapAll opening closing text front)) ∧
      wrapAll opening closing text (plan pattern segments) = "<a><b><a><b>".toList := by
  intro segments text opening closing
  have hplanned : (Pattern.compile "(a)(b)".toList).toOption.map
      (fun pattern => plan pattern segments) =
        some [{ group := 2, start := ⟨1, 2⟩, stop := ⟨1, 3⟩, flatStart := 3, flatStop := 4 },
          { group := 1, start := ⟨1, 1⟩, stop := ⟨1, 2⟩, flatStart := 2, flatStop := 3 },
          { group := 2, start := ⟨1, 0⟩, stop := ⟨1, 1⟩, flatStart := 1, flatStop := 2 },
          { group := 1, start := ⟨0, 0⟩, stop := ⟨0, 1⟩, flatStart := 0, flatStop := 1 }] := by
    decide +kernel
  rcases Pattern.exists_of_map_compile_eq hplanned with ⟨pattern, hpattern, hplan⟩
  rcases wrapping_in_place_iff_groups_in_order pattern segments with
    ⟨horder, hintact, hmarked, _⟩
  have hin : ∀ found ∈ pattern.matchesIn text, found.InGroupOrder := by
    apply horder.mp
    rw [hplan]
    decide
  have hfresh : Fresh opening text := fun _ => ⟨'<', [], rfl, by decide⟩
  refine ⟨pattern, hpattern, hin, hfresh, (hintact opening closing hfresh).mpr hin, ?_⟩
  rw [hmarked hin opening closing, hplan]
  decide

/--
The second group takes part again after the first, whose capture is kept.  Its highlight
comes first in the plan and lies in front of the other, which its markers move.
-/
theorem pending_highlight_moved :
    let segments : List Text := [['b', 'a']]
    let text := Segments.joined segments
    let opening : Highlight -> Text := fun _ => ['<']
    let closing : Highlight -> Text := fun _ => ['>']
    ∃ pattern, Pattern.compile "(?:(a)|(b))+".toList = .ok pattern ∧
      ¬((plan pattern segments).Pairwise fun earlier later =>
        later.flatStop ≤ earlier.flatStart) ∧
      wrapAll opening closing text (plan pattern segments) = "<<b>>a".toList ∧
      marked opening closing text (plan pattern segments).reverse = "<b><a>".toList := by
  intro segments text opening closing
  have hplanned : (Pattern.compile "(?:(a)|(b))+".toList).toOption.map
      (fun pattern => plan pattern segments) =
        some [{ group := 2, start := ⟨0, 0⟩, stop := ⟨0, 1⟩, flatStart := 0, flatStop := 1 },
          { group := 1, start := ⟨0, 1⟩, stop := ⟨0, 2⟩, flatStart := 1, flatStop := 2 }] := by
    decide +kernel
  rcases Pattern.exists_of_map_compile_eq hplanned with ⟨pattern, hpattern, hplan⟩
  refine ⟨pattern, hpattern, ?_, ?_, ?_⟩
  · rw [hplan]
    decide
  · rw [hplan]
    decide
  · rw [hplan]
    decide

end Highlight
end LinePalette
