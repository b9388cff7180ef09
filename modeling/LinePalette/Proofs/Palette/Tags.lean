import LinePalette.Proofs.Palette.Markup
import Mathlib.Data.List.Basic

/-!
# Tags

A tag acts where it stands.  Behind a text whose tags are all closed it leaves a line
break or nothing, and the text around it is seen as before.  An opening angle bracket
that nothing closes is text, with all that follows it.  No entity reaches over an angle
bracket or into another entity, so at such a character decoding starts afresh.
-/

namespace LinePalette
namespace Markup

variable {c : Char} {front back text tag name : Text} {tags other : List Text} {closing : Bool}

/-!
# Scanning
-/

/--
Read from left to right, the markup is made of characters and of the given tags, each of
which goes on to the next closing angle bracket.  No tag is left open.
-/
inductive Scanned : Text -> List Text -> Prop where
  | nil : Scanned [] []
  | plain {c : Char} {rest : Text} {tags : List Text} :
      c ≠ '<' -> Scanned rest tags -> Scanned (c :: rest) tags
  | tag {tag rest : Text} {tags : List Text} :
      '>' ∉ tag -> Scanned rest tags -> Scanned ('<' :: (tag ++ '>' :: rest)) (tag :: tags)

theorem splitAtClose?_append (h : '>' ∉ tag) (after : Text) :
    splitAtClose? (tag ++ '>' :: after) = some (tag, after) := by
  induction tag with
  | nil => rfl
  | cons c later ih =>
      have hc := List.ne_of_not_mem_cons h
      have hlater := List.not_mem_of_not_mem_cons h
      rw [List.cons_append, splitAtClose?, if_neg (Ne.symm hc), ih hlater]
      rfl

theorem splitAtClose?_eq_none (h : '>' ∉ text) : splitAtClose? text = none := by
  induction text with
  | nil => rfl
  | cons c later ih =>
      have hc := List.ne_of_not_mem_cons h
      have hlater := List.not_mem_of_not_mem_cons h
      rw [splitAtClose?, if_neg (Ne.symm hc), ih hlater]
      rfl

theorem scanned_of_not_mem (h : '<' ∉ text) : Scanned text [] := by
  induction text with
  | nil => exact .nil
  | cons c later ih =>
      have hc := List.ne_of_not_mem_cons h
      exact .plain (Ne.symm hc) (ih (List.not_mem_of_not_mem_cons h))

theorem Scanned.append (hfront : Scanned front tags) (hback : Scanned back other) :
    Scanned (front ++ back) (tags ++ other) := by
  induction hfront with
  | nil => exact hback
  | plain hc _ ih => exact .plain hc ih
  | tag htag _ ih =>
      rw [List.cons_append, List.append_assoc, List.cons_append]
      exact .tag htag ih

theorem Scanned.unique (h : Scanned text tags) (hother : Scanned text other) : tags = other := by
  induction h generalizing other with
  | nil =>
      cases hother
      rfl
  | plain hc _ ih =>
      cases hother with
      | plain _ hrest => exact ih hrest
      | tag _ _ => exact absurd rfl hc
  | @tag tag rest _ htag _ ih =>
      generalize hwhole : '<' :: (tag ++ '>' :: rest) = whole at hother
      cases hother with
      | nil => cases hwhole
      | plain hc _ => exact absurd (List.cons.inj hwhole).left.symm hc
      | @tag spelled later _ hspelled hlater =>
          have hsplit := splitAtClose?_append htag rest
          rw [(List.cons.inj hwhole).right, splitAtClose?_append hspelled] at hsplit
          cases hsplit
          rw [ih hlater]

theorem stripFrom_length (front back : Text) :
    stripFrom front.length (front ++ back) = stripFrom 0 back := by
  induction front with
  | nil => rfl
  | cons c front ih => exact ih

theorem stripFrom_tag (h : '>' ∉ tag) (after : Text) :
    stripFrom 0 ('<' :: (tag ++ '>' :: after)) = tagText tag ++ stripFrom 0 after := by
  have hpassed := stripFrom_length (tag ++ ['>']) after
  rw [List.length_append, List.length_singleton, List.append_assoc,
    List.singleton_append] at hpassed
  rw [stripFrom, if_pos rfl, splitAtClose?_append h]
  simp only
  rw [hpassed]

/-- What follows closed tags is scanned by itself. -/
theorem Scanned.stripTags_append (h : Scanned front tags) (back : Text) :
    stripTags (front ++ back) = stripTags front ++ stripTags back := by
  unfold stripTags
  induction h with
  | nil => rfl
  | plain hc _ ih =>
      rw [List.cons_append, stripFrom, if_neg hc, ih, stripFrom, if_neg hc, List.cons_append]
  | tag htag _ ih =>
      rw [List.cons_append, List.append_assoc, List.cons_append, stripFrom_tag htag, ih,
        stripFrom_tag htag, List.append_assoc]

theorem stripTags_plain (h : '<' ∉ text) : stripTags text = text := by
  have hwhole := stripFrom_plain h []
  rw [List.append_nil] at hwhole
  exact hwhole.trans (List.append_nil text)

/-!
# Names
-/

/--
A tag has this name, behind a slash or not: the blanks around the tag and the slash taken
away, it leads with just these ASCII letters and digits, but for their case.
-/
def Named (tag : Text) (closing : Bool) (name : Text) : Prop :=
  ∃ run rest,
    Text.trim tag = (if closing then ['/'] else []) ++ (run ++ rest) ∧
    (closing = false -> (run ++ rest).head? ≠ some '/') ∧
    (∀ c ∈ run, c.isAlphanum = true) ∧
    (∀ c, rest.head? = some c -> c.isAlphanum = false) ∧
    name = run.map Char.toLower

theorem tagBody_of_slash {body : Text} (h : Text.trim tag = '/' :: body) :
    tagBody tag = (true, body) := by
  unfold tagBody
  rw [h]
  rfl

theorem tagBody_of_no_slash (h : (Text.trim tag).head? ≠ some '/') :
    tagBody tag = (false, Text.trim tag) := by
  unfold tagBody
  split
  · next body hbody =>
      rw [hbody] at h
      exact absurd rfl h
  · rfl

theorem tagBody_eq {body : Text} (htrim : Text.trim tag = (if closing then ['/'] else []) ++ body)
    (hslash : closing = false -> body.head? ≠ some '/') : tagBody tag = (closing, body) := by
  cases closing with
  | true => exact tagBody_of_slash htrim
  | false =>
      have hbody : Text.trim tag = body := htrim
      rw [← hbody] at hslash ⊢
      exact tagBody_of_no_slash (hslash rfl)

theorem trim_eq_tagBody (tag : Text) :
    Text.trim tag = (if (tagBody tag).1 then ['/'] else []) ++ (tagBody tag).2 ∧
      ((tagBody tag).1 = false -> (tagBody tag).2.head? ≠ some '/') := by
  by_cases hslash : (Text.trim tag).head? = some '/'
  · rcases List.head?_eq_some_iff.mp hslash with ⟨body, hbody⟩
    rw [tagBody_of_slash hbody]
    exact ⟨hbody, fun h => nomatch h⟩
  · rw [tagBody_of_no_slash hslash]
    exact ⟨rfl, fun _ => hslash⟩

theorem tagName_append {run rest : Text} (hrun : ∀ c ∈ run, c.isAlphanum = true)
    (hrest : ∀ c, rest.head? = some c -> c.isAlphanum = false) :
    tagName (run ++ rest) = run.map Char.toLower := by
  unfold tagName
  rw [List.takeWhile_append_of_pos hrun]
  cases rest with
  | nil => rw [List.takeWhile_nil, List.append_nil]
  | cons c later =>
      have hc := Bool.eq_false_iff.mp (hrest c rfl)
      rw [List.takeWhile_cons_of_neg hc, List.append_nil]

theorem named_iff :
    Named tag closing name ↔ (tagBody tag).1 = closing ∧ tagName (tagBody tag).2 = name := by
  constructor
  · rintro ⟨run, rest, htrim, hslash, hrun, hrest, rfl⟩
    rw [tagBody_eq htrim hslash]
    exact ⟨rfl, tagName_append hrun hrest⟩
  · rintro ⟨rfl, rfl⟩
    rcases trim_eq_tagBody tag with ⟨htrim, hslash⟩
    refine ⟨(tagBody tag).2.takeWhile Char.isAlphanum, (tagBody tag).2.dropWhile Char.isAlphanum,
      ?_, ?_, ?_, ?_, rfl⟩
    · rw [List.takeWhile_append_dropWhile]
      exact htrim
    · rw [List.takeWhile_append_dropWhile]
      exact hslash
    · exact List.all_eq_true.mp List.all_takeWhile
    · intro c hc
      exact Text.head_dropWhile hc

theorem tagText_of_named (h : Named tag closing name) :
    tagText tag =
      if name = "br".toList ∨ (closing = true ∧ name ∈ blockElements) then ['\n'] else [] := by
  rcases named_iff.mp h with ⟨rfl, rfl⟩
  have hbreaks : breaksLine tag = true ↔
      tagName (tagBody tag).2 = "br".toList ∨
        ((tagBody tag).1 = true ∧ tagName (tagBody tag).2 ∈ blockElements) := by
    unfold breaksLine
    rw [Bool.or_eq_true, Bool.and_eq_true, beq_iff_eq, List.contains_iff_mem]
  unfold tagText
  simp only [hbreaks]

/-!
# Decoding from a character on

No entity holds an opening angle bracket, and none an ampersand but the one that it starts
with.  So an entity that starts in front of such a character ends in front of it.
-/

/-- No entity goes on over this character. -/
def EndsEntities (c : Char) : Prop := ∀ entry ∈ entities, c ∉ entry.1.tail

instance (c : Char) : Decidable (EndsEntities c) :=
  inferInstanceAs (Decidable (∀ entry ∈ entities, c ∉ entry.1.tail))

theorem prefix_append_cons_iff {entity : Text} (h : c ∉ entity) :
    entity <+: front ++ c :: back ↔ entity <+: front := by
  constructor
  · intro hlong
    rcases List.prefix_or_prefix_of_prefix hlong (List.prefix_append front (c :: back)) with
      hshort | ⟨later, rfl⟩
    · exact hshort
    · cases later with
      | nil => exact ⟨[], by rw [List.append_nil, List.append_nil]⟩
      | cons first later =>
          have hfirst := List.cons_prefix_cons.mp ((List.prefix_append_right_inj front).mp hlong)
          rw [hfirst.left] at h
          exact absurd (List.mem_append_right front List.mem_cons_self) h
  · intro hshort
    exact hshort.trans (List.prefix_append front (c :: back))

theorem leadingEntity?_append (h : EndsEntities c) (first : Char) (front back : Text) :
    leadingEntity? (first :: (front ++ c :: back)) = leadingEntity? (first :: front) := by
  have hsame : ∀ entry ∈ entities,
      List.isPrefixOf entry.1 (first :: (front ++ c :: back)) =
        List.isPrefixOf entry.1 (first :: front) := by
    intro entry hentry
    have hc := h entry hentry
    cases hentity : entry.1 with
    | nil => rfl
    | cons lead later =>
        rw [hentity, List.tail_cons] at hc
        rw [Bool.eq_iff_iff, List.isPrefixOf_iff_prefix, List.isPrefixOf_iff_prefix,
          List.cons_prefix_cons, List.cons_prefix_cons, prefix_append_cons_iff hc]
  unfold leadingEntity?
  rw [← List.head?_filterMap, ← List.head?_filterMap]
  apply congrArg List.head?
  apply List.filterMap_congr
  intro entry hentry
  simp only [hsame entry hentry]

theorem length_of_leadingEntity? {decoded : Char} {length : Nat}
    (h : leadingEntity? text = some (decoded, length)) : length ≤ text.length := by
  rcases List.exists_of_findSome?_eq_some h with ⟨entry, _, hentry⟩
  simp only at hentry
  split at hentry
  · next hprefix =>
      cases hentry
      exact (List.isPrefixOf_iff_prefix.mp hprefix).length_le
  · cases hentry

theorem decodeFrom_append (h : EndsEntities c) {skip : Nat} (hskip : skip ≤ front.length)
    (back : Text) :
    decodeFrom skip (front ++ c :: back) = decodeFrom skip front ++ decodeFrom 0 (c :: back) := by
  induction front generalizing skip with
  | nil =>
      rw [Nat.le_zero.mp hskip]
      rfl
  | cons first later ih =>
      cases skip with
      | succ skip => exact ih (Nat.le_of_succ_le_succ hskip)
      | zero =>
          rw [List.cons_append, decodeFrom, leadingEntity?_append h, decodeFrom]
          cases hentity : leadingEntity? (first :: later) with
          | none => exact congrArg (first :: ·) (ih (Nat.zero_le _))
          | some entity =>
              have hlength := length_of_leadingEntity? hentity
              rw [List.length_cons] at hlength
              exact congrArg (entity.1 :: ·) (ih (by omega))

theorem decodeEntities_append (h : EndsEntities c) (front back : Text) :
    decodeEntities (front ++ c :: back) = decodeEntities front ++ decodeEntities (c :: back) :=
  decodeFrom_append h (Nat.zero_le _) back

theorem decodeEntities_opening (front back : Text) :
    decodeEntities (front ++ '<' :: back) =
      decodeEntities front ++ '<' :: decodeEntities back := by
  rw [decodeEntities_append (by decide)]
  exact congrArg _ (decodeFrom_plain (by decide) back)

theorem decodeEntities_openingEntity (front back : Text) :
    decodeEntities (front ++ ("&lt;".toList ++ back)) =
      decodeEntities front ++ '<' :: decodeEntities back := by
  have hentity : decodeEntities ("&lt;".toList ++ back) = '<' :: decodeEntities back :=
    decodeFrom_escapeChar '<' back
  rw [← hentity]
  exact decodeEntities_append (by decide) front _

def escapeOpenings (text : Text) : Text :=
  text.flatMap fun c => if c = '<' then "&lt;".toList else [c]

theorem not_mem_escapeOpenings (text : Text) : '<' ∉ escapeOpenings text := by
  intro hmem
  rcases List.mem_flatMap.mp hmem with ⟨c, _, hc⟩
  split at hc
  · exact absurd hc (by decide)
  · next hother => exact hother (List.mem_singleton.mp hc).symm

theorem decodeEntities_escapeOpenings (front text : Text) :
    decodeEntities (front ++ escapeOpenings text) = decodeEntities (front ++ text) := by
  induction text generalizing front with
  | nil => rfl
  | cons c later ih =>
      have hsplit : escapeOpenings (c :: later) =
          (if c = '<' then "&lt;".toList else [c]) ++ escapeOpenings later :=
        List.flatMap_cons
      rw [hsplit]
      split
      · next hopening =>
          rw [hopening, decodeEntities_openingEntity, decodeEntities_opening]
          exact congrArg (fun rest => decodeEntities front ++ '<' :: rest) (ih [])
      · have hlater := ih (front ++ [c])
        rwa [List.append_assoc, List.append_assoc] at hlater

/-!
# Tags in their surroundings
-/

theorem Scanned.stripTags_tag (hfront : Scanned front tags) (htag : '>' ∉ tag) (back : Text) :
    stripTags (front ++ '<' :: (tag ++ '>' :: back)) =
      stripTags front ++ (tagText tag ++ stripTags back) := by
  rw [hfront.stripTags_append]
  exact congrArg (stripTags front ++ ·) (stripFrom_tag htag back)

theorem Scanned.toLines_tag_breaking (hfront : Scanned front tags) (htag : '>' ∉ tag)
    (hnamed : Named tag closing name)
    (hbreaks : name = "br".toList ∨ (closing = true ∧ name ∈ blockElements)) (back : Text) :
    toLines (front ++ '<' :: (tag ++ '>' :: back)) = toLines (front ++ '\n' :: back) := by
  have hnewline : stripTags ('\n' :: back) = '\n' :: stripTags back := rfl
  unfold toLines
  rw [hfront.stripTags_tag htag, tagText_of_named hnamed, if_pos hbreaks,
    hfront.stripTags_append, hnewline]
  rfl

theorem Scanned.toLines_tag_other (hfront : Scanned front tags) (htag : '>' ∉ tag)
    (hnamed : Named tag closing name)
    (hother : ¬(name = "br".toList ∨ (closing = true ∧ name ∈ blockElements))) (back : Text) :
    toLines (front ++ '<' :: (tag ++ '>' :: back)) = toLines (front ++ back) := by
  unfold toLines
  rw [hfront.stripTags_tag htag, tagText_of_named hnamed, if_neg hother, List.nil_append,
    hfront.stripTags_append]

theorem Scanned.stripTags_open (hfront : Scanned front tags) (hback : '>' ∉ back) :
    stripTags (front ++ '<' :: back) = stripTags front ++ '<' :: back := by
  have hopen : stripTags ('<' :: back) = '<' :: back := by
    unfold stripTags
    rw [stripFrom, if_pos rfl, splitAtClose?_eq_none hback]
  rw [hfront.stripTags_append, hopen]

theorem Scanned.toLines_open (hfront : Scanned front tags) (hback : '>' ∉ back) :
    toLines (front ++ '<' :: back) = toLines (front ++ escapeOpenings ('<' :: back)) := by
  have hescaped : stripTags (front ++ escapeOpenings ('<' :: back)) =
      stripTags front ++ escapeOpenings ('<' :: back) := by
    rw [hfront.stripTags_append, stripTags_plain (not_mem_escapeOpenings _)]
  unfold toLines
  rw [hfront.stripTags_open hback, hescaped, decodeEntities_escapeOpenings]

/--
Behind closed tags a tag that is named `br`, or that ends a block element, makes the lines
that a newline in its place would make, and every other tag might as well not be there.
What a tag is named is settled for every text without a closing angle bracket.  An opening
angle bracket that nothing closes is kept with all that follows it, as if it and the ones
behind it had been written as entities.
-/
theorem tags_act_where_they_stand (hfront : Scanned front tags) (back : Text) :
    (∀ tag, '>' ∉ tag ->
      ∃ closing name,
        (∀ slash spelled, Named tag slash spelled ↔ slash = closing ∧ spelled = name) ∧
        let breaks := name = "br".toList ∨ (closing = true ∧ name ∈ blockElements)
        (breaks ->
          toLines (front ++ '<' :: (tag ++ '>' :: back)) = toLines (front ++ '\n' :: back)) ∧
        (¬breaks ->
          toLines (front ++ '<' :: (tag ++ '>' :: back)) = toLines (front ++ back))) ∧
    ('>' ∉ back ->
      stripTags (front ++ '<' :: back) = stripTags front ++ '<' :: back ∧
        toLines (front ++ '<' :: back) =
          toLines (front ++ ("&lt;".toList ++ escapeOpenings back))) := by
  constructor
  · intro tag htag
    have hnamed : Named tag (tagBody tag).1 (tagName (tagBody tag).2) := named_iff.mpr ⟨rfl, rfl⟩
    refine ⟨(tagBody tag).1, tagName (tagBody tag).2, ?_, ?_, ?_⟩
    · intro slash spelled
      rw [named_iff, eq_comm, @eq_comm _ spelled]
    · intro hbreaks
      exact hfront.toLines_tag_breaking htag hnamed hbreaks back
    · intro hother
      exact hfront.toLines_tag_other htag hnamed hother back
  · intro hback
    exact ⟨hfront.stripTags_open hback, hfront.toLines_open hback⟩

/--
A block is ended between two halves of an entity, one begins there, and a text goes on with
angle brackets that nothing closes.
-/
theorem tags_act_where_they_stand_between_halves :
    let front := "<b>a</b>&l".toList
    let ending := " /DIV class".toList
    Scanned front [['b'], ['/', 'b']] ∧
      toLines (front ++ '<' :: (ending ++ '>' :: "t;".toList)) =
        toLines (front ++ '\n' :: "t;".toList) ∧
      toLines (front ++ '<' :: (['p'] ++ '>' :: "t;".toList)) = toLines (front ++ "t;".toList) ∧
      toLines (front ++ '<' :: "x&<y".toList) = toLines (front ++ "&lt;x&&lt;y".toList) := by
  intro front ending
  have hclosed : Scanned "</b>&l".toList [['/', 'b']] :=
    @Scanned.tag ['/', 'b'] _ _ (by decide) (.plain (by decide) (.plain (by decide) .nil))
  have hfront : Scanned front [['b'], ['/', 'b']] :=
    @Scanned.tag ['b'] _ _ (by decide) (.plain (by decide) hclosed)
  rcases tags_act_where_they_stand hfront "t;".toList with ⟨htags, _⟩
  rcases htags ending (by decide) with ⟨closing, name, hnamed, hbreaks, _⟩
  rcases (hnamed true "div".toList).mp (named_iff.mpr ⟨by decide, by decide⟩) with ⟨rfl, rfl⟩
  rcases htags ['p'] (by decide) with ⟨closing, name, hnamed, _, hother⟩
  rcases (hnamed false ['p']).mp (named_iff.mpr ⟨by decide, by decide⟩) with ⟨rfl, rfl⟩
  refine ⟨hfront, hbreaks (Or.inr ⟨rfl, by decide⟩), hother (by decide), ?_⟩
  exact ((tags_act_where_they_stand hfront "x&<y".toList).right (by decide)).right

end Markup
end LinePalette
