import LinePalette.Editor.Buffer

/-!
# Altered lines

Altering a stretch of lines leaves every other line and the number of lines
alone.  The last line of the stretch that becomes different is reported, and when no
line is reported the buffer is the one before.
-/

namespace LinePalette
namespace Buffer

variable {alter : Text -> Text} {first last start index : Nat} {lines altered : Buffer}
  {line : Text}

/-!
# Single lines
-/

theorem getElem?_alterFrom (lines : Buffer) (start index : Nat) :
    (alterFrom alter first last start lines).1[index]? =
      lines[index]?.map fun line =>
        if first ≤ start + index ∧ start + index ≤ last then alter line else line := by
  induction lines generalizing start index with
  | nil => rfl
  | cons line lines ih =>
      cases index with
      | zero =>
          simp only [alterFrom, Nat.add_zero]
          split
          · rfl
          · rfl
      | succ index =>
          have hlater := ih (start + 1) index
          rw [show start + 1 + index = start + (index + 1) by omega] at hlater
          simp only [alterFrom]
          split
          · exact hlater
          · exact hlater

theorem getElem?_alterLines_outside {changed : Option (Nat × Text)}
    (h : lines.alterLines alter first last = (altered, changed))
    (houtside : ¬(first ≤ index ∧ index ≤ last)) : altered[index]? = lines[index]? := by
  have hline : (alterFrom alter first last 0 lines).1[index]? = _ :=
    getElem?_alterFrom lines 0 index
  unfold alterLines at h
  rw [h, Nat.zero_add] at hline
  rw [hline]
  simp only [if_neg houtside, Option.map_id']

/-!
# What is reported

The line that is reported is the last one of the stretch that becomes different, and
no line is reported just when there is none.
-/

/-- Altering makes a difference to the line at the offset, which is one of the stretch. -/
def Differs (alter : Text -> Text) (first last start : Nat) (lines : Buffer) (offset : Nat) :
    Prop :=
  (first ≤ start + offset ∧ start + offset ≤ last) ∧
    ∃ line, lines[offset]? = some line ∧ alter line ≠ line

theorem differs_zero {line : Text} :
    Differs alter first last start (line :: lines) 0 ↔
      (first ≤ start ∧ start ≤ last) ∧ alter line ≠ line := by
  constructor
  · rintro ⟨hstretch, found, hfound, hdiffers⟩
    cases hfound
    exact ⟨hstretch, hdiffers⟩
  · rintro ⟨hstretch, hdiffers⟩
    exact ⟨hstretch, line, rfl, hdiffers⟩

theorem differs_succ {line : Text} {offset : Nat} :
    Differs alter first last start (line :: lines) (offset + 1) ↔
      Differs alter first last (start + 1) lines offset := by
  unfold Differs
  rw [Nat.add_assoc, Nat.add_comm 1 offset]
  exact Iff.rfl

theorem reported_cons (next : Text) (later : Buffer) :
    (alterFrom alter first last start (next :: later)).2 =
      (alterFrom alter first last (start + 1) later).2.or
        (if (first ≤ start ∧ start ≤ last) ∧ alter next ≠ next then some (start, alter next)
          else none) := by
  simp only [alterFrom]
  by_cases hstretch : first ≤ start ∧ start ≤ last
  · by_cases hsame : alter next = next
    · rw [if_pos hstretch, if_pos hsame, if_neg fun h => h.right hsame]
    · rw [if_pos hstretch, if_neg hsame, if_pos ⟨hstretch, hsame⟩]
  · rw [if_neg hstretch, if_neg fun h => hstretch h.left, Option.or_none]

theorem reported_none (h : (alterFrom alter first last start lines).2 = none) (offset : Nat) :
    ¬Differs alter first last start lines offset := by
  induction lines generalizing start offset with
  | nil =>
      rintro ⟨_, line, hline, _⟩
      cases hline
  | cons next later ih =>
      rw [reported_cons, Option.or_eq_none_iff] at h
      rcases h with ⟨hlater, hnext⟩
      cases offset with
      | zero =>
          intro hdiffers
          rw [if_pos (differs_zero.mp hdiffers)] at hnext
          cases hnext
      | succ offset =>
          intro hdiffers
          exact ih hlater offset (differs_succ.mp hdiffers)

theorem reported_some (h : (alterFrom alter first last start lines).2 = some (index, line)) :
    ∃ offset,
      index = start + offset ∧
      Differs alter first last start lines offset ∧
      (∀ later, offset < later -> ¬Differs alter first last start lines later) ∧
      lines[offset]?.map alter = some line := by
  induction lines generalizing start with
  | nil => cases h
  | cons next later ih =>
      rw [reported_cons, Option.or_eq_some_iff] at h
      rcases h with hlater | ⟨hnone, hnext⟩
      · rcases ih hlater with ⟨offset, hindex, hdiffers, hlast, hline⟩
        refine ⟨offset + 1, by omega, differs_succ.mpr hdiffers, ?_, hline⟩
        intro other hother
        cases other with
        | zero => cases hother
        | succ other =>
            intro hdiffers
            exact hlast other (Nat.lt_of_succ_lt_succ hother) (differs_succ.mp hdiffers)
      · split at hnext
        · next hdiffers =>
            cases hnext
            refine ⟨0, rfl, differs_zero.mpr hdiffers, ?_, rfl⟩
            intro other hother
            cases other with
            | zero => cases hother
            | succ other =>
                intro hdiffers
                exact reported_none hnone other (differs_succ.mp hdiffers)
        · cases hnext

theorem alterFrom_changed
    (h : alterFrom alter first last start lines = (altered, some (index, line))) :
    start ≤ index ∧ altered[index - start]? = some line := by
  rcases reported_some (congrArg Prod.snd h) with ⟨offset, rfl, ⟨hstretch, _⟩, _, hline⟩
  have haltered : (alterFrom alter first last start lines).1[offset]? = _ :=
    getElem?_alterFrom lines start offset
  simp only [h, if_pos hstretch, hline] at haltered
  rw [Nat.add_sub_cancel_left]
  exact ⟨Nat.le_add_right start offset, haltered⟩

theorem alterFrom_unchanged (h : alterFrom alter first last start lines = (altered, none)) :
    altered = lines := by
  apply List.ext_getElem?
  intro offset
  have hsilent := reported_none (congrArg Prod.snd h) offset
  have haltered : (alterFrom alter first last start lines).1[offset]? = _ :=
    getElem?_alterFrom lines start offset
  rw [h] at haltered
  rw [haltered]
  cases hline : lines[offset]? with
  | none => rfl
  | some line =>
      apply congrArg some
      split
      · next hstretch =>
          apply Decidable.of_not_not
          intro hdiffers
          exact hsilent ⟨hstretch, line, hline, hdiffers⟩
      · rfl

theorem alterLines_changed
    (h : lines.alterLines alter first last = (altered, some (index, line))) :
    index < lines.length ∧ altered[index]? = some line := by
  rcases alterFrom_changed h with ⟨_, hline⟩
  have hlength := length_alterFrom alter first last 0 lines
  have hindex := (List.getElem?_eq_some_iff.mp hline).1
  unfold alterLines at h
  rw [h] at hlength
  rw [Nat.sub_zero] at hline hindex
  exact ⟨hlength ▸ hindex, hline⟩

theorem length_alterLines {changed : Option (Nat × Text)}
    (h : lines.alterLines alter first last = (altered, changed)) :
    altered.length = lines.length := by
  have hlength := length_alterFrom alter first last 0 lines
  unfold alterLines at h
  rw [h] at hlength
  exact hlength

/-!
# Stretches

A buffer may be altered piece by piece, and a piece outside the stretch stays as
it is.
-/

theorem alterFrom_append (left right : Buffer) :
    alterFrom alter first last start (left ++ right) =
      ((alterFrom alter first last start left).1 ++
          (alterFrom alter first last (start + left.length) right).1,
        (alterFrom alter first last (start + left.length) right).2.or
          (alterFrom alter first last start left).2) := by
  induction left generalizing start with
  | nil => simp [alterFrom]
  | cons next later ih =>
      rw [List.cons_append]
      simp only [alterFrom, ih, List.length_cons]
      rw [show start + 1 + later.length = start + (later.length + 1) by omega]
      split
      · simp [Option.or_assoc]
      · simp

theorem alterFrom_outside (lines : Buffer) (h : start + lines.length ≤ first ∨ last < start) :
    alterFrom alter first last start lines = (lines, none) := by
  induction lines generalizing start with
  | nil => rfl
  | cons next later ih =>
      rw [List.length_cons] at h
      have houtside : ¬(first ≤ start ∧ start ≤ last) := by omega
      simp only [alterFrom]
      rw [ih (by omega), if_neg houtside]

theorem length_between (h : first ≤ last ∧ last < lines.length) :
    (lines.between first last).length = last + 1 - first := by
  unfold between
  rw [List.length_take, List.length_drop]
  omega

theorem take_between_drop (lines : Buffer) (hle : first ≤ last + 1) :
    lines.take first ++ lines.between first last ++ lines.drop (last + 1) = lines := by
  have hstop : first + (last + 1 - first) = last + 1 := by omega
  have hdrop : lines.drop (last + 1) = (lines.drop first).drop (last + 1 - first) := by
    rw [List.drop_drop, hstop]
  unfold between
  rw [List.append_assoc, hdrop, List.take_append_drop, List.take_append_drop]

theorem alterLines_eq (h : first ≤ last ∧ last < lines.length) :
    lines.alterLines alter first last =
      (lines.take first ++ (alterFrom alter first last first (lines.between first last)).1 ++
          lines.drop (last + 1),
        (alterFrom alter first last first (lines.between first last)).2) := by
  have hbetween := length_between h
  have hbefore : (lines.take first).length = first := by
    rw [List.length_take]
    omega
  have hsplit := take_between_drop lines (Nat.le_succ_of_le h.left)
  unfold alterLines
  conv =>
    lhs
    rw [← hsplit]
  rw [alterFrom_append, alterFrom_append]
  rw [alterFrom_outside (lines.take first) (Or.inl (by omega))]
  rw [alterFrom_outside (lines.drop (last + 1))
    (Or.inr (by rw [List.length_append, hbefore, hbetween]; omega))]
  rw [hbefore, Nat.zero_add]
  simp

end Buffer
end LinePalette
