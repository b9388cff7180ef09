import LinePalette.Text.Basic

/-!
# Splitting

A text without a place to cut is one piece.  Joined pieces are found again when none of
them holds the separator, or, where the separator is a text, the character that it starts
with.
-/

namespace LinePalette
namespace Text

variable {cut : Char -> Bool} {text piece : Text} {c separator : Char}

/-!
# Pieces
-/

theorem splitWhere_cons_of_cut (h : cut c = true) (rest : Text) :
    splitWhere cut (c :: rest) = [] :: splitWhere cut rest := by
  rw [splitWhere, if_pos h]

theorem splitWhere_cons_of_not_cut {rest : Text} {pieces : List Text} (h : cut c = false)
    (hrest : splitWhere cut rest = piece :: pieces) :
    splitWhere cut (c :: rest) = (c :: piece) :: pieces := by
  rw [splitWhere, if_neg (Bool.eq_false_iff.mp h), hrest]

theorem splitWhere_append_cons (h : cut c = true) (left right : Text) :
    splitWhere cut (left ++ c :: right) = splitWhere cut left ++ splitWhere cut right := by
  induction left with
  | nil => exact splitWhere_cons_of_cut h right
  | cons first left ih =>
      rw [List.cons_append]
      cases hfirst : cut first with
      | true => rw [splitWhere_cons_of_cut hfirst, splitWhere_cons_of_cut hfirst, ih,
          List.cons_append]
      | false =>
          cases hleft : splitWhere cut left with
          | nil => exact absurd hleft (splitWhere_ne_nil cut left)
          | cons piece pieces =>
              rw [hleft, List.cons_append] at ih
              rw [splitWhere_cons_of_not_cut hfirst ih, splitWhere_cons_of_not_cut hfirst hleft,
                List.cons_append]

theorem splitWhere_of_no_cut (h : ∀ c ∈ text, cut c = false) : splitWhere cut text = [text] := by
  induction text with
  | nil => rfl
  | cons c rest ih =>
      rcases List.forall_mem_cons.mp h with ⟨hc, hrest⟩
      exact splitWhere_cons_of_not_cut hc (ih hrest)

/-!
# Splitting at one character
-/

theorem splitOn_append_cons (separator : Char) (left right : Text) :
    splitOn separator (left ++ separator :: right) =
      splitOn separator left ++ splitOn separator right := by
  unfold splitOn
  apply splitWhere_append_cons
  exact beq_self_eq_true separator

theorem splitOn_of_not_mem (h : separator ∉ text) : splitOn separator text = [text] := by
  apply splitWhere_of_no_cut
  intro c hc
  exact beq_eq_false_iff_ne.mpr fun hsame => h (hsame ▸ hc)

theorem not_mem_of_mem_splitOn (h : piece ∈ splitOn separator text) : separator ∉ piece := by
  intro hmem
  have hcut := cut_eq_false_of_mem_splitWhere h separator hmem
  rw [beq_self_eq_true] at hcut
  cases hcut

/-!
# Joined pieces
-/

theorem join_cons {pieces : List Text} (separator first : Text) (h : pieces ≠ []) :
    join separator (first :: pieces) = first ++ separator ++ join separator pieces := by
  cases pieces with
  | nil => exact absurd rfl h
  | cons next later => rfl

theorem splitOn_join {pieces : List Text} (hpieces : pieces ≠ [])
    (h : ∀ piece ∈ pieces, separator ∉ piece) :
    splitOn separator (join [separator] pieces) = pieces := by
  induction pieces with
  | nil => exact absurd rfl hpieces
  | cons first later ih =>
      rcases List.forall_mem_cons.mp h with ⟨hfirst, hlater⟩
      by_cases hmore : later = []
      · rw [hmore]
        exact splitOn_of_not_mem hfirst
      · rw [join_cons _ _ hmore, List.append_assoc, List.singleton_append, splitOn_append_cons,
          splitOn_of_not_mem hfirst, ih hmore hlater, List.singleton_append]

theorem count_join {pieces : List Text} (h : ∀ piece ∈ pieces, c ∉ piece) (separator : Text) :
    (join separator pieces).count c = (pieces.length - 1) * separator.count c := by
  induction pieces with
  | nil => exact (Nat.zero_mul _).symm
  | cons first later ih =>
      rcases List.forall_mem_cons.mp h with ⟨hfirst, hlater⟩
      have hcount := List.count_eq_zero_of_not_mem hfirst
      cases later with
      | nil => exact hcount.trans (Nat.zero_mul _).symm
      | cons next later =>
          rw [join_cons _ _ (List.cons_ne_nil next later), List.count_append, List.count_append,
            hcount, ih hlater, Nat.zero_add, Nat.add_comm]
          exact (Nat.succ_mul later.length _).symm

/-!
# Splitting at a text
-/

/--
The pieces between the places where the separator stands, from left to right, where the
first `skip` characters are used up.
-/
def splitAroundFrom (separator : Text) : Nat -> Text -> List Text
  | _, [] => [[]]
  | skip + 1, _ :: rest => splitAroundFrom separator skip rest
  | 0, c :: rest =>
      if separator.isPrefixOf (c :: rest) then
        [] :: splitAroundFrom separator (separator.length - 1) rest
      else
        (splitAroundFrom separator 0 rest).modifyHead (c :: ·)

def splitAround (separator text : Text) : List Text := splitAroundFrom separator 0 text

theorem splitAroundFrom_length (separator front back : Text) :
    splitAroundFrom separator front.length (front ++ back) = splitAroundFrom separator 0 back := by
  induction front with
  | nil => rfl
  | cons c front ih => exact ih

theorem splitAroundFrom_pass {lead : Char} (tail : Text) (h : c ≠ lead) (rest : Text) :
    splitAroundFrom (lead :: tail) 0 (c :: rest) =
      (splitAroundFrom (lead :: tail) 0 rest).modifyHead (c :: ·) := by
  have hother : (lead :: tail).isPrefixOf (c :: rest) = false := by
    rw [List.isPrefixOf_cons_cons, beq_false_of_ne (Ne.symm h), Bool.false_and]
  rw [splitAroundFrom, if_neg (Bool.eq_false_iff.mp hother)]

theorem splitAround_append {lead : Char} (tail back : Text) (h : lead ∉ piece) :
    splitAround (lead :: tail) (piece ++ (lead :: tail) ++ back) =
      piece :: splitAround (lead :: tail) back := by
  unfold splitAround
  induction piece with
  | nil =>
      have hprefix : (lead :: tail).isPrefixOf (lead :: (tail ++ back)) = true :=
        List.isPrefixOf_iff_prefix.mpr (List.prefix_append (lead :: tail) back)
      show splitAroundFrom (lead :: tail) 0 (lead :: (tail ++ back)) = _
      rw [splitAroundFrom, if_pos hprefix]
      exact congrArg ([] :: ·) (splitAroundFrom_length _ tail back)
  | cons c later ih =>
      have hc := List.ne_of_not_mem_cons h
      rw [List.cons_append, List.cons_append, splitAroundFrom_pass tail (Ne.symm hc),
        ih (List.not_mem_of_not_mem_cons h), List.modifyHead_cons]

theorem splitAround_of_not_mem {lead : Char} (tail : Text) (h : lead ∉ text) :
    splitAround (lead :: tail) text = [text] := by
  unfold splitAround
  induction text with
  | nil => rfl
  | cons c later ih =>
      have hc := List.ne_of_not_mem_cons h
      rw [splitAroundFrom_pass tail (Ne.symm hc), ih (List.not_mem_of_not_mem_cons h),
        List.modifyHead_cons]

theorem splitAround_join {lead : Char} {pieces : List Text} (tail : Text) (hpieces : pieces ≠ [])
    (h : ∀ piece ∈ pieces, lead ∉ piece) :
    splitAround (lead :: tail) (join (lead :: tail) pieces) = pieces := by
  induction pieces with
  | nil => exact absurd rfl hpieces
  | cons first later ih =>
      rcases List.forall_mem_cons.mp h with ⟨hfirst, hlater⟩
      by_cases hmore : later = []
      · rw [hmore]
        exact splitAround_of_not_mem tail hfirst
      · rw [join_cons _ _ hmore, splitAround_append tail _ hfirst, ih hmore hlater]

theorem splitAroundFrom_ne_nil (separator : Text) (skip : Nat) (text : Text) :
    splitAroundFrom separator skip text ≠ [] := by
  induction text generalizing skip with
  | nil => exact List.cons_ne_nil [] []
  | cons c rest ih =>
      cases skip with
      | succ skip => exact ih skip
      | zero =>
          rw [splitAroundFrom]
          split
          · exact List.cons_ne_nil _ _
          · intro hnil
            exact ih 0 (List.modifyHead_eq_nil_iff.mp hnil)

theorem join_modifyHead {pieces : List Text} (separator : Text) (c : Char) (h : pieces ≠ []) :
    join separator (pieces.modifyHead (c :: ·)) = c :: join separator pieces := by
  cases pieces with
  | nil => exact absurd rfl h
  | cons first later =>
      rw [List.modifyHead_cons]
      cases later with
      | nil => rfl
      | cons next later => rfl

theorem join_splitAroundFrom (lead : Char) (tail : Text) (skip : Nat) (text : Text) :
    join (lead :: tail) (splitAroundFrom (lead :: tail) skip text) = text.drop skip := by
  induction text generalizing skip with
  | nil => exact List.drop_nil.symm
  | cons c rest ih =>
      cases skip with
      | succ skip => exact ih skip
      | zero =>
          rw [splitAroundFrom]
          split
          · next hprefix =>
              rcases List.isPrefixOf_iff_prefix.mp hprefix with ⟨back, hback⟩
              cases hback
              rw [join_cons _ _ (splitAroundFrom_ne_nil _ _ _), ih]
              exact congrArg (lead :: tail ++ ·) List.drop_left
          · rw [join_modifyHead _ _ (splitAroundFrom_ne_nil _ _ _), ih]
            rfl

theorem join_splitAround {separator : Text} (h : separator ≠ []) (text : Text) :
    join separator (splitAround separator text) = text := by
  cases separator with
  | nil => exact absurd rfl h
  | cons lead tail => exact join_splitAroundFrom lead tail 0 text

end Text
end LinePalette
