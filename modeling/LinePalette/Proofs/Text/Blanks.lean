import LinePalette.Proofs.Text.Splitting
import LinePalette.Text.Blank

/-!
# Blanks

Trimming only takes characters away, and a trimmed text has no more to give.  Words
hold no blank, and blanks around a text make no difference to them.
-/

namespace LinePalette
namespace Text

variable {drop : Char -> Bool} {text word : Text} {c : Char}

theorem isBlank_of_isDigit (h : c.isDigit = true) : isBlank c = false := by
  unfold Char.isDigit at h
  rcases Bool.and_eq_true_iff.mp h with ⟨hlow, hhigh⟩
  have hlow : 48 ≤ c.toNat := of_decide_eq_true hlow
  have hhigh : c.toNat ≤ 57 := of_decide_eq_true hhigh
  simp only [isBlank, Bool.or_eq_false_iff, Bool.and_eq_false_iff, beq_eq_false_iff_ne,
    decide_eq_false_iff_not]
  omega

/-!
# Trimming
-/

theorem dropWhile_of_head (h : ∀ c, text.head? = some c -> drop c = false) :
    text.dropWhile drop = text := by
  cases text with
  | nil => rfl
  | cons c rest =>
      have hc := h c rfl
      exact List.dropWhile_cons_of_neg (Bool.eq_false_iff.mp hc)

theorem head_dropWhile (h : (text.dropWhile drop).head? = some c) : drop c = false := by
  have hhead := List.head?_dropWhile_not drop text
  rw [h] at hhead
  exact hhead

theorem trimEndWhile_trimEndWhile (drop : Char -> Bool) (text : Text) :
    trimEndWhile drop (trimEndWhile drop text) = trimEndWhile drop text := by
  unfold trimEndWhile
  rw [List.reverse_reverse, dropWhile_of_head fun c hc => head_dropWhile hc]

theorem trimEndWhile_prefixOf (drop : Char -> Bool) (text : Text) :
    trimEndWhile drop text <+: text := by
  unfold trimEndWhile
  rw [← List.reverse_suffix, List.reverse_reverse]
  exact List.dropWhile_suffix drop

theorem trimEndWhile_concat (h : drop c = true) (text : Text) :
    trimEndWhile drop (text ++ [c]) = trimEndWhile drop text := by
  unfold trimEndWhile
  rw [List.reverse_concat, List.dropWhile_cons_of_pos h]

theorem getLast_trimEndWhile (h : (trimEndWhile drop text).getLast? = some c) :
    drop c = false := by
  unfold trimEndWhile at h
  rw [List.getLast?_reverse] at h
  exact head_dropWhile h

theorem head_trim (h : (trim text).head? = some c) : isBlank c = false := by
  rcases trimEndWhile_prefixOf isBlank (trimStart text) with ⟨tail, htail⟩
  have hstart : (trimStart text).head? = some c := by
    rw [← htail, List.head?_append]
    show (trim text).head?.or tail.head? = some c
    rw [h]
    rfl
  exact head_dropWhile hstart

theorem trimStart_trim (text : Text) : trimStart (trim text) = trim text :=
  dropWhile_of_head fun _ hc => head_trim hc

@[simp] theorem trim_trim (text : Text) : trim (trim text) = trim text := by
  show trimEndWhile isBlank (trimStart (trim text)) = trim text
  rw [trimStart_trim]
  exact trimEndWhile_trimEndWhile isBlank (trimStart text)

theorem trim_cons_of_not_blank (h : isBlank c = false) (rest : Text) :
    ∃ later, trim (c :: rest) = c :: later := by
  have hstart : trimStart (c :: rest) = c :: rest :=
    List.dropWhile_cons_of_neg (Bool.eq_false_iff.mp h)
  have hlast : [c].dropWhile isBlank = [c] :=
    List.dropWhile_cons_of_neg (Bool.eq_false_iff.mp h)
  unfold trim trimEndWhile
  rw [hstart, List.reverse_cons, List.dropWhile_append, hlast]
  split
  · exact ⟨[], rfl⟩
  · rw [List.reverse_append]
    exact ⟨_, rfl⟩

theorem trim_cons_append {last : Char} (hfirst : isBlank c = false) (hlast : isBlank last = false)
    (middle : Text) : trim (c :: (middle ++ [last])) = c :: (middle ++ [last]) := by
  have hstart : trimStart (c :: (middle ++ [last])) = c :: (middle ++ [last]) :=
    List.dropWhile_cons_of_neg (Bool.eq_false_iff.mp hfirst)
  have hreverse : (c :: (middle ++ [last])).reverse = last :: (c :: middle).reverse := by
    rw [← List.cons_append, List.reverse_append]
    rfl
  unfold trim trimEndWhile
  rw [hstart, hreverse, List.dropWhile_cons_of_neg (Bool.eq_false_iff.mp hlast), ← hreverse,
    List.reverse_reverse]

theorem mem_of_mem_trimEndWhile (h : c ∈ trimEndWhile drop text) : c ∈ text :=
  (trimEndWhile_prefixOf drop text).mem h

theorem mem_of_mem_trim (h : c ∈ trim text) : c ∈ text :=
  (List.dropWhile_suffix isBlank).mem (mem_of_mem_trimEndWhile h)

/-!
# Words
-/

theorem words_nil : words [] = [] := rfl

theorem words_append_cons (h : isBlank c = true) (left right : Text) :
    words (left ++ c :: right) = words left ++ words right := by
  unfold words
  rw [splitWhere_append_cons h, List.filter_append]

theorem words_of_no_blank (htext : text ≠ []) (h : ∀ c ∈ text, isBlank c = false) :
    words text = [text] := by
  unfold words
  rw [splitWhere_of_no_cut h]
  cases text with
  | nil => exact absurd rfl htext
  | cons c rest => rfl

theorem isBlank_of_mem_words (h : word ∈ words text) : ∀ c ∈ word, isBlank c = false :=
  cut_eq_false_of_mem_splitWhere (List.mem_filter.mp h).left

theorem words_append_blanks {blanks : Text} (h : ∀ c ∈ blanks, isBlank c = true) (text : Text) :
    words (text ++ blanks) = words text := by
  induction blanks generalizing text with
  | nil => rw [List.append_nil]
  | cons c later ih =>
      rcases List.forall_mem_cons.mp h with ⟨hc, hlater⟩
      have hrest := ih hlater []
      rw [List.nil_append, words_nil] at hrest
      rw [words_append_cons hc, hrest, List.append_nil]

theorem words_cons_of_blank (h : isBlank c = true) (rest : Text) :
    words (c :: rest) = words rest := by
  have hsplit := words_append_cons h [] rest
  rwa [List.nil_append, words_nil, List.nil_append] at hsplit

theorem words_trimStart (text : Text) : words (trimStart text) = words text := by
  unfold trimStart
  induction text with
  | nil => rfl
  | cons c rest ih =>
      cases hc : isBlank c with
      | true => rw [List.dropWhile_cons_of_pos hc, ih, words_cons_of_blank hc]
      | false => rw [List.dropWhile_cons_of_neg (Bool.eq_false_iff.mp hc)]

theorem words_trimEnd (text : Text) : words (trimEndWhile isBlank text) = words text := by
  have hsplit : trimEndWhile isBlank text ++ (text.reverse.takeWhile isBlank).reverse = text := by
    unfold trimEndWhile
    rw [← List.reverse_append, List.takeWhile_append_dropWhile, List.reverse_reverse]
  have hblanks : ∀ c ∈ (text.reverse.takeWhile isBlank).reverse, isBlank c = true := by
    intro c hc
    exact List.all_eq_true.mp List.all_takeWhile c (List.mem_reverse.mp hc)
  have hwords := words_append_blanks hblanks (trimEndWhile isBlank text)
  rw [hsplit] at hwords
  exact hwords.symm

@[simp] theorem words_trim (text : Text) : words (trim text) = words text := by
  unfold trim
  rw [words_trimEnd, words_trimStart]

end Text
end LinePalette
