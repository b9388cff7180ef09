import LinePalette.Editor.Command
import LinePalette.Editor.Substitution
import LinePalette.Proofs.Text.Blanks

/-!
# Command lines

A command line is put together from its address, its letter and its tail.  A pattern
between two slashes is passed over when the letter is looked for, whatever is in it.  The
tail of a substitution is put together from a pattern, a template and a flag.
-/

namespace LinePalette

theorem Text.trim_slashed {letter : Char} (h : isBlank letter = false) (body : Text) :
    trim ('/' :: (body ++ ['/', letter])) = '/' :: (body ++ ['/', letter]) := by
  have hends : trim ('/' :: (body ++ ['/'] ++ [letter])) = _ :=
    trim_cons_append rfl h (body ++ ['/'])
  rwa [List.append_assoc] at hends

namespace Command

variable {line body tail : Text} {letter : Char} {command : Command}

theorem splitAtLetter?_append {inPattern : Bool} {before : Text}
    (h : splitAtLetter? inPattern line = some (before, letter, tail)) :
    line = before ++ letter :: tail := by
  induction line generalizing inPattern before with
  | nil => cases h
  | cons first rest ih =>
      -- a character in front of the letter is put back in front of what was found behind it
      have hlater : ∀ inside : Bool,
          (splitAtLetter? inside rest).map (fun found => (first :: found.1, found.2)) =
            some (before, letter, tail) ->
          first :: rest = before ++ letter :: tail := by
        intro inside hmap
        rcases Option.map_eq_some_iff.mp hmap with ⟨⟨front, found⟩, hfound, hpair⟩
        cases hpair
        rw [ih hfound]
        rfl
      rw [splitAtLetter?] at h
      split at h
      · exact hlater _ h
      · split at h
        · cases h
          rfl
        · exact hlater _ h

theorem parse?_parts (h : parse? line = some command) :
    line = command.address ++ command.letter :: command.tail ∨
      command = { address := line, letter := defaultLetter, tail := [] } := by
  unfold parse? at h
  split at h
  · next address letter tail hsplit =>
      cases h
      exact Or.inl (splitAtLetter?_append hsplit)
  · split at h
    · cases h
    · cases h
      exact Or.inr rfl

theorem splitAtLetter?_inside (h : '/' ∉ body) (rest : Text) :
    splitAtLetter? true (body ++ '/' :: rest) =
      (splitAtLetter? false rest).map fun found => (body ++ '/' :: found.1, found.2) := by
  induction body with
  | nil => rfl
  | cons first later ih =>
      rw [List.mem_cons, not_or] at h
      rcases h with ⟨hfirst, hlater⟩
      rw [List.cons_append, splitAtLetter?, if_neg (Ne.symm hfirst), ih hlater, Option.map_map]
      rfl

theorem parse?_pattern (h : '/' ∉ body) (hletter : letter.isAlpha) (tail : Text) :
    parse? ('/' :: (body ++ '/' :: letter :: tail)) =
      some { address := '/' :: (body ++ ['/']), letter := letter, tail := tail } := by
  have hslash : letter ≠ '/' := by
    rintro rfl
    cases hletter
  have hfound : splitAtLetter? false (letter :: tail) = some ([], letter, tail) := by
    rw [splitAtLetter?, if_neg hslash, hletter]
    rfl
  have hsplit : splitAtLetter? false ('/' :: (body ++ '/' :: letter :: tail)) =
      some ('/' :: (body ++ ['/']), letter, tail) := by
    rw [splitAtLetter?, if_pos rfl]
    show (splitAtLetter? true (body ++ '/' :: letter :: tail)).map _ = _
    rw [splitAtLetter?_inside h, hfound]
    rfl
  unfold parse?
  rw [hsplit]

theorem parse?_trim_pattern (h : '/' ∉ body) (hletter : letter.isAlpha)
    (hblank : Text.isBlank letter = false) :
    parse? (Text.trim ('/' :: (body ++ ['/', letter]))) =
      some { address := '/' :: (body ++ ['/']), letter := letter, tail := [] } := by
  rw [Text.trim_slashed hblank, parse?_pattern h hletter]

end Command

/-!
# Tails of substitutions
-/

namespace Substitution

variable {tail : Text} {substitution : Substitution}

def written (substitution : Substitution) : Text :=
  '/' :: substitution.pattern ++ '/' :: substitution.template ++
    '/' :: if substitution.everywhere then ['g'] else []

theorem parse_slashed {pattern template flags : Text} (hpattern : '/' ∉ pattern)
    (htemplate : '/' ∉ template) (hflags : flags = [] ∨ flags = ['g']) :
    parse ('/' :: pattern ++ '/' :: template ++ '/' :: flags) =
      .ok { pattern := pattern, template := template, everywhere := flags = ['g'] } := by
  have hlast : '/' ∉ flags := by
    rcases hflags with rfl | rfl
    · decide
    · decide
  have hsplit : Text.splitOn '/' ('/' :: pattern ++ '/' :: template ++ '/' :: flags) =
      [[], pattern, template, flags] := by
    rw [Text.splitOn_append_cons, Text.splitOn_append_cons, ← List.nil_append ('/' :: pattern),
      Text.splitOn_append_cons, Text.splitOn_of_not_mem hpattern,
      Text.splitOn_of_not_mem htemplate, Text.splitOn_of_not_mem hlast]
    rfl
  unfold parse
  rw [hsplit]
  exact if_pos ⟨rfl, hflags⟩

theorem parse_written (hpattern : '/' ∉ substitution.pattern)
    (htemplate : '/' ∉ substitution.template) :
    parse substitution.written = .ok substitution := by
  rcases substitution with ⟨pattern, template, everywhere⟩
  cases everywhere with
  | false => exact parse_slashed hpattern htemplate (Or.inl rfl)
  | true => exact parse_slashed hpattern htemplate (Or.inr rfl)

theorem eq_written_of_parse (h : parse tail = .ok substitution) :
    tail = substitution.written ∧ '/' ∉ substitution.pattern ∧ '/' ∉ substitution.template := by
  unfold parse at h
  split at h
  · next lead pattern template flags hsplit =>
      split at h
      · next hfields =>
          rcases hfields with ⟨rfl, hflags⟩
          cases h
          have hpiece : ∀ piece ∈ [[], pattern, template, flags], '/' ∉ piece := by
            intro piece hmem
            rw [← hsplit] at hmem
            exact Text.not_mem_of_mem_splitOn hmem
          have hjoin : Text.join ['/'] [[], pattern, template, flags] = tail := by
            rw [← hsplit, Text.join_splitOn]
          refine ⟨?_, hpiece pattern (by simp), hpiece template (by simp)⟩
          rw [← hjoin]
          rcases hflags with rfl | rfl
          · simp [Text.join, written]
          · simp [Text.join, written]
      · cases h
  · cases h

/-- A tail is taken apart just when it is put together from parts without a slash. -/
theorem parse_eq_ok_iff :
    parse tail = .ok substitution ↔
      tail = substitution.written ∧ '/' ∉ substitution.pattern ∧
        '/' ∉ substitution.template := by
  constructor
  · exact eq_written_of_parse
  · rintro ⟨rfl, hpattern, htemplate⟩
    exact parse_written hpattern htemplate

theorem eq_invalidSubstitute_of_parse {error : EditError} (h : parse tail = .error error) :
    error = .invalidSubstitute := by
  unfold parse at h
  split at h
  · split at h
    · cases h
    · cases h
      rfl
  · cases h
    rfl

theorem parse_eq_error_iff {error : EditError} :
    parse tail = .error error ↔
      error = .invalidSubstitute ∧
        ∀ substitution : Substitution, tail = substitution.written ->
          '/' ∈ substitution.pattern ∨ '/' ∈ substitution.template := by
  constructor
  · intro h
    refine ⟨eq_invalidSubstitute_of_parse h, ?_⟩
    rintro substitution rfl
    apply Classical.byContradiction
    intro hslash
    rw [not_or] at hslash
    rw [parse_written hslash.left hslash.right] at h
    cases h
  · rintro ⟨rfl, hnone⟩
    cases hparse : parse tail with
    | error error => rw [eq_invalidSubstitute_of_parse hparse]
    | ok substitution =>
        rcases eq_written_of_parse hparse with ⟨htail, hpattern, htemplate⟩
        rcases hnone substitution htail with hslash | hslash
        · exact absurd hslash hpattern
        · exact absurd hslash htemplate

theorem getLast?_of_parse (h : parse tail = .ok substitution) :
    tail.getLast? = some '/' ∨ tail.getLast? = some 'g' := by
  rw [(eq_written_of_parse h).left]
  unfold written
  rw [List.getLast?_append]
  cases substitution.everywhere with
  | false => exact Or.inl rfl
  | true => exact Or.inr rfl

end Substitution
end LinePalette
