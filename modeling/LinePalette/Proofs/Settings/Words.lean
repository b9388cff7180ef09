import LinePalette.Proofs.Text.Affixes
import LinePalette.Settings.Flags

/-!
# Words and flags

What each word does to the flags that are read so far, and which words change
nothing when they come last.  All flags are spelled by some words, and a log file
that has been read is a word or the end of one.
-/

namespace LinePalette
namespace Flags

variable {flags : Flags} {word : Text} {words : List Text}

/-!
# Single words
-/

theorem read_terse (flags : Flags) (words : List Text) :
    read flags (terseWord :: words) = read { flags with terse := true } words := by
  rw [read.eq_def]
  rfl

theorem read_noPrompt (flags : Flags) (words : List Text) :
    read flags (noPromptWord :: words) = read { flags with noPrompt := true } words := by
  rw [read.eq_def]
  rfl

theorem read_json (flags : Flags) (words : List Text) :
    read flags (jsonWord :: words) = read { flags with json := true } words := by
  rw [read.eq_def]
  rfl

theorem read_source (flags : Flags) (value : Text) (words : List Text) :
    read flags (sourceWord :: value :: words) =
      read { flags with source := Source.ofFlagName? value } words := rfl

theorem read_logFile (flags : Flags) (value : Text) (words : List Text) :
    read flags (logFileWord :: value :: words) =
      read { flags with logFile := some value } words := rfl

theorem read_sourceEquals (flags : Flags) (value : Text) (words : List Text) :
    read flags ((sourceWord ++ '=' :: value) :: words) =
      read { flags with source := Source.ofFlagName? value } words := by
  rw [read.eq_def]
  rfl

theorem read_logFileEquals (flags : Flags) (value : Text) (words : List Text) :
    read flags ((logFileWord ++ '=' :: value) :: words) =
      read { flags with logFile := some value } words := by
  rw [read.eq_def]
  rfl

theorem read_plain (h : ¬['-', '-'] <+: word) (flags : Flags) (words : List Text) :
    read flags (word :: words) = read flags words := by
  have hne : ∀ flag rest : Text, flag = '-' :: '-' :: rest -> word ≠ flag := by
    intro flag rest hflag hword
    exact h ⟨rest, by rw [hword, hflag]; rfl⟩
  have hnone : ∀ lead rest : Text, lead = '-' :: '-' :: rest ->
      Text.stripLeading? lead word = none := by
    intro lead rest hlead
    rw [Option.eq_none_iff_forall_ne_some]
    intro value hvalue
    rw [Text.stripLeading?_eq_some_iff.mp hvalue, hlead] at h
    exact h ⟨rest ++ value, rfl⟩
  rw [read.eq_def]
  simp only [if_neg (hne terseWord _ rfl), if_neg (hne noPromptWord _ rfl),
    if_neg (hne jsonWord _ rfl), if_neg (hne sourceWord _ rfl), if_neg (hne logFileWord _ rfl),
    hnone (sourceWord ++ ['=']) _ rfl, hnone (logFileWord ++ ['=']) _ rfl]

/-!
# Spelling flags
-/

def switchWords (word : Text) (on : Bool) : List Text := if on then [word] else []

def sourceWords : Option Source -> List Text
  | some source => [sourceWord, source.flagName]
  | none => []

def logFileWords : Option Text -> List Text
  | some path => [logFileWord, path]
  | none => []

def choiceWords (flags : Flags) : List Text :=
  switchWords terseWord flags.terse ++ switchWords noPromptWord flags.noPrompt ++
    switchWords jsonWord flags.json ++ sourceWords flags.source

def toWords (flags : Flags) : List Text := flags.choiceWords ++ logFileWords flags.logFile

theorem read_terse_append (flags : Flags) (on : Bool) (words : List Text) :
    read flags (switchWords terseWord on ++ words) =
      read { flags with terse := on || flags.terse } words := by
  cases on with
  | true => exact read_terse flags words
  | false => rfl

theorem read_noPrompt_append (flags : Flags) (on : Bool) (words : List Text) :
    read flags (switchWords noPromptWord on ++ words) =
      read { flags with noPrompt := on || flags.noPrompt } words := by
  cases on with
  | true => exact read_noPrompt flags words
  | false => rfl

theorem read_json_append (flags : Flags) (on : Bool) (words : List Text) :
    read flags (switchWords jsonWord on ++ words) =
      read { flags with json := on || flags.json } words := by
  cases on with
  | true => exact read_json flags words
  | false => rfl

theorem ofFlagName?_flagName (source : Source) :
    Source.ofFlagName? source.flagName = some source := by
  cases source with
  | textField => decide
  | editable => decide
  | clipboard => decide

theorem read_source_append (flags : Flags) (source : Option Source) (words : List Text) :
    read flags (sourceWords source ++ words) =
      read { flags with source := source.or flags.source } words := by
  cases source with
  | some source =>
      show read flags (sourceWord :: source.flagName :: words) = _
      rw [read_source, ofFlagName?_flagName]
      rfl
  | none => rfl

theorem read_choiceWords (flags : Flags) (words : List Text) :
    read unset (flags.choiceWords ++ words) = read { flags with logFile := none } words := by
  unfold choiceWords
  rw [List.append_assoc, List.append_assoc, List.append_assoc, read_terse_append,
    read_noPrompt_append, read_json_append, read_source_append]
  simp only [unset, Bool.or_false, Option.or_none]

theorem ofWords_toWords (flags : Flags) : ofWords flags.toWords = flags := by
  unfold ofWords toWords
  rw [read_choiceWords]
  rcases flags with ⟨terse, noPrompt, json, source, logFile⟩
  cases logFile with
  | some path => exact read_logFile _ path []
  | none => rfl

/-!
# Log files
-/

/-- The path is one of the words or the end of one. -/
def EndsWord (path : Text) (words : List Text) : Prop := ∃ word ∈ words, path <:+ word

theorem EndsWord.cons {path : Text} (word : Text) (h : EndsWord path words) :
    EndsWord path (word :: words) := by
  rcases h with ⟨later, hlater, hends⟩
  exact ⟨later, List.mem_cons_of_mem word hlater, hends⟩

theorem logFile_of_read {path : Text} (h : (read flags words).logFile = some path) :
    flags.logFile = some path ∨ EndsWord path words := by
  fun_induction read flags words with
  | case1 flags => exact Or.inl h
  | case2 flags words ih => exact (ih h).imp_right (EndsWord.cons terseWord)
  | case3 flags words _ ih => exact (ih h).imp_right (EndsWord.cons noPromptWord)
  | case4 flags words _ _ ih => exact (ih h).imp_right (EndsWord.cons jsonWord)
  | case5 flags => exact Or.inl h
  | case6 flags value words _ _ _ ih =>
      exact (ih h).imp_right fun hlater => (hlater.cons value).cons sourceWord
  | case7 flags => exact Or.inl h
  | case8 flags value words _ _ _ _ ih =>
      right
      rcases ih h with hvalue | hlater
      · cases hvalue
        exact EndsWord.cons logFileWord ⟨path, List.mem_cons_self, List.suffix_refl path⟩
      · exact (hlater.cons value).cons logFileWord
  | case9 flags word words _ _ _ _ _ value _ ih => exact (ih h).imp_right (EndsWord.cons word)
  | case10 flags word words _ _ _ _ _ _ value hvalue ih =>
      right
      rcases ih h with hpath | hlater
      · cases hpath
        rw [Text.stripLeading?_eq_some_iff.mp hvalue]
        exact ⟨_, List.mem_cons_self, List.suffix_append _ path⟩
      · exact hlater.cons word
  | case11 flags word words _ _ _ _ _ _ _ ih => exact (ih h).imp_right (EndsWord.cons word)

/-!
# Last words
-/

/-- What a last word says is not what the flags say already. -/
def ChangedBy (flags : Flags) (word : Text) : Prop :=
  (word = terseWord ∧ flags.terse = false) ∨
    (word = noPromptWord ∧ flags.noPrompt = false) ∨
    (word = jsonWord ∧ flags.json = false) ∨
    (∃ name, word = sourceWord ++ '=' :: name ∧ flags.source ≠ Source.ofFlagName? name) ∨
    ∃ path, word = logFileWord ++ '=' :: path ∧ flags.logFile ≠ some path

theorem read_ne_of_changedBy (h : flags.ChangedBy word) : read flags [word] ≠ flags := by
  intro hread
  rcases h with ⟨rfl, hoff⟩ | ⟨rfl, hoff⟩ | ⟨rfl, hoff⟩ | ⟨name, rfl, hother⟩ |
    ⟨path, rfl, hother⟩
  · rw [read_terse] at hread
    rw [← hread] at hoff
    cases hoff
  · rw [read_noPrompt] at hread
    rw [← hread] at hoff
    cases hoff
  · rw [read_json] at hread
    rw [← hread] at hoff
    cases hoff
  · rw [read_sourceEquals] at hread
    rw [← hread] at hother
    exact hother rfl
  · rw [read_logFileEquals] at hread
    rw [← hread] at hother
    exact hother rfl

theorem changedBy_of_read_ne (h : read flags [word] ≠ flags) : flags.ChangedBy word := by
  rcases flags with ⟨terse, noPrompt, json, source, logFile⟩
  rw [read.eq_def] at h
  simp only at h
  split at h
  · next hword =>
      refine Or.inl ⟨hword, ?_⟩
      cases terse with
      | true => exact absurd rfl h
      | false => rfl
  split at h
  · next hword =>
      refine Or.inr (Or.inl ⟨hword, ?_⟩)
      cases noPrompt with
      | true => exact absurd rfl h
      | false => rfl
  split at h
  · next hword =>
      refine Or.inr (Or.inr (Or.inl ⟨hword, ?_⟩))
      cases json with
      | true => exact absurd rfl h
      | false => rfl
  split at h
  · exact absurd rfl h
  split at h
  · exact absurd rfl h
  split at h
  · next name hname =>
      refine Or.inr (Or.inr (Or.inr (Or.inl ⟨name, ?_, ?_⟩)))
      · simpa using Text.stripLeading?_eq_some_iff.mp hname
      · intro hsame
        exact h (by rw [show source = _ from hsame]; rfl)
  split at h
  · next path hpath =>
      refine Or.inr (Or.inr (Or.inr (Or.inr ⟨path, ?_, ?_⟩)))
      · simpa using Text.stripLeading?_eq_some_iff.mp hpath
      · intro hsame
        exact h (by rw [show logFile = _ from hsame]; rfl)
  · exact absurd rfl h

theorem read_word_eq_iff : read flags [word] = flags ↔ ¬flags.ChangedBy word := by
  constructor
  · intro hread hchanged
    exact read_ne_of_changedBy hchanged hread
  · intro hkept
    exact Classical.byContradiction fun hread => hkept (changedBy_of_read_ne hread)

end Flags
end LinePalette
