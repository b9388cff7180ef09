import LinePalette.Host.Arguments
import LinePalette.Proofs.Settings.Words
import LinePalette.Proofs.Text.Blanks

/-!
# Arguments and flags

The words of a call are read twice, as its arguments and as flags.  Both readings
agree up to the two hyphens that end the options.  Behind them is at most a file,
but flags are looked for in its name as in any other word.
-/

namespace LinePalette
namespace Arguments

variable {arguments next after : Arguments} {words rest : List Text} {name value : Text}

/-!
# Options
-/

def hyphens : Text := ['-', '-']

def switchWord : Switch -> Text
  | .terse => Flags.terseWord
  | .noPrompt => Flags.noPromptWord
  | .json => Flags.jsonWord
  | .save => "--save".toList
  | .clear => "--clear".toList

def choiceWord : Choice -> Text
  | .source => Flags.sourceWord
  | .logFile => Flags.logFileWord

def optionWord : LongOption -> Text
  | .switch which => switchWord which
  | .choice which => choiceWord which
  | .version => "--version".toList
  | .help => "--help".toList

theorem optionWord_of_lookup {option : LongOption} (h : longOptions.lookup name = some option) :
    hyphens ++ name = optionWord option := by
  have hall : ∀ known ∈ longOptions, hyphens ++ known.1 = optionWord known.2 := by decide
  rcases List.lookup_eq_some_iff.mp h with ⟨front, back, hoptions, _⟩
  apply hall (name, option)
  rw [hoptions]
  exact List.mem_append_right front List.mem_cons_self

theorem append_eq_of_splitOption {body : Text} {attached : Option Text}
    (h : splitOption body = (name, attached)) :
    body = name ++ (attached.map fun value => '=' :: value).getD [] := by
  have happend : body.takeWhile (· != '=') ++ body.dropWhile (· != '=') = body :=
    List.takeWhile_append_dropWhile
  have hdrop : body.drop (body.takeWhile (· != '=')).length = body.dropWhile (· != '=') :=
    calc
      body.drop (body.takeWhile (· != '=')).length
          = (body.takeWhile (· != '=') ++ body.dropWhile (· != '=')).drop
              (body.takeWhile (· != '=')).length := by rw [happend]
      _ = body.dropWhile (· != '=') := List.drop_left
  have hequals : ∀ c, (body.dropWhile (· != '=')).head? = some c -> c = '=' := by
    intro c hc
    simpa using Text.head_dropWhile hc
  unfold splitOption at h
  simp only [hdrop] at h
  generalize body.takeWhile (· != '=') = front at h happend
  generalize body.dropWhile (· != '=') = back at h happend hequals
  subst happend
  split at h
  · next c value =>
      cases h
      rw [hequals c rfl]
      rfl
  · cases h
    rfl

/-!
# Runs of the reader
-/

/-- The words that lead from some arguments to others, option by option. -/
inductive Reads : Arguments -> List Text -> Arguments -> Prop
  | done (arguments : Arguments) : Reads arguments [] arguments
  | files {arguments after : Arguments} {paths : List Text}
      (h : readFiles arguments paths = .session after) :
      Reads arguments (hyphens :: paths) after
  | switch {arguments next after : Arguments} {rest : List Text} (which : Switch)
      (hon : arguments.switchOn? which = some next) (h : Reads next rest after) :
      Reads arguments (switchWord which :: rest) after
  | attached {arguments next after : Arguments} {rest : List Text} (which : Choice)
      (value : Text) (hchosen : arguments.choose? which value = some next)
      (h : Reads next rest after) :
      Reads arguments ((choiceWord which ++ '=' :: value) :: rest) after
  | choice {arguments next after : Arguments} {rest : List Text} (which : Choice)
      (value : Text) (hvalue : looksLikeOption value = false)
      (hchosen : arguments.choose? which value = some next) (h : Reads next rest after) :
      Reads arguments (choiceWord which :: value :: rest) after
  | file {arguments next after : Arguments} {rest : List Text} (path : Text)
      (hpath : ¬hyphens <+: path) (hnext : arguments.withFile? path = some next)
      (h : Reads next rest after) :
      Reads arguments (path :: rest) after

theorem readShort_ne_session (cluster : Text) (arguments : Arguments) :
    readShort cluster ≠ .session arguments := by
  unfold readShort
  split <;> exact fun h => nomatch h

theorem reads_of_read (h : read arguments words = .session after) :
    Reads arguments words after := by
  fun_induction read arguments words with
  | case1 arguments =>
      cases h
      exact .done after
  | case2 arguments paths => exact .files h
  | case3 arguments body rest hbody name which hoption next hon hsplit ih =>
      have hword : '-' :: '-' :: body = switchWord which := by
        rw [append_eq_of_splitOption hsplit]
        show hyphens ++ (name ++ []) = optionWord (.switch which)
        rw [List.append_nil, optionWord_of_lookup hoption]
      rw [hword]
      exact .switch which hon (ih h)
  | case5 arguments body rest hbody name which value hoption next hchosen hsplit ih =>
      have hword : '-' :: '-' :: body = choiceWord which ++ '=' :: value := by
        rw [append_eq_of_splitOption hsplit]
        show (hyphens ++ name) ++ '=' :: value = _
        rw [optionWord_of_lookup hoption]
        rfl
      rw [hword]
      exact .attached which value hchosen (ih h)
  | case9 arguments body hbody name which hoption value rest hvalue next hchosen hsplit ih =>
      have hword : '-' :: '-' :: body = choiceWord which := by
        rw [append_eq_of_splitOption hsplit]
        show hyphens ++ (name ++ []) = optionWord (.choice which)
        rw [List.append_nil, optionWord_of_lookup hoption]
      rw [hword]
      exact .choice which value (by simpa using hvalue) hchosen (ih h)
  | case14 arguments c cluster => exact absurd h (readShort_ne_session _ _)
  | case15 arguments path rest hhyphens hlong hshort next hnext ih =>
      have hpath : ¬hyphens <+: path := by
        rintro ⟨body, rfl⟩
        exact hlong body rfl
      exact .file path hpath hnext (ih h)
  | case4 | case6 | case7 | case8 | case10 | case11 | case12 | case13 | case16 => cases h

/-!
# Flags of arguments
-/

def flags (arguments : Arguments) : Flags :=
  { terse := arguments.terse, noPrompt := arguments.noPrompt, json := arguments.json,
    source := arguments.source, logFile := arguments.logFile }

theorem read_switchWord (which : Switch) (h : arguments.switchOn? which = some next)
    (words : List Text) :
    Flags.read arguments.flags (switchWord which :: words) = Flags.read next.flags words := by
  unfold switchOn? at h
  split at h
  · cases h
  · cases which with
    | terse =>
        cases h
        exact Flags.read_terse _ words
    | noPrompt =>
        cases h
        exact Flags.read_noPrompt _ words
    | json =>
        cases h
        exact Flags.read_json _ words
    | save =>
        cases h
        rw [Flags.read.eq_def]
        rfl
    | clear =>
        cases h
        rw [Flags.read.eq_def]
        rfl

theorem flags_of_chooseSource (h : arguments.choose? .source value = some next) :
    { arguments.flags with source := Source.ofFlagName? value } = next.flags := by
  unfold choose? at h
  simp only at h
  split at h
  · cases h
  · rcases Option.map_eq_some_iff.mp h with ⟨source, hsource, rfl⟩
    rw [hsource]
    rfl

theorem flags_of_chooseLogFile (h : arguments.choose? .logFile value = some next) :
    { arguments.flags with logFile := some value } = next.flags := by
  unfold choose? at h
  simp only at h
  split at h
  · cases h
  · cases h
    rfl

theorem read_choiceWord (which : Choice) (h : arguments.choose? which value = some next)
    (words : List Text) :
    Flags.read arguments.flags (choiceWord which :: value :: words) =
      Flags.read next.flags words := by
  cases which with
  | source => rw [← flags_of_chooseSource h, choiceWord, Flags.read_source]
  | logFile => rw [← flags_of_chooseLogFile h, choiceWord, Flags.read_logFile]

theorem read_attached (which : Choice) (h : arguments.choose? which value = some next)
    (words : List Text) :
    Flags.read arguments.flags ((choiceWord which ++ '=' :: value) :: words) =
      Flags.read next.flags words := by
  cases which with
  | source => rw [← flags_of_chooseSource h, choiceWord, Flags.read_sourceEquals]
  | logFile => rw [← flags_of_chooseLogFile h, choiceWord, Flags.read_logFileEquals]

theorem flags_of_withFile? {path : Text} (h : arguments.withFile? path = some next) :
    next.flags = arguments.flags ∧ next.file = some path := by
  unfold withFile? at h
  split at h
  · cases h
  · cases h
    exact ⟨rfl, rfl⟩

theorem eq_of_readFiles {paths : List Text} (h : readFiles arguments paths = .session after) :
    (paths = [] ∧ after = arguments) ∨
      ∃ path, paths = [path] ∧ arguments.withFile? path = some after := by
  cases paths with
  | nil =>
      cases h
      exact Or.inl ⟨rfl, rfl⟩
  | cons path paths =>
      unfold readFiles at h
      split at h
      · next named hnamed =>
          cases paths with
          | nil =>
              cases h
              exact Or.inr ⟨path, rfl, hnamed⟩
          | cons other paths =>
              have hfile : named.file = some path := (flags_of_withFile? hnamed).2
              have hnone : named.withFile? other = none := by
                unfold withFile?
                rw [hfile]
                rfl
              unfold readFiles at h
              rw [hnone] at h
              cases h
      · cases h

/-!
# Both readings
-/

/--
What the words make of flags, compared with the arguments they lead to: the same,
unless they end in a file behind the hyphens, which is read as one more word.
-/
inductive Compared (flags : Flags) (words : List Text) (after : Arguments) : Prop
  | same (hnone : ∀ file, ¬[hyphens, file] <:+ words)
      (hread : Flags.read flags words = after.flags)
  | file (path : Text) (hlast : [hyphens, path] <:+ words) (hfile : after.file = some path)
      (hread : Flags.read flags words = Flags.read after.flags [path])

theorem suffix_of_suffix_append {front : List Text} {path : Text} (hfront : hyphens ∉ front)
    (h : [hyphens, path] <:+ front ++ words) : [hyphens, path] <:+ words := by
  induction front with
  | nil => exact h
  | cons word front ih =>
      rcases List.suffix_cons_iff.mp h with hsame | hlater
      · rw [(List.cons.inj hsame).1] at hfront
        exact absurd List.mem_cons_self hfront
      · exact ih (fun hmem => hfront (List.mem_cons_of_mem word hmem)) hlater

theorem Compared.append {flags later : Flags} (front : List Text) (hfront : hyphens ∉ front)
    (hread : Flags.read flags (front ++ words) = Flags.read later words)
    (h : Compared later words after) : Compared flags (front ++ words) after := by
  cases h with
  | same hnone hsame =>
      exact .same (fun file hlast => hnone file (suffix_of_suffix_append hfront hlast))
        (hread.trans hsame)
  | file path hlast hfile hmore =>
      exact .file path (hlast.trans (List.suffix_append front words)) hfile (hread.trans hmore)

theorem hyphens_ne_switchWord (which : Switch) : hyphens ≠ switchWord which := by
  cases which <;> decide

theorem hyphens_ne_choiceWord_append (which : Choice) (tail : Text) :
    hyphens ≠ choiceWord which ++ tail := by
  cases which <;> exact fun h => nomatch h

theorem compared_of_reads (h : Reads arguments words after) :
    Compared arguments.flags words after := by
  induction h with
  | done arguments =>
      refine .same ?_ rfl
      intro file hlast
      exact absurd hlast.length_le (Nat.not_succ_le_zero 1)
  | @files arguments after paths hfiles =>
      have hskip : Flags.read arguments.flags (hyphens :: paths) =
          Flags.read arguments.flags paths := by
        rw [Flags.read.eq_def]
        rfl
      rcases eq_of_readFiles hfiles with ⟨rfl, rfl⟩ | ⟨path, rfl, hfile⟩
      · refine .same ?_ hskip
        intro file hlast
        exact absurd (Nat.le_of_succ_le_succ hlast.length_le) (Nat.not_succ_le_zero 0)
      · rcases flags_of_withFile? hfile with ⟨hflags, hpath⟩
        refine .file path (List.suffix_refl _) hpath ?_
        rw [hskip, hflags]
  | @switch arguments next after rest which hon _ ih =>
      refine Compared.append [switchWord which] ?_ (read_switchWord which hon rest) ih
      simpa using hyphens_ne_switchWord which
  | @attached arguments next after rest which value hchosen _ ih =>
      refine Compared.append [_] ?_ (read_attached which hchosen rest) ih
      simpa using hyphens_ne_choiceWord_append which _
  | @choice arguments next after rest which value hvalue hchosen _ ih =>
      refine Compared.append [choiceWord which, value] ?_
        (read_choiceWord which hchosen rest) ih
      intro hmem
      rcases List.mem_cons.mp hmem with hword | hmem
      · exact hyphens_ne_choiceWord_append which [] (by rw [List.append_nil, hword])
      · rw [← List.mem_singleton.mp hmem] at hvalue
        cases hvalue
  | @file arguments next after rest path hpath hnext _ ih =>
      refine Compared.append [path] ?_ ?_ ih
      · intro hmem
        have hsame : hyphens = path := List.mem_singleton.mp hmem
        exact hpath (hsame ▸ List.prefix_refl hyphens)
      · show Flags.read arguments.flags (path :: rest) = _
        rw [Flags.read_plain hpath, (flags_of_withFile? hnext).1]

/--
A call that is a session gives the same flags by its arguments and by its words,
with the name of the program in front, just when no file behind the hyphens is
spelled as a flag that says something else.  The words take such a file for one
more flag.
-/
theorem words_give_flags_unless_file_spells_one {program : Text}
    (hprogram : ¬hyphens <+: program) (h : parse words = .session arguments) :
    (Flags.ofWords (program :: words) = arguments.flags ↔
      ¬∃ file, [hyphens, file] <:+ words ∧ arguments.flags.ChangedBy file) ∧
    ∀ file, [hyphens, file] <:+ words ->
      arguments.file = some file ∧
      Flags.ofWords (program :: words) = Flags.read arguments.flags [file] := by
  have hplain : Flags.ofWords (program :: words) = Flags.read empty.flags words :=
    Flags.read_plain hprogram Flags.unset words
  rw [hplain]
  cases compared_of_reads (reads_of_read h) with
  | same hnone hread =>
      constructor
      · refine iff_of_true hread ?_
        rintro ⟨file, hlast, _⟩
        exact hnone file hlast
      · exact fun file hlast => absurd hlast (hnone file)
  | file path hlast hfile hread =>
      have honly : ∀ file, [hyphens, file] <:+ words -> file = path := by
        intro file hother
        have hsame := List.suffix_of_suffix_length_le hother hlast (Nat.le_refl 2)
        cases hsame.eq_of_length rfl
        rfl
      constructor
      · rw [hread, Flags.read_word_eq_iff]
        constructor
        · rintro hkept ⟨file, hother, hchanged⟩
          cases honly file hother
          exact hkept hchanged
        · exact fun hkept hchanged => hkept ⟨path, hlast, hchanged⟩
      · intro file hother
        cases honly file hother
        exact ⟨hfile, hread⟩

theorem words_give_flags_unless_file_spells_one_again :
    let words := ["--json".toList, "--source".toList, "editable".toList, "--log-file=a".toList,
      hyphens, "--json".toList]
    ∃ arguments,
      parse words = .session arguments ∧
      arguments.file = some "--json".toList ∧
      Flags.ofWords ("rhed".toList :: words) = arguments.flags := by
  intro words
  have hparse : parse words = .session
      { empty with
        file := some "--json".toList, json := true, source := some .editable,
        logFile := some ['a'] } := by
    decide +kernel
  have hprogram : ¬hyphens <+: "rhed".toList := by decide
  rcases words_give_flags_unless_file_spells_one hprogram hparse with ⟨hsame, hfile⟩
  refine ⟨_, hparse, rfl, hsame.mpr ?_⟩
  rintro ⟨file, hlast, hchanged⟩
  cases (hfile file hlast).1
  exact Flags.read_word_eq_iff.mp (by decide +kernel) hchanged

/-- A file behind the hyphens makes a session terse that was not asked to be. -/
theorem words_differ_from_arguments :
    let words := [hyphens, "--terse".toList]
    let arguments := { empty with file := some "--terse".toList }
    parse words = .session arguments ∧
      arguments.flags = Flags.unset ∧
      Flags.ofWords ("rhed".toList :: words) = { Flags.unset with terse := true } := by
  decide +kernel

end Arguments
end LinePalette
