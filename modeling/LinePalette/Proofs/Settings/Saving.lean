import LinePalette.Proofs.Files.Writing
import LinePalette.Proofs.Settings.Words
import LinePalette.Proofs.Text.Blanks
import LinePalette.Proofs.Text.Encoding
import LinePalette.Settings.File

/-!
# Saved flags

Flags that have been saved are loaded again as they were, except for a log file
whose path is not a single word.  The path is written without quotes behind its
flag, so its first word alone would be taken for it, and an empty path leaves the
flag without a value.
-/

namespace LinePalette
namespace Settings

/-!
# Words of a line
-/

/-- The words of one line of a settings file; a comment has none. -/
def lineWords (line : Text) : List Text :=
  if isCommentOrEmpty (Text.trim line) then [] else Text.words line

theorem wordsOf_eq (content : Text) :
    wordsOf content = (Text.splitOn '\n' content).flatMap lineWords := by
  unfold wordsOf
  induction Text.splitOn '\n' content with
  | nil => rfl
  | cons line later ih =>
      rw [List.map_cons, List.filter_cons, List.flatMap_cons, ← ih]
      unfold lineWords
      cases isCommentOrEmpty (Text.trim line) with
      | true => rfl
      | false =>
          show Text.words (Text.trim line) ++ _ = _
          rw [Text.words_trim]
          rfl

theorem isBlank_of_mem_lineWords {line word : Text} (h : word ∈ lineWords line) :
    ∀ c ∈ word, Text.isBlank c = false := by
  unfold lineWords at h
  split at h
  · cases h
  · exact Text.isBlank_of_mem_words h

theorem isBlank_of_mem_wordsOf {content word : Text} (h : word ∈ wordsOf content) :
    ∀ c ∈ word, Text.isBlank c = false := by
  rw [wordsOf_eq] at h
  rcases List.mem_flatMap.mp h with ⟨line, _, hword⟩
  exact isBlank_of_mem_lineWords hword

/-!
# Lines of a saved file
-/

def sourceLines : Option Source -> List Text
  | some source => [Flags.sourceWord ++ ' ' :: source.flagName]
  | none => []

def logFileLines : Option Text -> List Text
  | some path => [Flags.logFileWord ++ ' ' :: path]
  | none => []

theorem linesOf_eq (flags : Flags) :
    linesOf flags =
      header :: (Flags.switchWords Flags.terseWord flags.terse ++
        Flags.switchWords Flags.noPromptWord flags.noPrompt ++
        Flags.switchWords Flags.jsonWord flags.json ++ sourceLines flags.source ++
        logFileLines flags.logFile) := by
  rcases flags with ⟨terse, noPrompt, json, source, logFile⟩
  cases source with
  | none =>
      cases logFile with
      | none => rfl
      | some path => rfl
  | some source =>
      cases logFile with
      | none => rfl
      | some path => rfl

theorem lineWords_switchWords {word : Text} (h : lineWords word = [word]) (on : Bool) :
    (Flags.switchWords word on).flatMap lineWords = Flags.switchWords word on := by
  cases on with
  | true =>
      show lineWords word ++ [] = [word]
      rw [h]
      rfl
  | false => rfl

theorem lineWords_sourceLines (source : Option Source) :
    (sourceLines source).flatMap lineWords = Flags.sourceWords source := by
  cases source with
  | none => rfl
  | some source =>
      cases source with
      | textField => decide
      | editable => decide
      | clipboard => decide

theorem lineWords_logFile (path : Text) :
    lineWords (Flags.logFileWord ++ ' ' :: path) = Flags.logFileWord :: Text.words path := by
  have hshown : isCommentOrEmpty (Text.trim (Flags.logFileWord ++ ' ' :: path)) = false := by
    rcases Text.trim_cons_of_not_blank (c := '-') (by decide) ("-log-file ".toList ++ path)
      with ⟨rest, hrest⟩
    show isCommentOrEmpty (Text.trim ('-' :: ("-log-file ".toList ++ path))) = false
    rw [hrest]
    rfl
  unfold lineWords
  rw [hshown]
  show Text.words (Flags.logFileWord ++ ' ' :: path) = _
  rw [Text.words_append_cons (by decide)]
  rfl

def logFileLineWords : Option Text -> List Text
  | some path => Flags.logFileWord :: Text.words path
  | none => []

theorem lineWords_logFileLines (logFile : Option Text) :
    (logFileLines logFile).flatMap lineWords = logFileLineWords logFile := by
  cases logFile with
  | none => rfl
  | some path =>
      show lineWords _ ++ [] = _
      rw [lineWords_logFile, List.append_nil]
      rfl

theorem flatMap_linesOf (flags : Flags) :
    (linesOf flags).flatMap lineWords = flags.choiceWords ++ logFileLineWords flags.logFile := by
  have hheader : lineWords header = [] := by decide
  rw [linesOf_eq, List.flatMap_cons, hheader]
  simp only [List.flatMap_append, lineWords_sourceLines, lineWords_logFileLines,
    lineWords_switchWords (show lineWords Flags.terseWord = _ by decide),
    lineWords_switchWords (show lineWords Flags.noPromptWord = _ by decide),
    lineWords_switchWords (show lineWords Flags.jsonWord = _ by decide)]
  rfl

/-!
# Reading a saved file
-/

theorem newline_not_mem_switchWords {word : Text} (h : '\n' ∉ word) (on : Bool) :
    ∀ line ∈ Flags.switchWords word on, '\n' ∉ line := by
  intro line hline
  cases on with
  | true =>
      rw [List.mem_singleton.mp hline]
      exact h
  | false => cases hline

theorem newline_not_mem_sourceLines (source : Option Source) :
    ∀ line ∈ sourceLines source, '\n' ∉ line := by
  cases source with
  | none => decide
  | some source =>
      cases source with
      | textField => decide
      | editable => decide
      | clipboard => decide

theorem newline_not_mem_logFileLines {logFile : Option Text}
    (h : ∀ path, logFile = some path -> '\n' ∉ path) :
    ∀ line ∈ logFileLines logFile, '\n' ∉ line := by
  intro line hline
  cases logFile with
  | none => cases hline
  | some path =>
      rw [List.mem_singleton.mp hline]
      intro hmem
      rcases List.mem_append.mp hmem with hflag | hrest
      · exact absurd hflag (by decide)
      · rcases List.mem_cons.mp hrest with hspace | hpath
        · cases hspace
        · exact h path rfl hpath

theorem newline_not_mem_linesOf {flags : Flags}
    (h : ∀ path, flags.logFile = some path -> '\n' ∉ path) :
    ∀ line ∈ linesOf flags, '\n' ∉ line := by
  intro line hline
  rw [linesOf_eq] at hline
  simp only [List.mem_cons, List.mem_append] at hline
  rcases hline with rfl | (((hterse | hprompt) | hjson) | hsource) | hfile
  · decide
  · exact newline_not_mem_switchWords (by decide) _ line hterse
  · exact newline_not_mem_switchWords (by decide) _ line hprompt
  · exact newline_not_mem_switchWords (by decide) _ line hjson
  · exact newline_not_mem_sourceLines _ line hsource
  · exact newline_not_mem_logFileLines h line hfile

theorem parse_render {flags : Flags} (h : ∀ path, flags.logFile = some path -> '\n' ∉ path) :
    parse (render flags) =
      Flags.read { flags with logFile := none } (logFileLineWords flags.logFile) := by
  have hlines : linesOf flags ≠ [] := by
    rw [linesOf_eq]
    exact List.cons_ne_nil _ _
  unfold parse Flags.ofWords render
  rw [wordsOf_eq, Text.splitOn_append_cons, Text.splitOn_join hlines (newline_not_mem_linesOf h),
    List.flatMap_append, flatMap_linesOf, List.append_assoc, Flags.read_choiceWords]
  show Flags.read _ (_ ++ []) = _
  rw [List.append_nil]

theorem isBlank_of_parse {content path : Text} (h : (parse content).logFile = some path) :
    ∀ c ∈ path, Text.isBlank c = false := by
  rcases Flags.logFile_of_read h with hunset | ⟨word, hword, hends⟩
  · cases hunset
  · intro c hc
    exact isBlank_of_mem_wordsOf hword c (hends.mem hc)

/-- Flags are read back as they were saved just when the path of the log file is one word. -/
theorem parse_render_eq_iff {flags : Flags} :
    parse (render flags) = flags ↔
      ∀ path, flags.logFile = some path -> path ≠ [] ∧ ∀ c ∈ path, Text.isBlank c = false := by
  have hnewline : ∀ path : Text, (∀ c ∈ path, Text.isBlank c = false) -> '\n' ∉ path := by
    intro path hblank hmem
    exact absurd (hblank '\n' hmem) (by decide)
  constructor
  · intro h path hpath
    have hblank : ∀ c ∈ path, Text.isBlank c = false := by
      apply isBlank_of_parse
      rw [h]
      exact hpath
    refine ⟨?_, hblank⟩
    intro hempty
    subst hempty
    have hread : parse (render flags) = _ := parse_render fun other hother => by
      rw [hpath] at hother
      cases hother
      exact hnewline [] hblank
    rw [h, hpath] at hread
    rw [hread] at hpath
    cases hpath
  · intro h
    have hread : parse (render flags) = _ := parse_render fun path hpath =>
      hnewline path (h path hpath).2
    rw [hread]
    rcases flags with ⟨terse, noPrompt, json, source, logFile⟩
    cases logFile with
    | none => rfl
    | some path =>
        rcases h path rfl with ⟨hpath, hblank⟩
        show Flags.read _ (Flags.logFileWord :: Text.words path) = _
        rw [Text.words_of_no_blank hpath hblank, Flags.read_logFile]
        rfl

/-!
# Saving and loading
-/

theorem save_of_writable {disk : Disk} {path : Text} (flags : Flags) (folder : Text)
    (location : Location) (hparent : Path.parent? path = some folder)
    (hfolder : folder = [] ∨ (disk.makeFolderPath folder).isFolderPath folder)
    (hplace : (disk.makeFolderPath folder).fileLocation? path = some location) :
    save disk path flags =
      (.ok (), (disk.makeFolderPath folder).put location
        (.file (Utf8.encode (render flags)))) := by
  unfold save
  simp only [hparent, Option.getD_some]
  rw [if_pos hfolder]
  unfold Disk.writeFile?
  rw [hplace]
  rfl

theorem load_of_save {disk saved : Disk} {path : Text} {flags : Flags}
    (h : save disk path flags = (.ok (), saved)) : load saved path = .ok (parse (render flags)) := by
  unfold save at h
  simp only at h
  split at h
  · split at h
    · cases h
    · next written hwrite =>
        cases h
        have hread := Disk.readFile?_of_writeFile? hwrite
        unfold load
        rw [if_pos (Disk.pathExists_of_readFile? hread), Disk.readText?_of_readFile? hread]
  · cases h

/--
Flags that have been saved, which can be any that words spell, can be loaded, and
what is loaded are the flags that were saved just when they name no log file or one
whose path is not empty and holds no blank.
-/
theorem saved_flags_load_unless_path_splits {disk saved : Disk} {path : Text} {flags : Flags}
    (h : save disk path flags = (.ok (), saved)) :
    (∃ words, Flags.ofWords words = flags) ∧
      ∃ loaded,
        load saved path = .ok loaded ∧
        (loaded = flags ↔
          ∀ file, flags.logFile = some file ->
            file ≠ [] ∧ ∀ c ∈ file, Text.isBlank c = false) := by
  constructor
  · exact ⟨flags.toWords, Flags.ofWords_toWords flags⟩
  · exact ⟨parse (render flags), load_of_save h, parse_render_eq_iff⟩

theorem saved_flags_load_unless_path_splits_all :
    let flags : Flags :=
      { terse := true, noPrompt := true, json := true, source := some .clipboard,
        logFile := some "--json".toList }
    let disk : Disk := { here := [], entries := [] }
    let path := "rhed/config".toList
    let saved := (save disk path flags).2
    save disk path flags = (.ok (), saved) ∧ load saved path = .ok flags := by
  intro flags disk path saved
  have hsave : save disk path flags = (.ok (), saved) := by
    show save disk path flags = (.ok (), (save disk path flags).2)
    rw [save_of_writable flags "rhed".toList ["rhed".toList, "config".toList] (by decide)
      (by decide +kernel) (by decide +kernel)]
  refine ⟨hsave, ?_⟩
  rcases saved_flags_load_unless_path_splits hsave with ⟨_, loaded, hload, hsame⟩
  have hfile : ∀ file, flags.logFile = some file ->
      file ≠ [] ∧ ∀ c ∈ file, Text.isBlank c = false := by
    intro file hfile
    cases hfile
    have hword : "--json".toList ∈ Text.words "--json".toList := by decide
    exact ⟨List.cons_ne_nil _ _, Text.isBlank_of_mem_words hword⟩
  rw [hload, hsame.mpr hfile]

/-- The path of a log file is cut at its blank, and an empty one is lost. -/
theorem saved_flags_not_loaded :
    let disk : Disk := { here := [], entries := [] }
    let cut := Flags.ofWords ["--log-file".toList, "a b".toList]
    let lost := Flags.ofWords ["--log-file=".toList]
    (save disk ['f'] cut).1 = .ok () ∧
      load (save disk ['f'] cut).2 ['f'] = .ok { Flags.unset with logFile := some ['a'] } ∧
      cut = { Flags.unset with logFile := some "a b".toList } ∧
      (save disk ['f'] lost).1 = .ok () ∧
      load (save disk ['f'] lost).2 ['f'] = .ok Flags.unset ∧
      lost = { Flags.unset with logFile := some [] } := by
  intro disk cut lost
  have hsave (flags : Flags) : save disk ['f'] flags = (.ok (), (save disk ['f'] flags).2) := by
    rw [save_of_writable flags [] [['f']] (by decide) (Or.inl rfl) (by decide +kernel)]
  have hcut : parse (render cut) = { Flags.unset with logFile := some ['a'] } := by
    decide +kernel
  have hlost : parse (render lost) = Flags.unset := by
    decide +kernel
  refine ⟨?_, ?_, by decide +kernel, ?_, ?_, by decide +kernel⟩
  · rw [hsave cut]
  · rw [load_of_save (hsave cut), hcut]
  · rw [hsave lost]
  · rw [load_of_save (hsave lost), hlost]

end Settings
end LinePalette
