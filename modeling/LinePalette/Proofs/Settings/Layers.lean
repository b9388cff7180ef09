import LinePalette.Proofs.Settings.Words

/-!
# Layers of words

Words set one thing after the other, and the flags are what all of it comes to.  Behind
other words they set what they set alone, unless the others end on a flag that takes the
next word for its value.  So words in one list come to the same flags as in two layers,
but for the source: a name that is none takes back the choice in front of it in its list,
while an earlier layer keeps the choice it has made.
-/

namespace LinePalette

inductive Setting where
  | terse
  | noPrompt
  | json
  | source (name : Text)
  | logFile (path : Text)
deriving Repr, DecidableEq

namespace Setting

def sourceName? : Setting -> Option Text
  | source name => some name
  | _ => none

def logFilePath? : Setting -> Option Text
  | logFile path => some path
  | _ => none

/-- The flags after one more thing has been set; a name that is no source leaves none. -/
def apply (flags : Flags) : Setting -> Flags
  | terse => { flags with terse := true }
  | noPrompt => { flags with noPrompt := true }
  | json => { flags with json := true }
  | source name => { flags with source := Source.ofFlagName? name }
  | logFile path => { flags with logFile := some path }

def lastSourceName? (settings : List Setting) : Option Text :=
  (settings.filterMap sourceName?).getLast?

def lastLogFilePath? (settings : List Setting) : Option Text :=
  (settings.filterMap logFilePath?).getLast?

theorem lastSourceName?_cons (setting : Setting) (settings : List Setting) :
    lastSourceName? (setting :: settings) =
      (lastSourceName? settings).or setting.sourceName? := by
  unfold lastSourceName?
  rw [← List.singleton_append, List.filterMap_append, List.getLast?_append]
  cases setting with
  | source name => rfl
  | _ => rfl

theorem lastLogFilePath?_cons (setting : Setting) (settings : List Setting) :
    lastLogFilePath? (setting :: settings) =
      (lastLogFilePath? settings).or setting.logFilePath? := by
  unfold lastLogFilePath?
  rw [← List.singleton_append, List.filterMap_append, List.getLast?_append]
  cases setting with
  | logFile path => rfl
  | _ => rfl

/-- A switch is on once it has been set, and of the choices the last one counts. -/
theorem foldl_apply (settings : List Setting) (flags : Flags) :
    settings.foldl apply flags =
      { terse := flags.terse || settings.contains terse,
        noPrompt := flags.noPrompt || settings.contains noPrompt,
        json := flags.json || settings.contains json,
        source := ((lastSourceName? settings).map Source.ofFlagName?).getD flags.source,
        logFile := (lastLogFilePath? settings).or flags.logFile } := by
  induction settings generalizing flags with
  | nil => simp [lastSourceName?, lastLogFilePath?]
  | cons setting settings ih =>
      rw [List.foldl_cons, ih, lastSourceName?_cons, lastLogFilePath?_cons]
      cases setting with
      | source name =>
          cases lastSourceName? settings with
          | none => simp [apply, sourceName?, logFilePath?]
          | some last => simp [apply, sourceName?, logFilePath?]
      | _ => simp [apply, sourceName?, logFilePath?]

end Setting

namespace Flags

/-!
# Words in their order
-/

def valued? (word : Text) : Option (Text -> Setting) :=
  if word = sourceWord then some .source
  else if word = logFileWord then some .logFile
  else none

def alone? (word : Text) : Option Setting :=
  if word = terseWord then some .terse
  else if word = noPromptWord then some .noPrompt
  else if word = jsonWord then some .json
  else
    ((Text.stripLeading? (sourceWord ++ ['=']) word).map Setting.source).or
      ((Text.stripLeading? (logFileWord ++ ['=']) word).map Setting.logFile)

/-- What the words set, one after the other; a flag whose value is missing sets nothing. -/
def settings : List Text -> List Setting
  | [] => []
  | word :: words =>
      match valued? word with
      | some setting =>
          match words with
          | [] => []
          | value :: words => setting value :: settings words
      | none => (alone? word).toList ++ settings words

/-- The words end on a flag that still waits for its value. -/
def waits : List Text -> Bool
  | [] => false
  | word :: words =>
      match valued? word with
      | some _ =>
          match words with
          | [] => true
          | _ :: words => waits words
      | none => waits words

variable {front back words : List Text} {word : Text} {setting : Text -> Setting}

theorem settings_alone (h : valued? word = none) (words : List Text) :
    settings (word :: words) = (alone? word).toList ++ settings words := by
  rw [settings.eq_def]
  simp only [h]

theorem waits_alone (h : valued? word = none) (words : List Text) :
    waits (word :: words) = waits words := by
  rw [waits.eq_def]
  simp only [h]

theorem settings_append (h : waits front = false) (back : List Text) :
    settings (front ++ back) = settings front ++ settings back := by
  fun_induction settings front with
  | case1 => rfl
  | case2 word setting hvalued =>
      rw [waits, hvalued] at h
      cases h
  | case3 word setting hvalued value words ih =>
      rw [waits, hvalued] at h
      rw [List.cons_append, List.cons_append, settings, hvalued]
      exact congrArg (setting value :: ·) (ih h)
  | case4 word words hvalued ih =>
      rw [waits_alone hvalued] at h
      rw [List.cons_append, settings_alone hvalued, ih h, List.append_assoc]

/-!
# Reading
-/

theorem eq_of_valued? (h : valued? word = some setting) :
    (word = sourceWord ∧ setting = .source) ∨ (word = logFileWord ∧ setting = .logFile) := by
  unfold valued? at h
  split at h
  · next hword =>
      cases h
      exact Or.inl ⟨hword, rfl⟩
  · split at h
    · next hword =>
        cases h
        exact Or.inr ⟨hword, rfl⟩
    · cases h

theorem read_valued (h : valued? word = some setting) (flags : Flags) (value : Text)
    (words : List Text) :
    read flags (word :: value :: words) = read ((setting value).apply flags) words := by
  rcases eq_of_valued? h with ⟨rfl, rfl⟩ | ⟨rfl, rfl⟩
  · exact read_source flags value words
  · exact read_logFile flags value words

theorem read_waiting (h : valued? word = some setting) (flags : Flags) :
    read flags [word] = flags := by
  rcases eq_of_valued? h with ⟨rfl, rfl⟩ | ⟨rfl, rfl⟩
  · rfl
  · rfl

theorem read_alone (h : valued? word = none) (flags : Flags) (words : List Text) :
    read flags (word :: words) = read ((alone? word).toList.foldl Setting.apply flags) words := by
  have hsource : word ≠ sourceWord := by
    rintro rfl
    cases h
  have hlogFile : word ≠ logFileWord := by
    rintro rfl
    cases h
  rw [read.eq_def]
  simp only [if_neg hsource, if_neg hlogFile]
  unfold alone?
  split
  · rfl
  split
  · rfl
  split
  · rfl
  cases Text.stripLeading? (sourceWord ++ ['=']) word with
  | some name => rfl
  | none =>
      cases Text.stripLeading? (logFileWord ++ ['=']) word with
      | some path => rfl
      | none => rfl

theorem read_eq_foldl (flags : Flags) (words : List Text) :
    read flags words = (settings words).foldl Setting.apply flags := by
  fun_induction settings words generalizing flags with
  | case1 => rfl
  | case2 word setting hvalued => exact read_waiting hvalued flags
  | case3 word setting hvalued value words ih => rw [read_valued hvalued, ih, List.foldl_cons]
  | case4 word words hvalued ih => rw [read_alone hvalued, ih, List.foldl_append]

theorem ofWords_eq_foldl (words : List Text) :
    ofWords words = (settings words).foldl Setting.apply unset := read_eq_foldl unset words

theorem source_ofWords (words : List Text) :
    (ofWords words).source =
      ((Setting.lastSourceName? (settings words)).map Source.ofFlagName?).getD none := by
  rw [ofWords_eq_foldl, Setting.foldl_apply]
  rfl

theorem ofWords_append (h : waits front = false) (back : List Text) :
    ofWords (front ++ back) = (settings back).foldl Setting.apply (ofWords front) := by
  rw [ofWords_eq_foldl, settings_append h, List.foldl_append, ← ofWords_eq_foldl]

/-!
# One list and two layers
-/

theorem source_ofWords_append (h : waits front = false) (back : List Text) :
    (ofWords (front ++ back)).source =
      ((Setting.lastSourceName? (settings back)).map Source.ofFlagName?).getD
        (ofWords front).source := by
  rw [ofWords_append h, Setting.foldl_apply]

theorem ofWords_append_eq (h : waits front = false) (back : List Text) :
    ofWords (front ++ back) =
      { (ofWords front).union (ofWords back) with
        source := (ofWords (front ++ back)).source } := by
  rw [source_ofWords_append h, ofWords_append h, ofWords_eq_foldl back, Setting.foldl_apply,
    Setting.foldl_apply]
  simp only [union, unset, Bool.false_or, Option.or_none]

theorem ofWords_append_eq_union_iff (h : waits front = false) (back : List Text) :
    ofWords (front ++ back) = (ofWords front).union (ofWords back) ↔
      (ofWords (front ++ back)).source = (ofWords back).source.or (ofWords front).source := by
  constructor
  · intro hsame
    rw [hsame]
    rfl
  · intro hsource
    rw [ofWords_append_eq h, hsource]
    rfl

/--
Words in one list come to what they come to in two layers, when the first of them do not
end on a flag that waits for its value, but for the source.  It is the one that the later
words name last, be it a source or not, and if they name none it is that of the words in
front.  So the flags are others than in layers just when the last name in the later words
is no source and the words in front have chosen one, which is then lost.
-/
theorem layers_come_to_same_unless_source_unknown (h : waits front = false) :
    let whole := ofWords (front ++ back)
    let layered := (ofWords front).union (ofWords back)
    whole = { layered with source := whole.source } ∧
      (∀ name, Setting.lastSourceName? (settings back) = some name ->
        whole.source = Source.ofFlagName? name) ∧
      (Setting.lastSourceName? (settings back) = none ->
        whole.source = (ofWords front).source) ∧
      (whole ≠ layered ↔
        (ofWords front).source ≠ none ∧
          ∃ name, Setting.lastSourceName? (settings back) = some name ∧
            Source.ofFlagName? name = none) := by
  intro whole layered
  have hsource : whole.source = _ := source_ofWords_append h back
  refine ⟨ofWords_append_eq h back, ?_, ?_, ?_⟩
  · intro name hname
    rw [hsource, hname]
    rfl
  · intro hnone
    rw [hsource, hnone]
    rfl
  · rw [Ne, ofWords_append_eq_union_iff h, source_ofWords_append h, source_ofWords back]
    cases Setting.lastSourceName? (settings back) with
    | none => simp
    | some name =>
        cases hname : Source.ofFlagName? name with
        | none => simp [hname, eq_comm]
        | some source => simp [hname]

theorem layers_come_to_same_unless_source_unknown_again :
    let front := ["--log-file".toList, "--source".toList, "--source=editable".toList]
    let back := ["--source".toList, "clipboard".toList, "--json".toList, "--log-file".toList]
    waits front = false ∧
      ofWords (front ++ back) =
        { unset with
          json := true, source := some .clipboard, logFile := some "--source".toList } ∧
      ofWords (front ++ back) = (ofWords front).union (ofWords back) := by
  intro front back
  have hfront : waits front = false := by decide
  refine ⟨hfront, by decide +kernel, ?_⟩
  rcases layers_come_to_same_unless_source_unknown hfront with ⟨_, _, _, hother⟩
  apply Classical.byContradiction
  intro hdifferent
  rcases (hother.mp hdifferent).2 with ⟨name, hname, hunknown⟩
  have hlast : Setting.lastSourceName? (settings back) = some "clipboard".toList := by
    decide +kernel
  rw [hlast] at hname
  cases hname
  exact absurd hunknown (by decide)

/-- An unknown source takes back the choice in front of it in one list, but not in a layer. -/
theorem unknown_source_takes_choice_back :
    let front := ["--source".toList, "editable".toList]
    let back := ["--source".toList, "fax".toList]
    waits front = false ∧
      (ofWords front).source = some .editable ∧
      ofWords (front ++ back) = unset ∧
      (ofWords front).union (ofWords back) = ofWords front := by
  decide +kernel

end Flags
end LinePalette
