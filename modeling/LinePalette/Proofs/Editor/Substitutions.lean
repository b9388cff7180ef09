import LinePalette.Proofs.Editor.Alteration
import LinePalette.Proofs.Editor.Commands
import LinePalette.Proofs.Editor.Effects
import LinePalette.Proofs.Editor.Ranges
import LinePalette.Proofs.Pattern.Rewriting
import LinePalette.Proofs.Text.Splitting

/-!
# Substitutions

A substitution rewrites each line of its range from the line as it was.  What counts is
whether a line becomes different: a line that matches and is rewritten to itself is as
good as one that does not match.
-/

namespace LinePalette

def Substitution.rewrite (substitution : Substitution) (pattern : Pattern) (line : Text) : Text :=
  pattern.replace line substitution.template substitution.everywhere

/-- The range names the line there, and the line is not what it is rewritten to. -/
def LineRange.Rewrites (range : LineRange) (rewrite : Text -> Text) (buffer : Buffer)
    (index : Nat) : Prop :=
  range.Selects index ∧ ∃ line, buffer[index]? = some line ∧ rewrite line ≠ line

def Buffer.rewritten (buffer : Buffer) (range : LineRange) (rewrite : Text -> Text) : Buffer :=
  buffer.mapIdx fun index line => if range.Selects index then rewrite line else line

variable {range : LineRange} {rewrite : Text -> Text} {buffer altered : Buffer} {length : Nat}

/-!
# Ranges

Lines from the first to the last, counted from zero, are those that the range names.
-/

theorem LineRange.Within.selects_iff {index : Nat} (h : range.Within length) :
    (range.start - 1).toNat ≤ index ∧ index ≤ (range.stop - 1).toNat ↔ range.Selects index := by
  rcases h with ⟨hstart, horder, hstop⟩
  unfold Selects
  omega

theorem LineRange.Within.differs_iff {index : Nat} (h : range.Within length) :
    Buffer.Differs rewrite (range.start - 1).toNat (range.stop - 1).toNat 0 buffer index ↔
      range.Rewrites rewrite buffer index := by
  unfold Buffer.Differs Rewrites
  rw [Nat.zero_add, h.selects_iff]

theorem Buffer.alterLines_eq_rewritten {changed : Option (Nat × Text)} (h : range.Within length)
    (halter : buffer.alterLines rewrite (range.start - 1).toNat (range.stop - 1).toNat =
      (altered, changed)) : altered = buffer.rewritten range rewrite := by
  apply List.ext_getElem?
  intro index
  have hline : (buffer.alterLines rewrite (range.start - 1).toNat
      (range.stop - 1).toNat).1[index]? = _ := getElem?_alterFrom buffer 0 index
  rw [halter, Nat.zero_add] at hline
  unfold rewritten
  rw [hline, List.getElem?_mapIdx]
  simp only [h.selects_iff]

namespace Editor

variable {editor : Editor} {line tail : Text} {command : Command} {substitution : Substitution}
  {pattern : Pattern}

/-!
# Carrying substitutions out
-/

theorem substituted_cases (editor : Editor) (substitution : Substitution) (pattern : Pattern)
    (hwithin : range.Within editor.buffer.length) :
    let rewrite := substitution.rewrite pattern
    let result :=
      editor.substituted substitution pattern (range.start - 1).toNat (range.stop - 1).toNat
    (∃ last old,
        range.Rewrites rewrite editor.buffer last ∧
        (∀ index, range.Rewrites rewrite editor.buffer index -> index ≤ last) ∧
        editor.buffer[last]? = some old ∧
        result = (editor.buffer.rewritten range rewrite, some (last, rewrite old))) ∨
      (∀ index, ¬range.Rewrites rewrite editor.buffer index) ∧ result = (editor.buffer, none) := by
  intro rewrite result
  cases hresult : result with
  | mk altered changed =>
      cases changed with
      | none =>
          right
          constructor
          · intro index hrewrites
            exact Buffer.reported_none (congrArg Prod.snd hresult) index
              (hwithin.differs_iff.mpr hrewrites)
          · rw [Buffer.alterFrom_unchanged hresult]
      | some found =>
          rcases found with ⟨last, shown⟩
          left
          rcases Buffer.reported_some (congrArg Prod.snd hresult) with
            ⟨offset, hoffset, hdiffers, hlast, hshown⟩
          rw [Nat.zero_add] at hoffset
          rw [← hoffset] at hdiffers hlast hshown
          rcases Option.map_eq_some_iff.mp hshown with ⟨old, hold, hshown⟩
          refine ⟨last, old, hwithin.differs_iff.mp hdiffers, ?_, hold, ?_⟩
          · intro index hrewrites
            apply Nat.le_of_not_lt
            intro hbehind
            exact hlast index hbehind (hwithin.differs_iff.mpr hrewrites)
          · rw [Buffer.alterLines_eq_rewritten hwithin hresult, ← hshown]
            rfl

theorem substitute_eq (editor : Editor) (hwithin : range.Within editor.buffer.length)
    (hsubstitution : Substitution.parse tail = .ok substitution)
    (hpattern : Pattern.compile substitution.pattern = .ok pattern)
    {changed : Option (Nat × Text)}
    (h : editor.substituted substitution pattern (range.start - 1).toNat
      (range.stop - 1).toNat = (altered, changed)) :
    editor.substitute range tail =
      changed.elim (.error .noMatch) fun found =>
        .ok (.output found.2, { editor with buffer := altered, cursor := found.1 }) := by
  have halter : editor.buffer.alterLines (fun line =>
      pattern.replace line substitution.template substitution.everywhere)
      (range.start - 1).toNat (range.stop - 1).toNat = (altered, changed) := h
  unfold substitute
  rw [hsubstitution]
  simp only [bind, Except.bind]
  rw [if_neg (buffer_ne_nil_of_within hwithin), hpattern]
  simp only
  rw [LineRange.indices_of_within hwithin]
  simp only
  rw [halter]
  cases changed with
  | none => rfl
  | some found => rfl

/-- A substitution on lines that are there, wherever the cursor is. -/
theorem substitute_cases (hwithin : range.Within editor.buffer.length)
    (hsubstitution : Substitution.parse tail = .ok substitution)
    (hpattern : Pattern.compile substitution.pattern = .ok pattern) :
    let rewrite := substitution.rewrite pattern
    (∃ last old,
        range.Rewrites rewrite editor.buffer last ∧
        (∀ index, range.Rewrites rewrite editor.buffer index -> index ≤ last) ∧
        editor.buffer[last]? = some old ∧
        ∀ cursor,
          substitute { editor with cursor := cursor } range tail =
            .ok (.output (rewrite old),
              { editor with
                buffer := editor.buffer.rewritten range rewrite, cursor := last })) ∨
      (∀ index, ¬range.Rewrites rewrite editor.buffer index) ∧
        ∀ cursor,
          substitute { editor with cursor := cursor } range tail = .error .noMatch := by
  intro rewrite
  rcases substituted_cases editor substitution pattern hwithin with
    ⟨last, old, hrewrites, hlast, hold, hresult⟩ | ⟨hnone, hresult⟩
  · left
    refine ⟨last, old, hrewrites, hlast, hold, ?_⟩
    intro cursor
    exact substitute_eq { editor with cursor := cursor } hwithin hsubstitution hpattern hresult
  · right
    refine ⟨hnone, ?_⟩
    intro cursor
    exact substitute_eq { editor with cursor := cursor } hwithin hsubstitution hpattern hresult

theorem process_substitute (hmode : editor.mode = .command)
    (hparse : Command.parse? (Text.trim line) = some command) (hletter : command.letter = 's')
    (hrange : Address.resolve editor.buffer command.address editor.cursor = .ok range) :
    editor.process line = editor.settle (editor.substitute range command.tail) := by
  rw [process_command hmode hparse hrange, hletter]
  rfl

/--
A substitution rewrites the lines that its range names, each from the text that it had,
and no others.  The cursor goes to the last of the lines that become different, which is
shown.  When none of them does, the lines are as before and the substitution fails, even
if there are matches.  Where the cursor was matters only for the range.
-/
theorem substitution_rewrites_its_range (hmode : editor.mode = .command)
    (hparse : Command.parse? (Text.trim line) = some command) (hletter : command.letter = 's')
    (hwithin : range.Within editor.buffer.length)
    (hsubstitution : Substitution.parse command.tail = .ok substitution)
    (hpattern : Pattern.compile substitution.pattern = .ok pattern) :
    let rewrite := fun text =>
      pattern.replace text substitution.template substitution.everywhere
    ((∃ index, range.Rewrites rewrite editor.buffer index) ->
      ∃ last old,
        range.Rewrites rewrite editor.buffer last ∧
        (∀ index, range.Rewrites rewrite editor.buffer index -> index ≤ last) ∧
        editor.buffer[last]? = some old ∧
        ∀ cursor,
          Address.resolve editor.buffer command.address cursor = .ok range ->
          process { editor with cursor := cursor } line =
            (.output (rewrite old),
              { editor with
                buffer := editor.buffer.rewritten range rewrite, cursor := last })) ∧
    ((∀ index, ¬range.Rewrites rewrite editor.buffer index) ->
      ∀ cursor,
        Address.resolve editor.buffer command.address cursor = .ok range ->
        process { editor with cursor := cursor } line =
          fail { editor with cursor := cursor } .noMatch) := by
  intro rewrite
  have hprocess : ∀ cursor,
      Address.resolve editor.buffer command.address cursor = .ok range ->
      process { editor with cursor := cursor } line =
        settle { editor with cursor := cursor }
          (substitute { editor with cursor := cursor } range command.tail) := by
    intro cursor hrange
    exact process_substitute hmode hparse hletter hrange
  rcases substitute_cases hwithin hsubstitution hpattern with
    ⟨last, old, hrewrites, hlast, hold, hresult⟩ | ⟨hnone, hresult⟩
  · constructor
    · intro _
      refine ⟨last, old, hrewrites, hlast, hold, ?_⟩
      intro cursor hrange
      rw [hprocess cursor hrange, hresult]
      rfl
    · intro hnone
      exact absurd hrewrites (hnone last)
  · constructor
    · rintro ⟨index, hrewrites⟩
      exact absurd hrewrites (hnone index)
    · intro _ cursor hrange
      rw [hprocess cursor hrange, hresult]
      rfl

theorem substitution_rewrites_its_range_first :
    let editor := start [['a', 'a'], ['b']] Options.default
    let line := "1,2s/a/c/".toList
    Command.parse? (Text.trim line) =
        some { address := "1,2".toList, letter := 's', tail := "/a/c/".toList } ∧
      Address.resolve editor.buffer "1,2".toList editor.cursor =
        .ok { start := 1, stop := 2 } ∧
      editor.process line =
        (.output ['c', 'a'], { editor with buffer := [['c', 'a'], ['b']], cursor := 0 }) := by
  intro editor line
  have hparse : Command.parse? (Text.trim line) =
      some { address := "1,2".toList, letter := 's', tail := "/a/c/".toList } := by decide
  have hrange : Address.resolve editor.buffer "1,2".toList editor.cursor =
      .ok { start := 1, stop := 2 } := rfl
  have hpattern : ∃ pattern, Pattern.compile ['a'] = .ok pattern := ⟨_, rfl⟩
  have hfirst : (Pattern.compile ['a']).toOption.map (fun pattern =>
      pattern.replace ['a', 'a'] ['c'] false) = some ['c', 'a'] := by decide +kernel
  have hsecond : (Pattern.compile ['a']).toOption.map (fun pattern =>
      pattern.replace ['b'] ['c'] false) = some ['b'] := by decide +kernel
  rcases hpattern with ⟨pattern, hpattern⟩
  rw [hpattern] at hfirst hsecond
  have hfirst : pattern.replace ['a', 'a'] ['c'] false = ['c', 'a'] := Option.some.inj hfirst
  have hsecond : pattern.replace ['b'] ['c'] false = ['b'] := Option.some.inj hsecond
  have hsubstitution : Substitution.parse "/a/c/".toList =
      .ok { pattern := ['a'], template := ['c'], everywhere := false } := rfl
  have hmode : editor.mode = .command := rfl
  have hwithin : LineRange.Within { start := 1, stop := 2 } editor.buffer.length :=
    (LineRange.within_iff (by decide)).mpr (by decide)
  rcases substitution_rewrites_its_range hmode hparse rfl hwithin hsubstitution hpattern with
    ⟨hchanged, _⟩
  have hdiffers : pattern.replace ['a', 'a'] ['c'] false ≠ ['a', 'a'] := by
    rw [hfirst]
    decide
  rcases hchanged ⟨0, by decide, ['a', 'a'], rfl, hdiffers⟩ with
    ⟨last, old, ⟨hselects, hrewrites⟩, _, hold, hresult⟩
  have hlast : last = 0 := by
    have hstop : (last : Int) + 1 ≤ 2 := hselects.right
    match last with
    | 0 => rfl
    | 1 =>
        rcases hrewrites with ⟨text, htext, hdiffers⟩
        cases htext
        exact absurd hsecond hdiffers
    | _ + 2 => omega
  rw [hlast] at hold hresult
  cases hold
  have hbuffer : editor.buffer.rewritten { start := 1, stop := 2 }
      (fun text => pattern.replace text ['c'] false) = [['c', 'a'], ['b']] := by
    show [pattern.replace ['a', 'a'] ['c'] false, pattern.replace ['b'] ['c'] false] = _
    rw [hfirst, hsecond]
  have hprocess := hresult editor.cursor hrange
  simp only [hbuffer, hfirst] at hprocess
  exact ⟨hparse, hrange, hprocess⟩

/-!
# Matches in their own place
-/

theorem process_substitute_itself {source flags : Text}
    (hpattern : Pattern.compile source = .ok pattern) (hsource : '/' ∉ source)
    (hflags : flags = [] ∨ flags = ['g']) (hmode : editor.mode = .command)
    (hparse : Command.parse? (Text.trim line) = some command) (hletter : command.letter = 's')
    (htail : command.tail = '/' :: source ++ '/' :: Pattern.itself ++ '/' :: flags)
    (hrange : Address.resolve editor.buffer command.address editor.cursor = .ok range)
    (hwithin : range.Within editor.buffer.length) :
    editor.process line = editor.fail .noMatch := by
  have htemplate : '/' ∉ Pattern.itself := by decide
  have hsubstitution := Substitution.parse_slashed hsource htemplate hflags
  rw [process_substitute hmode hparse hletter hrange, htail]
  rcases substitute_cases hwithin hsubstitution hpattern with
    ⟨last, old, ⟨_, text, _, hdiffers⟩, _⟩ | ⟨_, hresult⟩
  · exact absurd (Pattern.replace_itself pattern text _) hdiffers
  · rw [hresult editor.cursor]
    rfl

/--
A replacement puts the expansions of its template where matches were and keeps all other
text in its order.  The matches are those found one behind the other, and each expansion
is made from the line as it was.  Without the flag for all matches only the first is
replaced, and a line without a match stays as it is.  Replacing matches by themselves
changes no line, so that a substitution that does so finds nothing to do.
-/
theorem replacements_keep_what_is_not_matched {source : Text}
    (hpattern : Pattern.compile source = .ok pattern) :
    (∀ text,
      let found := pattern.matchesIn text
      pattern.Successive text 0 false found ∧
        (∀ one ∈ found, one.Within 0 text.length) ∧
        found.Pairwise fun earlier later =>
          earlier.whole.stop ≤ later.whole.start ∧ earlier.whole.stop < later.whole.stop) ∧
    (∀ text everywhere,
      ∃ pieces rest,
        pieces.map Prod.snd =
          (if everywhere then pattern.matchesIn text else (pattern.matchesIn text).take 1) ∧
        Template.Divided text 0 pieces rest ∧
        text = Template.assemble (fun one => one.whole.of text) pieces rest ∧
        ∀ template,
          pattern.replace text template everywhere =
            Template.assemble (Template.expand template text) pieces rest) ∧
    (∀ text template first later,
      pattern.matchesIn text = first :: later ->
      pattern.replace text template false =
        text.take first.whole.start ++ Template.expand template text first ++
          text.drop first.whole.stop) ∧
    (∀ text template everywhere,
      pattern.isMatch text = false -> pattern.replace text template everywhere = text) ∧
    (∀ text everywhere, pattern.replace text ['$', '&'] everywhere = text) ∧
    (∀ (editor : Editor) line command range flags,
      '/' ∉ source ->
      flags = [] ∨ flags = ['g'] ->
      editor.mode = .command ->
      Command.parse? (Text.trim line) = some command ->
      command.letter = 's' ->
      command.tail = '/' :: source ++ '/' :: ['$', '&'] ++ '/' :: flags ->
      Address.resolve editor.buffer command.address editor.cursor = .ok range ->
      range.Within editor.buffer.length ->
      editor.process line = editor.fail .noMatch) := by
  refine ⟨?_, ?_, ?_, ?_, ?_, ?_⟩
  · intro text found
    exact ⟨Pattern.matchesIn_successive pattern text, Pattern.matchesIn_ordered pattern text⟩
  · intro text everywhere
    rcases Pattern.replace_divided pattern text everywhere with
      ⟨pieces, rest, hdivided, hmatches, hreplace⟩
    exact ⟨pieces, rest, hmatches, hdivided, hdivided.assemble_whole.symm, hreplace⟩
  · intro text template first later hfound
    exact Pattern.replace_first hfound
  · intro text template everywhere hnone
    exact Pattern.replace_of_no_match hnone
  · intro text everywhere
    exact Pattern.replace_itself pattern text everywhere
  · intro editor line command range flags hsource hflags hmode hparse hletter htail hrange hwithin
    exact process_substitute_itself hpattern hsource hflags hmode hparse hletter htail hrange
      hwithin

theorem replacements_keep_what_is_not_matched_letters :
    let editor := start [['b', 'a']] Options.default
    let line := "1s/a*/$&/g".toList
    ∃ pattern,
      Pattern.compile ['a', '*'] = .ok pattern ∧
        pattern.replace ['b', 'a'] ['$', '&'] true = ['b', 'a'] ∧
        editor.process line = editor.fail .noMatch := by
  intro editor line
  have hcompiles : ∃ pattern, Pattern.compile ['a', '*'] = .ok pattern := ⟨_, rfl⟩
  have hparse : Command.parse? (Text.trim line) =
      some { address := ['1'], letter := 's', tail := "/a*/$&/g".toList } := by decide
  have hrange : Address.resolve editor.buffer ['1'] editor.cursor =
      .ok { start := 1, stop := 1 } := rfl
  have hwithin : LineRange.Within { start := 1, stop := 1 } editor.buffer.length :=
    (LineRange.within_iff (by decide)).mpr (by decide)
  rcases hcompiles with ⟨pattern, hpattern⟩
  rcases replacements_keep_what_is_not_matched hpattern with ⟨_, _, _, _, hitself, hnothing⟩
  exact ⟨pattern, hpattern, hitself _ true,
    hnothing editor line _ _ ['g'] (by decide) (Or.inr rfl) rfl hparse rfl rfl hrange hwithin⟩

end Editor
end LinePalette
