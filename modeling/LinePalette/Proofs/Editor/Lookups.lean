import LinePalette.Proofs.Editor.Addresses
import LinePalette.Proofs.Editor.Commands
import LinePalette.Proofs.Editor.Ranges

/-!
# Looking up a pattern

A line of the form `/pattern/p` shows the nearest line with a match.  The search for the
command letter takes everything between the two slashes for the pattern, but an address is
cut at its commas before its slashes are looked at.  A pattern with a comma in it falls
apart into two sides of which neither is an address.
-/

namespace LinePalette

variable {body line : Text}

/-!
# Patterns as whole addresses
-/

namespace Address

theorem resolve_pattern (h : ',' ∉ body) (lines : List Text) (cursor : Nat) :
    resolve lines ('/' :: (body ++ ['/'])) cursor =
      (search body lines (lineNumber cursor) .around).map LineRange.single := by
  have hcomma : ',' ∉ '/' :: (body ++ ['/']) := by simp [h]
  rw [resolve_of_no_comma hcomma (List.cons_ne_nil _ _) nofun, resolveOne_pattern]

theorem resolve_pattern_comma (hslash : '/' ∉ body) (hcomma : ',' ∈ body) (lines : List Text)
    (cursor : Nat) :
    resolve lines ('/' :: (body ++ ['/'])) cursor = .error .invalidAddress := by
  rcases List.eq_append_cons_of_mem hcomma with ⟨front, rest, rfl, hfront⟩
  have htext : '/' :: (front ++ ',' :: rest ++ ['/']) =
      ('/' :: front) ++ ',' :: (rest ++ ['/']) := by
    simp
  have hleft : ',' ∉ '/' :: front := by simp [hfront]
  have hunended : '/' ∉ front := fun hmem => hslash (List.mem_append_left _ hmem)
  have hwhole : ('/' :: front) ++ ',' :: (rest ++ ['/']) ≠ [','] := nofun
  rcases twoSided_append hleft hwhole with ⟨right, hsides⟩
  rw [htext, resolve_of_twoSided hsides]
  exact resolvePair_of_left_error (resolveOne_unended hunended)

end Address

/-!
# One line shown
-/

theorem Buffer.between_self {buffer : Buffer} {index : Nat} (h : buffer[index]? = some line) :
    buffer.between index index = [line] := by
  rcases List.getElem?_eq_some_iff.mp h with ⟨hindex, rfl⟩
  unfold between
  rw [List.drop_eq_getElem_cons hindex, Nat.add_sub_cancel_left]
  rfl

namespace Editor

variable {editor : Editor} {pattern : Pattern} {index : Nat}

theorem print_line (hlines : editor.buffer.length ≤ maxLineNumber)
    (hline : editor.buffer[index]? = some line) :
    editor.print (LineRange.single (index + 1)) false =
      .ok (.output line, { editor with cursor := index }) := by
  have hindex : index < editor.buffer.length := (List.getElem?_eq_some_iff.mp hline).1
  have hbuffer : editor.buffer ≠ [] := List.length_pos_iff.mp (Nat.zero_lt_of_lt hindex)
  have hwithin : (LineRange.single (index + 1)).Within editor.buffer.length := by
    apply (LineRange.within_iff hlines).mpr
    refine ⟨?_, Int.le_refl _, ?_⟩
    · show (1 : Int) ≤ index + 1
      omega
    · show (index : Int) + 1 ≤ editor.buffer.length
      omega
  have hplace : ((index : Int) + 1 - 1).toNat = index := by
    rw [Int.add_sub_cancel, Int.toNat_natCast]
  have hends : (LineRange.single (index + 1)).indices editor.buffer.length =
      .ok (index, index) := by
    rw [LineRange.indices_of_within hwithin]
    show Except.ok (((index : Int) + 1 - 1).toNat, ((index : Int) + 1 - 1).toNat) = _
    rw [hplace]
  have hshown : editor.printed index index false = line := by
    show Text.join ['\n'] (editor.buffer.between index index) = line
    rw [Buffer.between_self hline]
    rfl
  rw [print_eq_onLines]
  unfold onLines
  rw [if_neg hbuffer, hends]
  show Except.ok (Outcome.output (editor.printed index index false), _) = _
  rw [hshown]

/-!
# Lines of the form `/pattern/p`
-/

variable (hslash : '/' ∉ body) (hmode : editor.mode = .command)

include hslash hmode

theorem process_pattern :
    editor.process ('/' :: (body ++ ['/', 'p'])) =
      editor.settle
        (Address.resolve editor.buffer ('/' :: (body ++ ['/'])) editor.cursor >>= fun range =>
          editor.print range false) := by
  exact process_parsed hmode (Command.parse?_trim_pattern hslash rfl rfl)

theorem process_pattern_search (hcomma : ',' ∉ body) :
    editor.process ('/' :: (body ++ ['/', 'p'])) =
      editor.settle
        (Address.search body editor.buffer (lineNumber editor.cursor) .around >>= fun number =>
          editor.print (LineRange.single number) false) := by
  rw [process_pattern hslash hmode, Address.resolve_pattern hcomma]
  cases Address.search body editor.buffer (lineNumber editor.cursor) .around with
  | error error => rfl
  | ok number => rfl

theorem process_pattern_comma (hcomma : ',' ∈ body) :
    editor.process ('/' :: (body ++ ['/', 'p'])) = editor.fail .invalidAddress := by
  rw [process_pattern hslash hmode, Address.resolve_pattern_comma hslash hcomma]
  rfl

omit hslash hmode

/--
A line `/pattern/p` whose pattern holds no comma shows the nearest line with a match and goes
there.  It fails when the pattern cannot be read or when no line has a match, and for that
reason.  With a comma in the pattern the line is refused as it stands, whether or not the
pattern can be read and whatever the lines are.
-/
theorem pattern_without_comma_is_looked_up (hreachable : editor.Reachable)
    (hmode : editor.mode = .command) (hlines : editor.buffer.length ≤ maxLineNumber)
    (hslash : '/' ∉ body) :
    let line := '/' :: (body ++ ['/', 'p'])
    (',' ∉ body ->
      (∀ error, Pattern.compile body = .error error ->
        editor.process line = editor.fail .invalidAddressRegex) ∧
      ∀ pattern, Pattern.compile body = .ok pattern ->
        ((∀ text ∈ editor.buffer, pattern.isMatch text = false) ->
          editor.process line = editor.fail .noMatch) ∧
        ((∃ text ∈ editor.buffer, pattern.isMatch text = true) ->
          ∃ index text,
            pattern.NearestLine editor.buffer editor.cursor index ∧
            editor.buffer[index]? = some text ∧
            editor.process line = (.output text, { editor with cursor := index }))) ∧
    (',' ∈ body -> editor.process line = editor.fail .invalidAddress) := by
  intro line
  have hcursor := hreachable.sound.cursor_le
  have hnumber : lineNumber editor.cursor = editor.cursor := lineNumber_of_le (by omega)
  constructor
  · intro hcomma
    have hprocess : editor.process line = _ := process_pattern_search hslash hmode hcomma
    rw [hnumber] at hprocess
    constructor
    · intro error herror
      have hsearch : Address.search body editor.buffer editor.cursor .around =
          .error .invalidAddressRegex := by
        unfold Address.search
        rw [herror]
      rw [hprocess, hsearch]
      rfl
    · intro pattern hpattern
      constructor
      · intro hnone
        have hsearch := (Address.searchLine_around_eq_error_iff hcursor).mpr hnone
        rw [hprocess, Address.search_of_compile hpattern, hsearch]
        rfl
      · intro hmatch
        rcases Address.exists_nearestLine hcursor hmatch with ⟨index, hnearest⟩
        rcases hnearest.matchesLine with ⟨text, htext, _⟩
        have hsearch : Address.search body editor.buffer editor.cursor .around =
            .ok (index + 1) :=
          (Address.search_around_eq_ok_iff hpattern hlines hcursor).mpr ⟨index, hnearest, rfl⟩
        refine ⟨index, text, hnearest, htext, ?_⟩
        rw [hprocess, hsearch]
        show editor.settle (editor.print (LineRange.single (index + 1)) false) = _
        rw [print_line hlines htext]
        rfl
  · intro hcomma
    exact process_pattern_comma hslash hmode hcomma

theorem pattern_without_comma_is_looked_up_around :
    let editor := start [['a'], ['b']] Options.default
    (editor.Reachable ∧ editor.mode = .command ∧ editor.buffer.length ≤ maxLineNumber ∧
        '/' ∉ "[a.]".toList) ∧
      editor.process "/[a.]/p".toList = (.output ['a'], { editor with cursor := 0 }) ∧
      editor.process "/[a,]/p".toList = editor.fail .invalidAddress := by
  intro editor
  have hreachable : editor.Reachable := Reachable.start [['a'], ['b']] Options.default
  have hlines : editor.buffer.length ≤ maxLineNumber := by decide
  have hmatches : (Pattern.compile "[a.]".toList).toOption.map
      (fun pattern => editor.buffer.map pattern.isMatch) = some [true, false] := by
    decide +kernel
  rcases Pattern.exists_of_isMatch_eq hmatches with ⟨pattern, hpattern, hline⟩
  have hplain : '/' ∉ "[a.]".toList := by decide
  have hdivided : '/' ∉ "[a,]".toList := by decide
  refine ⟨⟨hreachable, rfl, hlines, hplain⟩, ?_, ?_⟩
  · rcases pattern_without_comma_is_looked_up hreachable rfl hlines hplain with ⟨hlooked, _⟩
    rcases (hline 0).mpr rfl with ⟨text, htext, hmatch⟩
    have hfirst : ∃ text ∈ editor.buffer, pattern.isMatch text = true :=
      ⟨text, List.mem_of_getElem? htext, hmatch⟩
    rcases ((hlooked (by decide)).right pattern hpattern).right hfirst with
      ⟨index, text, hnearest, htext, hprocess⟩
    have hindex : index = 0 := by
      have hmatch := (hline index).mp hnearest.matchesLine
      match index with
      | 0 => rfl
      | 1 => cases hmatch
      | _ + 2 => cases hmatch
    rw [hindex] at htext hprocess
    cases htext
    exact hprocess
  · rcases pattern_without_comma_is_looked_up hreachable rfl hlines hdivided with ⟨_, hrefused⟩
    exact hrefused (by decide)

/-- The pattern can be read and has a match in a line, but as an address it is refused. -/
theorem pattern_with_comma_not_looked_up :
    let editor := start [['a', 'a'], ['b']] Options.default
    let body : Text := ['a', '{', '1', ',', '2', '}']
    let line := '/' :: (body ++ ['/', 'p'])
    (editor.Reachable ∧ editor.mode = .command ∧ '/' ∉ body) ∧
      (Pattern.compile body).toOption.map (fun pattern => editor.buffer.map pattern.isMatch) =
        some [true, false] ∧
      editor.process line = editor.fail .invalidAddress ∧
      editor.process line ≠ (.output ['a', 'a'], { editor with cursor := 0 }) := by
  refine ⟨⟨Reachable.start _ _, rfl, by decide⟩, by decide +kernel, rfl, ?_⟩
  intro hshown
  cases hshown

end Editor
end LinePalette
