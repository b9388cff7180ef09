import LinePalette.Pattern.Template
import LinePalette.Proofs.Pattern.Matches

/-!
# Rewriting

What a replacement keeps of a line.  The matches cut the line up into the texts that
stand before them, the matches themselves and what is left; a replacement puts the
same pieces together again, with something else in place of the matches.
-/

namespace LinePalette

theorem Text.slice_append_drop {start stop : Nat} (text : Text) (h : start ≤ stop) :
    slice start stop text ++ text.drop stop = text.drop start := by
  have hdrop : text.drop stop = (text.drop start).drop (stop - start) := by
    rw [List.drop_drop, Nat.add_sub_cancel' h]
  rw [hdrop]
  exact List.take_append_drop _ _

namespace Template

variable {line : Text} {position : Nat} {found : List Match} {pieces : List (Text × Match)}
  {rest : Text}

/-!
# Divided lines
-/

/--
The line from a position on, divided by matches: each piece is the text up to a match
with that match, and the rest is what follows the last of them.
-/
inductive Divided (line : Text) : Nat -> List (Text × Match) -> Text -> Prop where
  | rest {position : Nat} : Divided line position [] (line.drop position)
  | piece {position : Nat} {kept : Text} {one : Match} {pieces : List (Text × Match)}
      {rest : Text} :
      line.drop position = kept ++ one.whole.of line ++ line.drop one.whole.stop ->
      position + kept.length = one.whole.start ->
      Divided line one.whole.stop pieces rest ->
      Divided line position ((kept, one) :: pieces) rest

/-- The pieces one after another with a text in place of each match, and then the rest. -/
def assemble (fill : Match -> Text) (pieces : List (Text × Match)) (rest : Text) : Text :=
  pieces.flatMap (fun piece => piece.1 ++ fill piece.2) ++ rest

theorem assemble_cons (fill : Match -> Text) (kept : Text) (one : Match)
    (pieces : List (Text × Match)) (rest : Text) :
    assemble fill ((kept, one) :: pieces) rest = kept ++ fill one ++ assemble fill pieces rest := by
  unfold assemble
  rw [List.flatMap_cons, List.append_assoc]

theorem Divided.assemble_whole (h : Divided line position pieces rest) :
    assemble (fun one => one.whole.of line) pieces rest = line.drop position := by
  induction h with
  | rest => rfl
  | piece hpiece _ _ ih => rw [assemble_cons, ih, hpiece]

/-- Matches in order divide the line, and splicing assembles the pieces. -/
theorem divided_of_ordered (hwithin : ∀ one ∈ found, one.Within position line.length)
    (hordered : found.Pairwise fun earlier later => earlier.whole.stop ≤ later.whole.start) :
    ∃ pieces rest,
      Divided line position pieces rest ∧
      pieces.map Prod.snd = found ∧
      ∀ fill, splice line fill position found = assemble fill pieces rest := by
  induction found generalizing position with
  | nil => exact ⟨[], line.drop position, .rest, rfl, fun _ => rfl⟩
  | cons one later ih =>
      rcases List.forall_mem_cons.mp hwithin with ⟨hone, hlater⟩
      rcases List.pairwise_cons.mp hordered with ⟨hbehind, hordered⟩
      rcases ih (fun other hmem => ⟨hbehind other hmem, (hlater other hmem).stop_le_high,
        (hlater other hmem).groups⟩) hordered with ⟨pieces, rest, hdivided, hmatches, hsplice⟩
      refine ⟨(Text.slice position one.whole.start line, one) :: pieces, rest, ?_, ?_, ?_⟩
      · apply Divided.piece
        · rw [List.append_assoc, Span.of, Text.slice_append_drop line one.whole.start_le_stop,
            Text.slice_append_drop line hone.low_le_start]
        · have horder := one.whole.start_le_stop
          have hlow := hone.low_le_start
          have hhigh := hone.stop_le_high
          rw [Text.slice, List.length_take, List.length_drop]
          omega
        · exact hdivided
      · rw [List.map_cons, hmatches]
      · intro fill
        rw [splice, hsplice, assemble_cons]

end Template

/-!
# Replacements
-/

namespace Pattern

variable {pattern : Pattern} {line template : Text}

theorem replace_divided (pattern : Pattern) (line : Text) (everywhere : Bool) :
    ∃ pieces rest,
      Template.Divided line 0 pieces rest ∧
      pieces.map Prod.snd =
        (if everywhere then pattern.matchesIn line else (pattern.matchesIn line).take 1) ∧
      ∀ template,
        pattern.replace line template everywhere =
          Template.assemble (Template.expand template line) pieces rest := by
  rcases matchesIn_ordered pattern line with ⟨hwithin, hordered⟩
  have hsub : (if everywhere then pattern.matchesIn line else (pattern.matchesIn line).take 1)
      |>.Sublist (pattern.matchesIn line) := by
    split
    · exact List.Sublist.refl _
    · exact List.take_sublist _ _
  rcases Template.divided_of_ordered (fun one hmem => hwithin one (hsub.subset hmem))
    ((hordered.imp And.left).sublist hsub) with ⟨pieces, rest, hdivided, hmatches, hsplice⟩
  exact ⟨pieces, rest, hdivided, hmatches, fun template => hsplice _⟩

theorem replace_of_no_match {everywhere : Bool} (h : pattern.isMatch line = false) :
    pattern.replace line template everywhere = line := by
  unfold replace
  rw [matchesIn_eq_nil_iff.mpr h]
  cases everywhere with
  | true => rfl
  | false => rfl

theorem replace_first {first : Match} {later : List Match}
    (h : pattern.matchesIn line = first :: later) :
    pattern.replace line template false =
      line.take first.whole.start ++ Template.expand template line first ++
        line.drop first.whole.stop := by
  unfold replace
  rw [h]
  rfl

def itself : Text := ['$', '&']

theorem expand_itself (line : Text) (found : Match) :
    Template.expand itself line found = found.whole.of line :=
  List.append_nil _

theorem replace_itself (pattern : Pattern) (line : Text) (everywhere : Bool) :
    pattern.replace line itself everywhere = line := by
  rcases replace_divided pattern line everywhere with ⟨pieces, rest, hdivided, _, hreplace⟩
  rw [hreplace, funext (expand_itself line)]
  exact hdivided.assemble_whole

end Pattern
end LinePalette
