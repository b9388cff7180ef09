import LinePalette.Palette.Session
import LinePalette.Proofs.Palette.Messages
import LinePalette.Proofs.Text.Encoding
import LinePalette.Proofs.Text.Splitting

/-!
# Outcomes on the wire

An outcome is read back from its compact text, so the outcomes that have been
printed, each on a line of its own, are found again in the bytes of the output.
-/

namespace LinePalette
namespace Outcome

/-!
# Shapes

Two names tell the five shapes apart.  Several shapes share the name of their first
member, and then the second member decides.
-/

def inputStatus : Text := "input".toList

def ofText? (name text : Text) : Option Outcome :=
  if name = "output".toList then some (output text)
  else if name = "error".toList then some (error text)
  else if name = "status".toList ∧ text = inputStatus then some input
  else none

def ofJson? : Json -> Option Outcome
  | .object [(name, .string text)] => ofText? name text
  | .object [(name, .string text), (second, .string status)] =>
      if name = "output".toList ∧ text = [] ∧ second = "status".toList ∧ status = inputStatus then
        some more
      else
        none
  | .object [(name, .string text), (second, .array items)] =>
      if name = "output".toList ∧ second = "buffer".toList then
        (textsOfJson? (.array items)).map (saved text)
      else
        none
  | _ => none

theorem ofJson?_toJson (outcome : Outcome) : ofJson? outcome.toJson = some outcome := by
  cases outcome with
  | output text => rfl
  | error text => rfl
  | input => rfl
  | more => rfl
  | saved text buffer =>
      show (textsOfJson? (Json.ofTexts buffer)).map (saved text) = _
      rw [textsOfJson?_ofTexts]
      rfl

theorem literals_toJson (outcome : Outcome) : outcome.toJson.literals = [] := by
  cases outcome with
  | output text => rfl
  | error text => rfl
  | input => rfl
  | more => rfl
  | saved text buffer =>
      show (Json.ofTexts buffer).literals ++ [] = []
      rw [Json.literals_ofTexts, List.append_nil]

theorem nesting_toJson (outcome : Outcome) : outcome.toJson.nesting ≤ 2 := by
  cases outcome with
  | output text => exact Nat.le_succ 1
  | error text => exact Nat.le_succ 1
  | input => exact Nat.le_succ 1
  | more => exact Nat.le_succ 1
  | saved text buffer =>
      show max 0 (max (Json.ofTexts buffer).nesting 0) + 1 ≤ 2
      rw [Json.nesting_ofTexts]
      exact Nat.le_refl 2

theorem ofJson?_eq_none {name : Text} (h : ∀ text, ofText? name text = none) (value : Json)
    (members : List (Text × Json)) : ofJson? (.object ((name, value) :: members)) = none := by
  have houtput : name ≠ "output".toList := by
    intro hname
    have htext := h []
    rw [hname] at htext
    cases htext
  unfold ofJson?
  split
  · next heq =>
      cases heq
      exact h _
  · next heq =>
      cases heq
      rw [if_neg fun hmore => houtput hmore.left]
  · next heq =>
      cases heq
      rw [if_neg fun hsaved => houtput hsaved.left]
  · rfl

/-!
# Lines

One outcome on each line; a line that holds something else is passed over.
-/

def ofLine? (line : Text) : Option Outcome :=
  match Json.readValue Json.nestingLimit (Json.readFuel line) line with
  | .ok (value, []) => ofJson? value
  | _ => none

def ofLines (text : Text) : List Outcome := (Text.splitOn '\n' text).filterMap ofLine?

/-- The outcomes on the lines of an output. -/
def ofOutput (bytes : Bytes) : List Outcome := ofLines ((Utf8.decode? bytes).getD [])

theorem ofLine?_compact (outcome : Outcome) : ofLine? outcome.toJson.compact = some outcome := by
  have hread := Json.readValue_compact outcome.toJson Json.nestingLimit
    (Json.readFuel outcome.toJson.compact) [] outcome.literals_toJson
    (Nat.le_trans outcome.nesting_toJson (by decide)) (by unfold Json.readFuel; omega)
  rw [List.append_nil] at hread
  unfold ofLine?
  rw [hread]
  exact outcome.ofJson?_toJson

theorem compact_injective {outcome other : Outcome}
    (h : outcome.toJson.compact = other.toJson.compact) : outcome = other := by
  have houtcome := ofLine?_compact outcome
  rw [h, ofLine?_compact other] at houtcome
  exact (Option.some.inj houtcome).symm

theorem printable_compact (outcome : Outcome) : Json.Printable outcome.toJson.compact := by
  apply Json.printable_compact
  rw [outcome.literals_toJson]
  intro literal hliteral
  cases hliteral

theorem ofLine?_eq_none {name body : Text} (h : ∀ text, ofText? name text = none) :
    ofLine? ('\x7b' :: (Json.quote name ++ ([':'] ++ body))) = none := by
  unfold ofLine?
  split
  · next value hread =>
      rcases Json.readValue_object_starts hread with ⟨first, members, rfl⟩
      exact ofJson?_eq_none h first members
  · rfl

theorem ofLines_line {line : Text} (h : Json.Printable line) (rest : Text) :
    ofLines (line ++ '\n' :: rest) = (ofLine? line).toList ++ ofLines rest := by
  have hline : '\n' ∉ line := fun hmem => h '\n' hmem (by decide)
  unfold ofLines
  rw [Text.splitOn_append_cons, Text.splitOn_of_not_mem hline, List.filterMap_append]
  cases hread : ofLine? line with
  | none => rw [List.filterMap_cons_none hread]; rfl
  | some outcome => rw [List.filterMap_cons_some hread]; rfl

def printLines (outcomes : List Outcome) : Text :=
  outcomes.flatMap fun outcome => outcome.toJson.compact ++ ['\n']

theorem printLines_append (outcomes others : List Outcome) :
    printLines (outcomes ++ others) = printLines outcomes ++ printLines others :=
  List.flatMap_append

theorem ofLines_printLines (outcomes : List Outcome) (rest : Text) :
    ofLines (printLines outcomes ++ rest) = outcomes ++ ofLines rest := by
  induction outcomes with
  | nil => rfl
  | cons outcome outcomes ih =>
      rw [printLines, List.flatMap_cons, List.append_assoc, List.append_assoc,
        List.singleton_append, ofLines_line outcome.printable_compact, ofLine?_compact]
      exact congrArg (outcome :: ·) ih

end Outcome
end LinePalette
