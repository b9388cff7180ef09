import LinePalette.Proofs.Editor.Commands
import LinePalette.Proofs.Editor.Effects

/-!
# The grammar of command lines

The slashes in front of a letter tell whether it stands in a pattern: it does just when
their number is odd.  A line either has a first letter that stands in no pattern, or all of
its letters stand in patterns, and in both cases there is one way to take it apart.
-/

namespace LinePalette
namespace Command

variable {line address text : Text} {slashes : Nat} {command : Command}

/-!
# Letters in patterns
-/

/--
Every letter of the text stands in a pattern: the number of slashes in front of it is odd,
those counted that come before the text.
-/
def Enclosed (slashes : Nat) (text : Text) : Prop :=
  ∀ front letter back, text = front ++ letter :: back -> letter.isAlpha = true ->
    (slashes + front.count '/') % 2 = 1

/--
The line is put together from the parts of the command, and its letter is the first one
that stands in no pattern.
-/
structure Leads (slashes : Nat) (line : Text) (command : Command) : Prop where
  line_eq : line = command.address ++ command.letter :: command.tail
  isAlpha : command.letter.isAlpha = true
  outside : (slashes + command.address.count '/') % 2 = 0
  enclosed : Enclosed slashes command.address

theorem enclosed_nil (slashes : Nat) : Enclosed slashes [] := by
  intro front letter back htext
  exact absurd htext.symm (List.append_ne_nil_of_right_ne_nil front (List.cons_ne_nil letter back))

theorem count_slash_cons (c : Char) (front : Text) :
    slashes + (c :: front).count '/' = slashes + [c].count '/' + front.count '/' := by
  rw [List.count_cons, List.count_singleton]
  omega

theorem enclosed_cons {c : Char} :
    Enclosed slashes (c :: text) ↔
      (c.isAlpha = true -> slashes % 2 = 1) ∧ Enclosed (slashes + [c].count '/') text := by
  constructor
  · intro h
    refine ⟨fun halpha => h [] c text rfl halpha, ?_⟩
    intro front letter back htext halpha
    rw [← count_slash_cons]
    exact h (c :: front) letter back (congrArg (c :: ·) htext) halpha
  · rintro ⟨hfirst, hlater⟩ front letter back htext halpha
    cases front with
    | nil =>
        cases htext
        exact hfirst halpha
    | cons first front =>
        cases htext
        rw [count_slash_cons]
        exact hlater front letter back rfl halpha

theorem enclosed_or_leads (slashes : Nat) (line : Text) :
    Enclosed slashes line ∨ ∃ command, Leads slashes line command := by
  induction line generalizing slashes with
  | nil => exact Or.inl (enclosed_nil slashes)
  | cons c rest ih =>
      by_cases hletter : c.isAlpha = true ∧ slashes % 2 = 0
      · refine Or.inr ⟨{ address := [], letter := c, tail := rest }, rfl, hletter.left, ?_,
          enclosed_nil slashes⟩
        exact hletter.right
      · have hfirst : c.isAlpha = true -> slashes % 2 = 1 := by
          intro halpha
          have hodd : ¬slashes % 2 = 0 := fun heven => hletter ⟨halpha, heven⟩
          omega
        rcases ih (slashes + [c].count '/') with henclosed | ⟨command, hleads⟩
        · exact Or.inl (enclosed_cons.mpr ⟨hfirst, henclosed⟩)
        · refine Or.inr ⟨{ command with address := c :: command.address },
            congrArg (c :: ·) hleads.line_eq, hleads.isAlpha, ?_,
            enclosed_cons.mpr ⟨hfirst, hleads.enclosed⟩⟩
          show (slashes + (c :: command.address).count '/') % 2 = 0
          rw [count_slash_cons]
          exact hleads.outside

theorem Leads.not_enclosed (h : Leads slashes line command) : ¬Enclosed slashes line := by
  intro henclosed
  have hodd := henclosed command.address command.letter command.tail h.line_eq h.isAlpha
  rw [h.outside] at hodd
  cases hodd

/-!
# Looking for the letter
-/

theorem splitAtLetter?_pass {c : Char} (h : c.isAlpha = true -> slashes % 2 = 1) (rest : Text) :
    splitAtLetter? (slashes % 2 == 1) (c :: rest) =
      (splitAtLetter? ((slashes + [c].count '/') % 2 == 1) rest).map fun found =>
        (c :: found.1, found.2) := by
  rw [splitAtLetter?]
  by_cases hslash : c = '/'
  · subst hslash
    have hturn : (!(slashes % 2 == 1)) = ((slashes + 1) % 2 == 1) := by
      rw [Bool.eq_iff_iff, Bool.not_eq_true', beq_eq_false_iff_ne, beq_iff_eq]
      omega
    rw [if_pos rfl, hturn]
    rfl
  · have hcount : [c].count '/' = 0 :=
      List.count_eq_zero_of_not_mem fun hmem => hslash (List.mem_singleton.mp hmem).symm
    have hother : ¬(!(slashes % 2 == 1) && c.isAlpha) = true := by
      intro hfound
      rcases Bool.and_eq_true_iff.mp hfound with ⟨houtside, halpha⟩
      rw [h halpha] at houtside
      cases houtside
    rw [if_neg hslash, if_neg hother, hcount]
    rfl

theorem splitAtLetter?_letter {c : Char} (halpha : c.isAlpha = true) (h : slashes % 2 = 0)
    (rest : Text) : splitAtLetter? (slashes % 2 == 1) (c :: rest) = some ([], c, rest) := by
  have hslash : c ≠ '/' := by
    rintro rfl
    cases halpha
  rw [splitAtLetter?, if_neg hslash, h, halpha]
  rfl

theorem splitAtLetter?_enclosed (h : Enclosed slashes line) :
    splitAtLetter? (slashes % 2 == 1) line = none := by
  induction line generalizing slashes with
  | nil => rfl
  | cons c rest ih =>
      rcases enclosed_cons.mp h with ⟨hfirst, hlater⟩
      rw [splitAtLetter?_pass hfirst, ih hlater]
      rfl

theorem splitAtLetter?_leads {letter : Char} (halpha : letter.isAlpha = true)
    (houtside : (slashes + address.count '/') % 2 = 0) (henclosed : Enclosed slashes address)
    (tail : Text) :
    splitAtLetter? (slashes % 2 == 1) (address ++ letter :: tail) =
      some (address, letter, tail) := by
  induction address generalizing slashes with
  | nil => exact splitAtLetter?_letter halpha houtside tail
  | cons c address ih =>
      rcases enclosed_cons.mp henclosed with ⟨hfirst, hlater⟩
      rw [count_slash_cons] at houtside
      rw [List.cons_append, splitAtLetter?_pass hfirst, ih houtside hlater]
      rfl

theorem enclosed_iff :
    Enclosed slashes line ↔ (splitAtLetter? (slashes % 2 == 1) line).isNone = true := by
  constructor
  · intro h
    rw [splitAtLetter?_enclosed h]
    rfl
  · intro hnone
    rcases enclosed_or_leads slashes line with henclosed | ⟨command, hleads⟩
    · exact henclosed
    · rw [hleads.line_eq,
        splitAtLetter?_leads hleads.isAlpha hleads.outside hleads.enclosed] at hnone
      cases hnone

instance (slashes : Nat) (line : Text) : Decidable (Enclosed slashes line) :=
  decidable_of_iff ((splitAtLetter? (slashes % 2 == 1) line).isNone = true) enclosed_iff.symm

theorem parse?_of_leads (h : Leads 0 line command) : parse? line = some command := by
  have hsplit := splitAtLetter?_leads h.isAlpha h.outside h.enclosed command.tail
  rw [← h.line_eq] at hsplit
  unfold parse?
  rw [show (false : Bool) = (0 % 2 == 1) from rfl, hsplit]

theorem parse?_of_enclosed (h : Enclosed 0 line) (hline : line ≠ []) :
    parse? line = some { address := line, letter := 'p', tail := [] } := by
  have hsplit : splitAtLetter? false line = none := splitAtLetter?_enclosed h
  unfold parse?
  rw [hsplit]
  exact if_neg hline

theorem parse?_eq_none_iff : parse? line = none ↔ line = [] := by
  constructor
  · exact eq_nil_of_parse?_eq_none
  · rintro rfl
    rfl

end Command

/--
Only an empty line holds no command.  Every other line is taken apart at the first letter
that stands in no pattern, and is all address to be printed if there is none.  A tail is
taken for a substitution just when it is the pattern, the template and the flag behind a
slash each, neither part holding a slash, and then it is this substitution; all other tails
are refused with the same error.  So an address that ends outside patterns and holds no
letter outside them is found again in front of a substitution, and the substitution behind
it.
-/
theorem lines_and_tails_read_as_written :
    (∀ line, Command.parse? line = none ↔ line = []) ∧
      (∀ line, line ≠ [] ->
        ∃ command, Command.parse? line = some command ∧
          ((¬Command.Enclosed 0 line ∧ Command.Leads 0 line command) ∨
            (Command.Enclosed 0 line ∧
              command = { address := line, letter := 'p', tail := [] }))) ∧
      (∀ tail substitution,
        Substitution.parse tail = .ok substitution ↔
          tail = substitution.written ∧ '/' ∉ substitution.pattern ∧
            '/' ∉ substitution.template) ∧
      (∀ tail error,
        Substitution.parse tail = .error error ↔
          error = .invalidSubstitute ∧
            ∀ substitution : Substitution, tail = substitution.written ->
              '/' ∈ substitution.pattern ∨ '/' ∈ substitution.template) ∧
      ∀ (address : Text) (substitution : Substitution),
        address.count '/' % 2 = 0 -> Command.Enclosed 0 address ->
        '/' ∉ substitution.pattern -> '/' ∉ substitution.template ->
          Command.parse? (address ++ 's' :: substitution.written) =
            some { address := address, letter := 's', tail := substitution.written } ∧
          Substitution.parse substitution.written = .ok substitution := by
  refine ⟨fun _ => Command.parse?_eq_none_iff, ?_, fun _ _ => Substitution.parse_eq_ok_iff,
    fun _ _ => Substitution.parse_eq_error_iff, ?_⟩
  · intro line hline
    rcases Command.enclosed_or_leads 0 line with henclosed | ⟨command, hleads⟩
    · exact ⟨_, Command.parse?_of_enclosed henclosed hline, Or.inr ⟨henclosed, rfl⟩⟩
    · exact ⟨command, Command.parse?_of_leads hleads,
        Or.inl ⟨hleads.not_enclosed, hleads⟩⟩
  · intro address substitution houtside henclosed hpattern htemplate
    refine ⟨Command.parse?_of_leads ?_, Substitution.parse_written hpattern htemplate⟩
    refine ⟨rfl, rfl, ?_, henclosed⟩
    rw [Nat.zero_add]
    exact houtside

theorem lines_and_tails_read_as_written_searching :
    let address := "/s/,$".toList
    let substitution : Substitution := { pattern := ['é'], template := [], everywhere := true }
    address.count '/' % 2 = 0 ∧ Command.Enclosed 0 address ∧
      Command.parse? (address ++ 's' :: substitution.written) =
        some { address := address, letter := 's', tail := substitution.written } ∧
      Substitution.parse "/é//g".toList = .ok substitution ∧
      ∃ command, Command.parse? address = some command ∧ command.letter = 'p' := by
  intro address substitution
  have henclosed : Command.Enclosed 0 address := by decide
  rcases lines_and_tails_read_as_written with ⟨_, hlines, htails, _, hwhole⟩
  have hparsed := hwhole address substitution (by decide) henclosed (by decide) (by decide)
  have hsubstitution := (htails "/é//g".toList substitution).mpr ⟨rfl, by decide, by decide⟩
  refine ⟨by decide, henclosed, hparsed.left, hsubstitution, ?_⟩
  rcases hlines address (List.cons_ne_nil _ _) with ⟨command, hcommand, hopen | hprint⟩
  · exact absurd henclosed hopen.left
  · exact ⟨command, hcommand, congrArg Command.letter hprint.right⟩

end LinePalette
