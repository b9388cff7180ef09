import LinePalette.Proofs.Json.Numbers
import LinePalette.Proofs.Json.Strings

/-!
# Spelled values

A value can be written in many ways: with blanks between its tokens, and with escapes in
its strings.  However it is written it is read as the value that it is, when there is room
for its nesting and what stands behind a number does not go on with it.
-/

namespace LinePalette
namespace Json

mutual

def nesting : Json -> Nat
  | null => 0
  | bool _ => 0
  | number _ => 0
  | string _ => 0
  | array items => nestingOfItems items + 1
  | object members => nestingOfMembers members + 1

def nestingOfItems : List Json -> Nat
  | [] => 0
  | item :: items => max (nesting item) (nestingOfItems items)

def nestingOfMembers : List (Text × Json) -> Nat
  | [] => 0
  | (_, value) :: members => max (nesting value) (nestingOfMembers members)

end

/-!
# Spelling
-/

def Spaces (text : Text) : Prop := ∀ c ∈ text, isSpace c = true

instance (text : Text) : Decidable (Spaces text) :=
  decidable_of_iff (text.all isSpace = true) List.all_eq_true

def separator (first : Bool) : Text := if first then [] else [',']

mutual

/-- The ways in which a value is written, from its first token to its last. -/
inductive Spells : Json -> Text -> Prop where
  | null : Spells null "null".toList
  | yes : Spells (bool true) "true".toList
  | no : Spells (bool false) "false".toList
  | number {literal : Text} : SpellsNumber literal -> Spells (number literal) literal
  | string {text spelling : Text} : SpellsText text spelling -> Spells (string text) spelling
  | array {items : List Json} {spelling : Text} :
      SpellsItems true items spelling -> Spells (array items) ('[' :: (spelling ++ [']']))
  | object {members : List (Text × Json)} {spelling : Text} :
      SpellsMembers true members spelling ->
      Spells (object members) ('\x7b' :: (spelling ++ ['\x7d']))

/-- The items from one of them on, up to the bracket that closes the array. -/
inductive SpellsItems : Bool -> List Json -> Text -> Prop where
  | nil {first : Bool} {gap : Text} : Spaces gap -> SpellsItems first [] gap
  | cons {first : Bool} {gap lead spelling later : Text} {item : Json} {items : List Json} :
      Spaces gap -> Spaces lead -> Spells item spelling -> SpellsItems false items later ->
      SpellsItems first (item :: items) (gap ++ separator first ++ lead ++ spelling ++ later)

inductive SpellsMembers : Bool -> List (Text × Json) -> Text -> Prop where
  | nil {first : Bool} {gap : Text} : Spaces gap -> SpellsMembers first [] gap
  | cons {first : Bool} {gap lead quoted before after spelling later : Text} {name : Text}
      {value : Json} {members : List (Text × Json)} :
      Spaces gap -> Spaces lead -> SpellsText name quoted -> Spaces before -> Spaces after ->
      Spells value spelling -> SpellsMembers false members later ->
      SpellsMembers first ((name, value) :: members)
        (gap ++ separator first ++ lead ++ quoted ++ before ++ [':'] ++ after ++ spelling ++ later)

end

/-!
# Blanks
-/

theorem spaces_nil : Spaces [] := fun _ h => nomatch h

theorem skipSpaces_cons {c : Char} (h : isSpace c = false) (rest : Text) :
    skipSpaces (c :: rest) = c :: rest := by
  unfold skipSpaces
  rw [List.dropWhile_cons, if_neg (by rw [h]; decide)]

variable {gap : Text}

theorem skipSpaces_append (h : Spaces gap) (rest : Text) :
    skipSpaces (gap ++ rest) = skipSpaces rest := by
  unfold skipSpaces
  rw [List.dropWhile_append_of_pos h]

theorem skipSpaces_of_spaces (h : Spaces gap) : skipSpaces gap = [] := by
  have hskip := skipSpaces_append h []
  rw [List.append_nil] at hskip
  exact hskip

theorem readValue_spaces (h : Spaces gap) (room fuel : Nat) (text : Text) :
    readValue room fuel (gap ++ text) = readValue room fuel text := by
  cases fuel with
  | zero => rfl
  | succ fuel => rw [readValue, readValue, skipSpaces_append h]

theorem readColon_spaces (h : Spaces gap) (rest : Text) :
    readColon (gap ++ ':' :: rest) = .ok rest := by
  unfold readColon
  rw [skipSpaces_append h]
  rfl

theorem nextItem_done (h : Spaces gap) (first : Bool) (rest : Text) :
    nextItem first (gap ++ ']' :: rest) = .ok (.done rest) := by
  unfold nextItem
  rw [skipSpaces_append h]
  rfl

theorem nextName_done (h : Spaces gap) (first : Bool) (rest : Text) :
    nextName first (gap ++ '\x7d' :: rest) = .ok (.done rest) := by
  unfold nextName
  rw [skipSpaces_append h]
  rfl

variable {lead : Text}

theorem nextItem_separator {c : Char} (first : Bool) (hgap : Spaces gap) (hlead : Spaces lead)
    (hspace : isSpace c = false) (hend : c ≠ ']') (text : Text) :
    nextItem first (gap ++ separator first ++ lead ++ c :: text) = .ok (.item (c :: text)) := by
  have hstart := (skipSpaces_append hlead (c :: text)).trans (skipSpaces_cons hspace text)
  rw [List.append_assoc, List.append_assoc]
  unfold nextItem
  rw [skipSpaces_append hgap]
  cases first with
  | true =>
      rw [separator, if_pos rfl, List.nil_append, hstart]
      split
      · next h => cases h
      · next h =>
          cases h
          exact absurd rfl hend
      · next h =>
          cases h
          rfl
  | false =>
      rw [separator, if_neg Bool.false_ne_true, List.singleton_append,
        skipSpaces_cons (show isSpace ',' = false from rfl)]
      split
      · next h => cases h
      · next h => cases h
      · next h =>
          cases h
          rw [if_neg Bool.false_ne_true, if_pos rfl, hstart]
          split
          · next h => cases h
          · next h =>
              cases h
              exact absurd rfl hend
          · rfl

theorem nextName_separator (first : Bool) (hgap : Spaces gap) (hlead : Spaces lead)
    (text : Text) :
    nextName first (gap ++ separator first ++ lead ++ '"' :: text) = .ok (.item text) := by
  have hquote : skipSpaces (lead ++ '"' :: text) = '"' :: text := skipSpaces_append hlead _
  rw [List.append_assoc, List.append_assoc]
  unfold nextName
  rw [skipSpaces_append hgap]
  cases first with
  | true =>
      rw [separator, if_pos rfl, List.nil_append, hquote]
      rfl
  | false =>
      rw [separator, if_neg Bool.false_ne_true, List.singleton_append,
        skipSpaces_cons (show isSpace ',' = false from rfl)]
      split
      · next h => cases h
      · next h => cases h
      · next h =>
          cases h
          rw [if_neg Bool.false_ne_true, if_pos rfl, hquote]
          rfl

/-!
# First characters
-/

variable {room fuel : Nat} {first : Bool} {text spelling after rest start : Text}
  {value item : Json} {items : List Json} {name quoted before : Text}
  {members : List (Text × Json)}

theorem ne_of_numeric {c d : Char} (h : c = '-' ∨ c.isDigit = true) (hminus : d ≠ '-')
    (hdigit : d.isDigit = false) : c ≠ d := by
  rintro rfl
  rw [hdigit] at h
  exact h.elim hminus Bool.noConfusion

theorem isSpace_of_numeric {c : Char} (h : c = '-' ∨ c.isDigit = true) : isSpace c = false := by
  simp only [isSpace, Bool.or_eq_false_iff, beq_eq_false_iff_ne]
  exact ⟨⟨⟨ne_of_numeric h (by decide) rfl, ne_of_numeric h (by decide) rfl⟩,
    ne_of_numeric h (by decide) rfl⟩, ne_of_numeric h (by decide) rfl⟩

theorem Spells.starts (h : Spells value spelling) :
    ∃ c later, spelling = c :: later ∧ isSpace c = false ∧ c ≠ ']' := by
  cases h with
  | null => exact ⟨'n', _, rfl, rfl, by decide⟩
  | yes => exact ⟨'t', _, rfl, rfl, by decide⟩
  | no => exact ⟨'f', _, rfl, rfl, by decide⟩
  | number hnumber =>
      rcases hnumber.starts with ⟨c, later, rfl, hstart⟩
      exact ⟨c, later, rfl, isSpace_of_numeric hstart, ne_of_numeric hstart (by decide) rfl⟩
  | string htext =>
      cases htext with
      | quoted _ => exact ⟨'"', _, rfl, rfl, by decide⟩
  | array _ => exact ⟨'[', _, rfl, rfl, by decide⟩
  | object _ => exact ⟨'\x7b', _, rfl, rfl, by decide⟩

theorem continuesNumber_of_space {c : Char} (h : isSpace c = true) :
    continuesNumber c = false := by
  simp only [isSpace, Bool.or_eq_true, beq_iff_eq] at h
  rcases h with ((rfl | rfl) | rfl) | rfl
  · rfl
  · rfl
  · rfl
  · rfl

theorem stopsAt_spaces (h : Spaces gap) (hrest : StopsAt continuesNumber rest) :
    StopsAt continuesNumber (gap ++ rest) := by
  cases gap with
  | nil => exact hrest
  | cons c later => exact stopsAt_cons (continuesNumber_of_space (h c List.mem_cons_self)) _

theorem SpellsItems.stopsAt (h : SpellsItems false items spelling) (rest : Text) :
    StopsAt continuesNumber (spelling ++ ']' :: rest) := by
  cases h with
  | nil hgap => exact stopsAt_spaces hgap (stopsAt_cons rfl _)
  | cons hgap _ _ _ =>
      simp only [List.append_assoc]
      exact stopsAt_spaces hgap (stopsAt_cons rfl _)

theorem SpellsMembers.stopsAt (h : SpellsMembers false members spelling) (rest : Text) :
    StopsAt continuesNumber (spelling ++ '\x7d' :: rest) := by
  cases h with
  | nil hgap => exact stopsAt_spaces hgap (stopsAt_cons rfl _)
  | cons hgap _ _ _ _ _ _ =>
      simp only [List.append_assoc]
      exact stopsAt_spaces hgap (stopsAt_cons rfl _)

/-!
# Reading step by step
-/

theorem SpellsText.readValue_append (h : SpellsText text spelling) (room fuel : Nat)
    (rest : Text) : readValue room (fuel + 1) (spelling ++ rest) = .ok (string text, rest) := by
  cases h with
  | @quoted body hbody =>
      have hread := hbody.readString_append rest
      rw [List.cons_append, List.append_assoc]
      show ((readString (body ++ '"' :: rest)).map fun read => (string read.1, read.2)) = _
      rw [hread]
      rfl

theorem SpellsNumber.readValue_append (h : SpellsNumber spelling)
    (hrest : StopsAt continuesNumber rest) (room fuel : Nat) :
    readValue room (fuel + 1) (spelling ++ rest) = .ok (number spelling, rest) := by
  have hread := h.read_append hrest
  rcases h.starts with ⟨c, later, rfl, hstart⟩
  have hnull : c ≠ 'n' := ne_of_numeric hstart (by decide) rfl
  have htrue : c ≠ 't' := ne_of_numeric hstart (by decide) rfl
  have hfalse : c ≠ 'f' := ne_of_numeric hstart (by decide) rfl
  have hquote : c ≠ '"' := ne_of_numeric hstart (by decide) rfl
  rw [List.cons_append] at hread ⊢
  rw [readValue, skipSpaces_cons (isSpace_of_numeric hstart)]
  simp only [if_neg hnull, if_neg htrue, if_neg hfalse, if_neg hquote, if_pos hstart, hread]
  rfl

theorem readItems_cons (hnext : nextItem first text = .ok (.item start))
    (hvalue : readValue room fuel start = .ok (value, after))
    (hitems : readItems room fuel false after = .ok (items, rest)) :
    readItems room (fuel + 1) first text = .ok (value :: items, rest) := by
  rw [readItems, hnext]
  simp only [bind, Except.bind, hvalue, hitems]

theorem readItems_done (h : nextItem first text = .ok (.done rest)) :
    readItems room (fuel + 1) first text = .ok ([], rest) := by
  rw [readItems, h]
  rfl

theorem readMembers_cons {body named : Text} (hnext : nextName first text = .ok (.item start))
    (hname : readString start = .ok (name, named)) (hcolon : readColon named = .ok body)
    (hvalue : readValue room fuel body = .ok (value, after))
    (hmembers : readMembers room fuel false after = .ok (members, rest)) :
    readMembers room (fuel + 1) first text = .ok ((name, value) :: members, rest) := by
  rw [readMembers, hnext]
  simp only [bind, Except.bind, hname, hcolon, hvalue, hmembers]

theorem readMembers_done (h : nextName first text = .ok (.done rest)) :
    readMembers room (fuel + 1) first text = .ok ([], rest) := by
  rw [readMembers, h]
  rfl

theorem readValue_array (h : readItems room fuel true text = .ok (items, rest)) :
    readValue (room + 1) (fuel + 1) ('[' :: text) = .ok (array items, rest) := by
  show ((readItems room fuel true text).map fun read => (array read.1, read.2)) = _
  rw [h]
  rfl

theorem readValue_object (h : readMembers room fuel true text = .ok (members, rest)) :
    readValue (room + 1) (fuel + 1) ('\x7b' :: text) = .ok (object members, rest) := by
  show ((readMembers room fuel true text).map fun read => (object read.1, read.2)) = _
  rw [h]
  rfl

/--
The name of the first member is found behind the separator, its value behind the colon and
the other members behind the value.
-/
theorem SpellsMembers.next (h : SpellsMembers first ((name, value) :: members) spelling)
    (rest : Text) :
    ∃ start colon after written later,
      nextName first (spelling ++ rest) = .ok (.item start) ∧
        readString start = .ok (name, colon) ∧
        readColon colon = .ok (after ++ (written ++ (later ++ rest))) ∧
        Spaces after ∧ Spells value written ∧ SpellsMembers false members later ∧
        written.length + later.length + 1 < spelling.length := by
  cases h with
  | @cons _ gap lead _ before after written later _ _ _ hgap hlead hname hbefore hafter hwritten
      hmembers =>
      cases hname with
      | @quoted characters hcharacters =>
          have hnext := nextName_separator first hgap hlead
            (characters ++ '"' :: (before ++ ':' :: (after ++ (written ++ (later ++ rest)))))
          refine ⟨_, _, after, written, later, ?_, hcharacters.readString_append _,
            readColon_spaces hbefore _, hafter, hwritten, hmembers, ?_⟩
          · simp only [List.append_assoc, List.cons_append, List.nil_append] at hnext ⊢
            exact hnext
          · simp only [List.length_append, List.length_cons, List.length_nil]
            omega

/-!
# Reading values
-/

-- every step of the reader leaves a shorter text, so fuel above the length is enough
mutual

/-- A value is read from each of its spellings, whatever stands behind it. -/
theorem readValue_spelled (value : Json) (spelling : Text) (room fuel : Nat) (rest : Text)
    (h : Spells value spelling) (hroom : value.nesting ≤ room) (hfuel : spelling.length < fuel)
    (hrest : ∀ literal, value = number literal -> StopsAt continuesNumber rest) :
    readValue room fuel (spelling ++ rest) = .ok (value, rest) := by
  cases fuel with
  | zero => cases hfuel
  | succ fuel =>
      cases value with
      | null =>
          cases h
          rfl
      | bool value =>
          cases h with
          | yes => rfl
          | no => rfl
      | number literal =>
          cases h with
          | number hnumber => exact hnumber.readValue_append (hrest _ rfl) room fuel
      | string text =>
          cases h with
          | string htext => exact htext.readValue_append room fuel rest
      | array items =>
          cases room with
          | zero => cases hroom
          | succ room =>
              cases h with
              | @array _ inner hitems =>
                  simp only [List.length_cons, List.length_append, List.length_nil] at hfuel
                  rw [List.cons_append, List.append_assoc]
                  exact readValue_array (readItems_spelled items inner true room fuel rest hitems
                    (Nat.le_of_succ_le_succ hroom) (by omega))
      | object members =>
          cases room with
          | zero => cases hroom
          | succ room =>
              cases h with
              | @object _ inner hmembers =>
                  simp only [List.length_cons, List.length_append, List.length_nil] at hfuel
                  rw [List.cons_append, List.append_assoc]
                  exact readValue_object (readMembers_spelled members inner true room fuel rest
                    hmembers (Nat.le_of_succ_le_succ hroom) (by omega))

theorem readItems_spelled (items : List Json) (spelling : Text) (first : Bool) (room fuel : Nat)
    (rest : Text) (h : SpellsItems first items spelling) (hroom : nestingOfItems items ≤ room)
    (hfuel : spelling.length + 1 < fuel) :
    readItems room fuel first (spelling ++ ']' :: rest) = .ok (items, rest) := by
  cases fuel with
  | zero => cases hfuel
  | succ fuel =>
      cases items with
      | nil =>
          cases h with
          | nil hgap => exact readItems_done (nextItem_done hgap first rest)
      | cons item items =>
          cases h with
          | @cons _ gap lead written later _ _ hgap hlead hitem hitems =>
              have hnesting := Nat.max_le.mp hroom
              rcases hitem.starts with ⟨c, text, hstart, hspace, hend⟩
              have hlength : 0 < written.length := by
                rw [hstart]
                exact Nat.succ_pos _
              simp only [List.length_append] at hfuel
              have hvalue := readValue_spelled item written room fuel (later ++ ']' :: rest) hitem
                hnesting.left (by omega) (fun _ _ => hitems.stopsAt rest)
              have hlater := readItems_spelled items later false room fuel rest hitems
                hnesting.right (by omega)
              refine readItems_cons ?_ hvalue hlater
              rw [List.append_assoc, List.append_assoc, hstart]
              exact nextItem_separator first hgap hlead hspace hend _

theorem readMembers_spelled (members : List (Text × Json)) (spelling : Text) (first : Bool)
    (room fuel : Nat) (rest : Text) (h : SpellsMembers first members spelling)
    (hroom : nestingOfMembers members ≤ room) (hfuel : spelling.length + 1 < fuel) :
    readMembers room fuel first (spelling ++ '\x7d' :: rest) = .ok (members, rest) := by
  cases fuel with
  | zero => cases hfuel
  | succ fuel =>
      cases members with
      | nil =>
          cases h with
          | nil hgap => exact readMembers_done (nextName_done hgap first rest)
      | cons member members =>
          rcases h.next ('\x7d' :: rest) with ⟨start, colon, after, written, later, hnext, hname,
            hcolon, hafter, hwritten, hmembers, hlength⟩
          have hnesting := Nat.max_le.mp hroom
          have hvalue := readValue_spelled member.2 written room fuel (later ++ '\x7d' :: rest)
            hwritten hnesting.left (by omega) (fun _ _ => hmembers.stopsAt rest)
          rw [← readValue_spaces hafter] at hvalue
          have hlater := readMembers_spelled members later false room fuel rest hmembers
            hnesting.right (by omega)
          exact readMembers_cons hnext hname hcolon hvalue hlater

end

end Json
end LinePalette
