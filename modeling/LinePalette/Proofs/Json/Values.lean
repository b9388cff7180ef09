import LinePalette.Proofs.Json.Spelling

/-!
# Compact values

The compact text of a value without numbers is one of its spellings, so the value is read
back from it.  The compact text of a value has no control characters other than those in
its number literals.
-/

namespace LinePalette
namespace Json

/-!
# Parts of values
-/

mutual

def literals : Json -> List Text
  | null => []
  | bool _ => []
  | number literal => [literal]
  | string _ => []
  | array items => literalsOfItems items
  | object members => literalsOfMembers members

def literalsOfItems : List Json -> List Text
  | [] => []
  | item :: items => literals item ++ literalsOfItems items

def literalsOfMembers : List (Text × Json) -> List Text
  | [] => []
  | (_, value) :: members => literals value ++ literalsOfMembers members

end

theorem mem_literalsOfItems {items : List Json} {literal : Text} :
    literal ∈ literalsOfItems items ↔ ∃ item ∈ items, literal ∈ item.literals := by
  induction items with
  | nil => exact iff_of_false (List.not_mem_nil) (fun ⟨_, hitem, _⟩ => List.not_mem_nil hitem)
  | cons item items ih =>
      simp only [literalsOfItems, List.mem_append, ih, List.mem_cons, exists_eq_or_imp]

theorem literals_ofTexts (texts : List Text) : (ofTexts texts).literals = [] := by
  show literalsOfItems (texts.map string) = []
  induction texts with
  | nil => rfl
  | cons text texts ih => exact ih

theorem nesting_ofTexts (texts : List Text) : (ofTexts texts).nesting = 1 := by
  show nestingOfItems (texts.map string) + 1 = 1
  induction texts with
  | nil => rfl
  | cons text texts ih =>
      show max 0 (nestingOfItems (texts.map string)) + 1 = 1
      rw [Nat.zero_max]
      exact ih

/-!
# Lists in compact texts

The items from one of them on, with a comma in front of each but the first.
-/

def listItems : Bool -> List Json -> Text
  | _, [] => []
  | first, item :: items => separator first ++ compact item ++ listItems false items

def listMembers : Bool -> List (Text × Json) -> Text
  | _, [] => []
  | first, (name, value) :: members =>
      separator first ++ quote name ++ [':'] ++ compact value ++ listMembers false members

theorem compactItems_eq (items : List Json) : compactItems items = listItems true items := by
  induction items with
  | nil => rfl
  | cons item items ih =>
      cases items with
      | nil => simp only [compactItems, listItems, separator, if_true, List.nil_append,
          List.append_nil]
      | cons next items =>
          rw [compactItems, ih]
          simp only [listItems, separator, if_true, Bool.false_eq_true, if_false,
            List.append_assoc, List.nil_append]

theorem compactMembers_eq (members : List (Text × Json)) :
    compactMembers members = listMembers true members := by
  induction members with
  | nil => rfl
  | cons member members ih =>
      cases members with
      | nil => simp only [compactMembers, listMembers, separator, if_true, List.nil_append,
          List.append_nil]
      | cons next members =>
          rw [compactMembers, ih]
          simp only [listMembers, separator, if_true, Bool.false_eq_true, if_false,
            List.append_assoc, List.nil_append]

/-!
# Compact spellings
-/

-- blanks are only allowed, so every gap is empty
mutual

theorem spells_compact (value : Json) (hnumbers : value.literals = []) :
    Spells value value.compact := by
  cases value with
  | null => exact Spells.null
  | bool value =>
      cases value with
      | true => exact Spells.yes
      | false => exact Spells.no
  | number literal => cases hnumbers
  | string text => exact Spells.string (spellsText_quote text)
  | array items =>
      rw [compact, compactItems_eq]
      exact Spells.array (spells_listItems items true hnumbers)
  | object members =>
      rw [compact, compactMembers_eq]
      exact Spells.object (spells_listMembers members true hnumbers)

theorem spells_listItems (items : List Json) (first : Bool)
    (hnumbers : literalsOfItems items = []) : SpellsItems first items (listItems first items) := by
  cases items with
  | nil => exact SpellsItems.nil spaces_nil
  | cons item items =>
      have hliterals := List.append_eq_nil_iff.mp hnumbers
      have hitems : SpellsItems first (item :: items)
          ([] ++ separator first ++ [] ++ item.compact ++ listItems false items) :=
        .cons spaces_nil spaces_nil (spells_compact item hliterals.left)
          (spells_listItems items false hliterals.right)
      rw [List.nil_append, List.append_nil] at hitems
      exact hitems

theorem spells_listMembers (members : List (Text × Json)) (first : Bool)
    (hnumbers : literalsOfMembers members = []) :
    SpellsMembers first members (listMembers first members) := by
  cases members with
  | nil => exact SpellsMembers.nil spaces_nil
  | cons member members =>
      rcases member with ⟨name, value⟩
      have hliterals := List.append_eq_nil_iff.mp hnumbers
      have hmembers : SpellsMembers first ((name, value) :: members)
          ([] ++ separator first ++ [] ++ quote name ++ [] ++ [':'] ++ [] ++ value.compact ++
            listMembers false members) :=
        .cons spaces_nil spaces_nil (spellsText_quote name) spaces_nil spaces_nil
          (spells_compact value hliterals.left) (spells_listMembers members false hliterals.right)
      rw [List.nil_append, List.append_nil, List.append_nil, List.append_nil] at hmembers
      exact hmembers

end

theorem readValue_compact (value : Json) (room fuel : Nat) (rest : Text)
    (hnumbers : value.literals = []) (hroom : value.nesting ≤ room)
    (hfuel : value.compact.length < fuel) :
    readValue room fuel (value.compact ++ rest) = .ok (value, rest) := by
  refine readValue_spelled value value.compact room fuel rest (spells_compact value hnumbers)
    hroom hfuel ?_
  rintro literal rfl
  cases hnumbers

variable {name body rest : Text} {value : Json}

theorem readValue_object_starts {room fuel : Nat}
    (h : readValue room fuel ('\x7b' :: (quote name ++ ([':'] ++ body))) = .ok (value, rest)) :
    ∃ first members, value = object ((name, first) :: members) := by
  have hname := (spellsCharacters_escaped name).readString_append (':' :: body)
  have hcolon : readColon (':' :: body) = .ok body := rfl
  cases fuel with
  | zero => cases h
  | succ fuel =>
      cases room with
      | zero => cases h
      | succ room =>
          change (readMembers room fuel true (quote name ++ ([':'] ++ body))).map
            (fun read => (object read.1, read.2)) = _ at h
          cases fuel with
          | zero => cases h
          | succ fuel =>
              rw [quote_append, readMembers] at h
              change Except.map _ (Except.bind (Except.ok (Turn.item _)) _) = _ at h
              simp only [bind, Except.bind, List.singleton_append, hname, hcolon] at h
              cases hfirst : readValue room fuel body with
              | error fault =>
                  rw [hfirst] at h
                  cases h
              | ok read =>
                  simp only [hfirst] at h
                  cases hmembers : readMembers room fuel false read.2 with
                  | error fault =>
                      rw [hmembers] at h
                      cases h
                  | ok further =>
                      rw [hmembers] at h
                      cases h
                      exact ⟨read.1, further.1, rfl⟩

/-!
# Control characters
-/

def Printable (text : Text) : Prop := ∀ c ∈ text, ¬IsControl c

theorem Printable.append {left right : Text} (hleft : Printable left) (hright : Printable right) :
    Printable (left ++ right) := by
  intro c hc
  rcases List.mem_append.mp hc with hc | hc
  · exact hleft c hc
  · exact hright c hc

theorem printable_singleton {c : Char} (h : ¬IsControl c) : Printable [c] := by
  intro d hd
  rw [List.mem_singleton.mp hd]
  exact h

theorem printable_of_all {text : Text} (h : text.all (fun c => !decide (IsControl c)) = true) :
    Printable text := by
  intro c hc hcontrol
  have hcheck := List.all_eq_true.mp h c hc
  rw [decide_eq_true hcontrol] at hcheck
  cases hcheck

theorem printable_quote (text : Text) : Printable (quote text) := by
  intro c hc
  exact not_isControl_of_mem_quote hc

theorem printable_separator (first : Bool) : Printable (separator first) := by
  cases first with
  | true =>
      intro c hc
      cases hc
  | false => exact printable_singleton (by decide)

mutual

theorem printable_compact (value : Json) (h : ∀ literal ∈ value.literals, Printable literal) :
    Printable value.compact := by
  cases value with
  | null => exact printable_of_all rfl
  | bool value =>
      cases value with
      | true => exact printable_of_all rfl
      | false => exact printable_of_all rfl
  | number literal => exact h literal List.mem_cons_self
  | string text => exact printable_quote text
  | array items =>
      rw [compact, compactItems_eq]
      exact ((printable_singleton (by decide)).append (printable_listItems items true h)).append
        (printable_singleton (by decide))
  | object members =>
      rw [compact, compactMembers_eq]
      exact ((printable_singleton (by decide)).append
        (printable_listMembers members true h)).append (printable_singleton (by decide))

theorem printable_listItems (items : List Json) (first : Bool)
    (h : ∀ literal ∈ literalsOfItems items, Printable literal) :
    Printable (listItems first items) := by
  cases items with
  | nil =>
      intro c hc
      cases hc
  | cons item items =>
      rcases List.forall_mem_append.mp h with ⟨hitem, hitems⟩
      rw [listItems]
      exact ((printable_separator first).append (printable_compact item hitem)).append
        (printable_listItems items false hitems)

theorem printable_listMembers (members : List (Text × Json)) (first : Bool)
    (h : ∀ literal ∈ literalsOfMembers members, Printable literal) :
    Printable (listMembers first members) := by
  cases members with
  | nil =>
      intro c hc
      cases hc
  | cons member members =>
      rcases member with ⟨name, value⟩
      rcases List.forall_mem_append.mp h with ⟨hvalue, hmembers⟩
      rw [listMembers]
      exact ((((printable_separator first).append (printable_quote name)).append
        (printable_singleton (by decide))).append (printable_compact value hvalue)).append
        (printable_listMembers members false hmembers)

end

end Json
end LinePalette
