import LinePalette.Palette.Message
import LinePalette.Proofs.Json.Values

/-!
# Decoding messages

A message is decoded from every spelling of an object that has its members, in whatever
order they stand and whatever members of other names stand among them.  The tag may come
last: what has been read before it is looked at once the tag is known.  The payload is an
object with a tag of its own, to which all of this applies again.
-/

namespace LinePalette
namespace Json

/-!
# Further members
-/

/-- The members are the given ones in any order, and others of other names. -/
def Carries (members own : List (Text × Json)) : Prop :=
  ∃ others, members.Perm (own ++ others) ∧
    ∀ other ∈ others, ∀ member ∈ own, other.1 ≠ member.1

mutual

/-- The second value is the first one, but for the order of members and further members. -/
inductive Extends : Json -> Json -> Prop where
  | same (value : Json) : Extends value value
  | object {own kept members : List (Text × Json)} :
      ExtendsMembers own kept -> Carries members kept -> Extends (object own) (object members)

inductive ExtendsMembers : List (Text × Json) -> List (Text × Json) -> Prop where
  | nil : ExtendsMembers [] []
  | cons {name : Text} {value wide : Json} {own kept : List (Text × Json)} :
      Extends value wide -> ExtendsMembers own kept ->
      ExtendsMembers ((name, value) :: own) ((name, wide) :: kept)

end

def named (name : Text) (member : Text × Json) : Bool := member.1 == name

variable {members own : List (Text × Json)} {name : Text} {value : Json}

theorem Carries.refl (members : List (Text × Json)) : Carries members members :=
  ⟨[], by rw [List.append_nil], fun _ h => nomatch h⟩

theorem Carries.filter_eq (h : Carries members own)
    (hown : own.filter (named name) = [(name, value)]) :
    members.filter (named name) = [(name, value)] := by
  rcases h with ⟨others, hperm, hothers⟩
  have hmember : (name, value) ∈ own := by
    have hmem : (name, value) ∈ own.filter (named name) := by
      rw [hown]
      exact List.mem_cons_self
    exact (List.mem_filter.mp hmem).left
  have hnone : others.filter (named name) = [] := by
    rw [List.filter_eq_nil_iff]
    intro other hother hname
    exact hothers other hother _ hmember (beq_iff_eq.mp hname)
  have hfilter := hperm.filter (named name)
  rw [List.filter_append, hown, hnone, List.append_nil] at hfilter
  exact List.perm_singleton.mp hfilter

theorem extendsMembers_refl (members : List (Text × Json)) : ExtendsMembers members members := by
  induction members with
  | nil => exact ExtendsMembers.nil
  | cons member members ih => exact ExtendsMembers.cons (Extends.same member.2) ih

theorem Extends.carries (h : Extends (.object own) value) :
    ∃ kept members, value = .object members ∧ ExtendsMembers own kept ∧ Carries members kept := by
  cases h with
  | same => exact ⟨own, own, rfl, extendsMembers_refl own, Carries.refl own⟩
  | object hkept hcarries => exact ⟨_, _, rfl, hkept, hcarries⟩

theorem Extends.eq_string {text : Text} (h : Extends (.string text) value) :
    value = .string text := by
  cases h
  rfl

theorem Extends.eq_ofTexts {texts : List Text} (h : Extends (ofTexts texts) value) :
    value = ofTexts texts := by
  cases h
  rfl

end Json

/-!
# Fields

Every field is found again among the members that extend what has been written for it.
-/

variable {members own : List (Text × Json)} {name : Text} {value : Json}

theorem onlyMember?_of_carries (h : Json.Carries members own)
    (hown : own.filter (Json.named name) = [(name, value)]) :
    onlyMember? name members = some value := by
  have hfilter := h.filter_eq hown
  unfold onlyMember?
  split
  · next found hfound =>
      cases hfound.symm.trans hfilter
      rfl
  · next hother => exact absurd hfilter (hother name value)

theorem onlyMember?_filter {dropped : Text} (h : name ≠ dropped)
    (members : List (Text × Json)) :
    onlyMember? name (members.filter fun member => member.1 != dropped) =
      onlyMember? name members := by
  have hfilter : ((members.filter fun member => member.1 != dropped).filter
      fun member => member.1 == name) = members.filter fun member => member.1 == name := by
    rw [List.filter_filter]
    apply List.filter_congr
    intro member _
    by_cases hname : member.1 = name
    · rw [hname, bne_iff_ne.mpr h, Bool.and_true]
    · rw [beq_eq_false_iff_ne.mpr hname, Bool.false_and]
  unfold onlyMember?
  rw [hfilter]

theorem onlyMember?_filter_of_carries {dropped : Text} (hname : name ≠ dropped)
    (h : Json.Carries members own) (hown : own.filter (Json.named name) = [(name, value)]) :
    onlyMember? name (members.filter fun member => member.1 != dropped) = some value :=
  (onlyMember?_filter hname members).trans (onlyMember?_of_carries h hown)

theorem textsOfJson?_ofTexts (texts : List Text) :
    textsOfJson? (Json.ofTexts texts) = some texts := by
  show (texts.map Json.string).mapM textOfJson? = some texts
  induction texts with
  | nil => rfl
  | cons text texts ih =>
      rw [List.map_cons, List.mapM_cons, ih]
      rfl

theorem sourceOfJson?_wireName (source : Source) :
    sourceOfJson? (.string source.wireName) = some source := by
  cases source with
  | textField => rfl
  | editable => rfl
  | clipboard => rfl

namespace Payload

theorem ofJson?_object {tag : PayloadTag}
    (htype : onlyMember? "type".toList members = some (.string name))
    (htag : payloadTag? (.string name) = some tag) :
    ofJson? (.object members) =
      ofFields? tag (.named (members.filter fun member => member.1 != "type".toList)) := by
  have hbind : (onlyMember? "type".toList members).bind payloadTag? = some tag := by
    rw [htype]
    exact htag
  rw [ofJson?, hbind]

theorem ofJson?_extends {payload : Payload} (h : Json.Extends payload.toJson value) :
    ofJson? value = some payload := by
  cases payload with
  | highlight regex =>
      rcases h.carries with ⟨kept, members, rfl, hkept, hcarries⟩
      rcases hkept with _ | ⟨htype, _ | ⟨hregex, _ | _⟩⟩
      cases htype.eq_string
      cases hregex.eq_string
      have hvalues : Fields.values? ["regexString".toList]
          (.named (members.filter fun member => member.1 != "type".toList)) =
          some [.string regex] := by
        have hfound := onlyMember?_filter_of_carries
          (show "regexString".toList ≠ "type".toList by decide) hcarries rfl
        simp only [Fields.values?, List.mapM_cons, List.mapM_nil, hfound]
        rfl
      rw [ofJson?_object (onlyMember?_of_carries hcarries rfl) (show _ = some .highlight from rfl)]
      simp only [ofFields?, hvalues]
      rfl
  | write buffer source =>
      rcases h.carries with ⟨kept, members, rfl, hkept, hcarries⟩
      rcases hkept with _ | ⟨htype, _ | ⟨hbuffer, _ | ⟨hsource, _ | _⟩⟩⟩
      cases htype.eq_string
      cases hbuffer.eq_ofTexts
      cases hsource.eq_string
      have hvalues : Fields.values? ["buffer".toList, "sessionMode".toList]
          (.named (members.filter fun member => member.1 != "type".toList)) =
          some [Json.ofTexts buffer, .string source.wireName] := by
        have hbuffer := onlyMember?_filter_of_carries
          (show "buffer".toList ≠ "type".toList by decide) hcarries rfl
        have hsource := onlyMember?_filter_of_carries
          (show "sessionMode".toList ≠ "type".toList by decide) hcarries rfl
        simp only [Fields.values?, List.mapM_cons, List.mapM_nil, hbuffer, hsource]
        rfl
      rw [ofJson?_object (onlyMember?_of_carries hcarries rfl) (show _ = some .write from rfl)]
      simp only [ofFields?, hvalues, textsOfJson?_ofTexts, sourceOfJson?_wireName]

end Payload

namespace Message

/-!
# Members

The members are read from one of them on.  Whether the tag has been read is what is kept of
those in front of it.
-/

/-- Up to the tag and behind it there are only members of other names. -/
inductive Tagged (read : MessageTag) : Option MessageTag -> List (Text × Json) -> Prop where
  | done : Tagged read (some read) []
  | tag {name : Text} {members : List (Text × Json)} : messageTag? name = some read ->
      Tagged read (some read) members -> Tagged read none ((tagName, .string name) :: members)
  | field {tag : Option MessageTag} {name : Text} {value : Json} {members : List (Text × Json)} :
      name ≠ tagName -> Tagged read tag members -> Tagged read tag ((name, value) :: members)

variable {read : MessageTag} {tag : Option MessageTag}

theorem tagged_of_no_tag (h : members.filter (Json.named tagName) = []) :
    Tagged read (some read) members := by
  induction members with
  | nil => exact Tagged.done
  | cons member members ih =>
      rw [List.filter_eq_nil_iff] at h
      have hname : member.1 ≠ tagName := by
        intro hname
        exact h member List.mem_cons_self (beq_iff_eq.mpr hname)
      refine Tagged.field hname (ih ?_)
      rw [List.filter_eq_nil_iff]
      intro other hother
      exact h other (List.mem_cons_of_mem member hother)

theorem tagged_of_only_tag (hread : messageTag? name = some read)
    (h : members.filter (Json.named tagName) = [(tagName, .string name)]) :
    Tagged read none members := by
  induction members with
  | nil => cases h
  | cons member members ih =>
      rw [List.filter_cons] at h
      by_cases hname : Json.named tagName member = true
      · rw [if_pos hname, List.cons.injEq] at h
        rw [h.left]
        exact Tagged.tag hread (tagged_of_no_tag h.right)
      · rw [if_neg hname] at h
        refine Tagged.field ?_ (ih h)
        intro htag
        exact hname (beq_iff_eq.mpr htag)

theorem readTag_spelled {gap quoted : Text} (hgap : Json.Spaces gap)
    (hname : Json.SpellsText name quoted) (hread : messageTag? name = some read) (rest : Text) :
    readTag (gap ++ (quoted ++ rest)) = .ok (read, rest) := by
  have hvalue := hname.readValue_append 0 0 rest
  have htag : (textOfJson? (.string name)).bind messageTag? = some read := hread
  unfold readTag
  rw [Json.skipSpaces_append hgap]
  cases hname with
  | quoted hcharacters =>
      rw [List.cons_append] at hvalue ⊢
      rw [Json.skipSpaces_cons rfl]
      split
      · next h => cases h
      · next h => cases h
      · simp only [bind, Except.bind, hvalue, htag]

variable {first : Bool} {fuel : Nat} {text start after rest : Text}

theorem readMembers_done (h : Json.nextName first text = .ok (.done rest)) :
    readMembers tag (fuel + 1) first text = .ok (tag, [], rest) := by
  rw [readMembers, h]
  rfl

theorem readMembers_tag {colon body : Text} (hnext : Json.nextName first text = .ok (.item start))
    (hname : Json.readString start = .ok (tagName, colon))
    (hcolon : Json.readColon colon = .ok body) (htag : readTag body = .ok (read, after)) :
    readMembers none (fuel + 1) first text = readMembers (some read) fuel false after := by
  rw [readMembers, hnext]
  simp only [bind, Except.bind, hname, hcolon, htag]
  rfl

theorem readMembers_field {colon body : Text} {found : Option MessageTag} (hother : name ≠ tagName)
    (hnext : Json.nextName first text = .ok (.item start))
    (hname : Json.readString start = .ok (name, colon)) (hcolon : Json.readColon colon = .ok body)
    (hvalue : Json.readValue (Json.nestingLimit - 1) (Json.readFuel text) body = .ok (value, after))
    (hmembers : readMembers tag fuel false after = .ok (found, members, rest)) :
    readMembers tag (fuel + 1) first text = .ok (found, (name, value) :: members, rest) := by
  rw [readMembers, hnext]
  simp only [bind, Except.bind, hname, if_neg hother, hcolon, hvalue, hmembers]

/-- The members are read with the tag taken out. -/
theorem readMembers_tagged {spelling : Text} (h : Tagged read tag members)
    (hspells : Json.SpellsMembers first members spelling)
    (hroom : Json.nestingOfMembers members ≤ Json.nestingLimit - 1)
    (hfuel : spelling.length < fuel) (rest : Text) :
    readMembers tag fuel first (spelling ++ '\x7d' :: rest) =
      .ok (some read, members.filter fun member => member.1 != tagName, rest) := by
  induction h generalizing fuel first spelling with
  | done =>
      cases hspells with
      | nil hgap =>
          cases fuel with
          | zero => cases hfuel
          | succ fuel => exact readMembers_done (Json.nextName_done hgap first rest)
  | tag hread _ ih =>
      cases fuel with
      | zero => cases hfuel
      | succ fuel =>
          rcases hspells.next ('\x7d' :: rest) with ⟨start, colon, after, written, later, hnext,
            hname, hcolon, hafter, hwritten, hmembers, hlength⟩
          cases hwritten with
          | string htext =>
              have htag := readTag_spelled hafter htext hread (later ++ '\x7d' :: rest)
              rw [readMembers_tag hnext hname hcolon htag,
                ih hmembers (Nat.max_le.mp hroom).right (by omega), List.filter_cons,
                if_neg (by simp only [bne_self_eq_false, Bool.false_eq_true, not_false_eq_true])]
  | field hother _ ih =>
      cases fuel with
      | zero => cases hfuel
      | succ fuel =>
          rcases hspells.next ('\x7d' :: rest) with ⟨start, colon, after, written, later, hnext,
            hname, hcolon, hafter, hwritten, hmembers, hlength⟩
          have hnesting := Nat.max_le.mp hroom
          have hlong : written.length <
              Json.readFuel (spelling ++ '\x7d' :: rest) := by
            simp only [Json.readFuel, List.length_append, List.length_cons]
            omega
          have hvalue := Json.readValue_spelled _ written _ _ (later ++ '\x7d' :: rest) hwritten
            hnesting.left hlong (fun _ _ => hmembers.stopsAt rest)
          rw [← Json.readValue_spaces hafter] at hvalue
          rw [readMembers_field hother hnext hname hcolon hvalue
            (ih hmembers hnesting.right (by omega)), List.filter_cons,
            if_pos (bne_iff_ne.mpr hother)]

/-!
# Whole messages
-/

variable {before spelling : Text} {message : Message}

theorem decode_object (hread : messageTag? name = some read)
    (htag : members.filter (Json.named tagName) = [(tagName, .string name)])
    (hfields : ofFields? read
      (.named (members.filter fun member => member.1 != tagName)) = some message)
    (hspells : Json.Spells (.object members) spelling)
    (hroom : (Json.object members).nesting ≤ Json.nestingLimit)
    (hbefore : Json.Spaces before) (hafter : Json.Spaces after) :
    decode (before ++ spelling ++ after) = .ok message := by
  cases hspells with
  | @object _ inner hmembers =>
      have hread := readMembers_tagged (tagged_of_only_tag hread htag) hmembers
        (Nat.le_sub_of_add_le hroom)
        (show inner.length < (inner ++ '\x7d' :: after).length + 1 by
          rw [List.length_append]
          omega) after
      have htagged : readTagged (before ++ '\x7b' :: (inner ++ '\x7d' :: after)) =
          .ok (read, .named (members.filter fun member => member.1 != tagName), after) := by
        unfold readTagged
        rw [Json.skipSpaces_append hbefore, Json.skipSpaces_cons rfl]
        simp only [bind, Except.bind, hread]
      rw [List.append_assoc, List.cons_append, List.append_assoc, List.singleton_append]
      unfold decode
      rw [htagged]
      simp only [bind, Except.bind, hfields, Json.skipSpaces_of_spaces hafter]
      rfl

theorem payload_of_extends {payload : Payload}
    (h : Json.Extends
      (.object [(tagName, .string name), ("payload".toList, payload.toJson)]) value) :
    ∃ members wide, value = .object members ∧
      members.filter (Json.named tagName) = [(tagName, .string name)] ∧
      Fields.values? ["payload".toList]
        (.named (members.filter fun member => member.1 != tagName)) = some [wide] ∧
      Payload.ofJson? wide = some payload := by
  rcases h.carries with ⟨kept, members, rfl, hkept, hcarries⟩
  rcases hkept with _ | ⟨haction, _ | ⟨hpayload, _ | _⟩⟩
  cases haction.eq_string
  have hfound := onlyMember?_filter_of_carries
    (show "payload".toList ≠ tagName by decide) hcarries rfl
  refine ⟨members, _, rfl, hcarries.filter_eq rfl, ?_, Payload.ofJson?_extends hpayload⟩
  simp only [Fields.values?, List.mapM_cons, List.mapM_nil, hfound]
  rfl

theorem ofFields?_extends (h : Json.Extends message.toJson value) :
    ∃ members name read, value = .object members ∧ messageTag? name = some read ∧
      members.filter (Json.named tagName) = [(tagName, .string name)] ∧
      ofFields? read (.named (members.filter fun member => member.1 != tagName)) =
        some message := by
  cases message with
  | toggle =>
      rcases h.carries with ⟨kept, members, rfl, hkept, hcarries⟩
      rcases hkept with _ | ⟨haction, _ | _⟩
      cases haction.eq_string
      exact ⟨members, _, .toggle, rfl, rfl, hcarries.filter_eq rfl, rfl⟩
  | broadcast payload =>
      rcases payload_of_extends h with ⟨members, wide, hvalue, htag, hwide, hpayload⟩
      refine ⟨members, _, .broadcast, hvalue, rfl, htag, ?_⟩
      simp only [ofFields?, hwide, hpayload]
      rfl
  | execute payload =>
      rcases payload_of_extends h with ⟨members, wide, hvalue, htag, hwide, hpayload⟩
      refine ⟨members, _, .execute, hvalue, rfl, htag, ?_⟩
      simp only [ofFields?, hwide, hpayload]
      rfl

/--
A message is decoded from every text that spells an object with its members.  They stand in
any order in the object and in the payload, the tag among them, with members of other names
and any blanks between them.
-/
theorem decoded_from_members_in_any_order (message : Message) {value : Json}
    (hvalue : Json.Extends message.toJson value) (hspells : Json.Spells value spelling)
    (hroom : value.nesting ≤ Json.nestingLimit) (hbefore : Json.Spaces before)
    (hafter : Json.Spaces after) : decode (before ++ spelling ++ after) = .ok message := by
  rcases ofFields?_extends hvalue with ⟨members, name, read, rfl, hread, htag, hfields⟩
  exact decode_object hread htag hfields hspells hroom hbefore hafter

/-- The tags come last, a name is repeated, and a number stands among blanks. -/
theorem decoded_from_members_in_any_order_tags_last :
    decode
        (" \x7b\"payload\":\x7b\"regexString\":\"a\",\"note\":null,\"note\":[],".toList ++
          "\"type\":\"highlight\"\x7d , \"level\": -1.5e3,".toList ++
          "\"action\":\"execute-and-close\"\x7d\n".toList) =
      .ok (execute (.highlight ['a'])) := by
  have hspace : Json.Spaces [' '] := by decide
  have hlevel : Json.SpellsNumber "-1.5e3".toList :=
    .minus (@Json.SpellsMagnitude.parts ['1'] ['5'] _ ['3'] _ false (by decide) (by decide)
      (.point (by decide)) (.unsigned (show 'e' ∈ _ by decide) (by decide)) (by decide +kernel))
  have hpayload : Json.Carries
      [("regexString".toList, .string ['a']), ("note".toList, .null), ("note".toList, .array []),
        ("type".toList, .string "highlight".toList)]
      [("type".toList, .string "highlight".toList), ("regexString".toList, .string ['a'])] :=
    ⟨[("note".toList, .null), ("note".toList, .array [])],
      @List.perm_append_comm _ [_, _, _] [_], by decide⟩
  have hmessage (payload : Json) : Json.Carries
      [("payload".toList, payload), ("level".toList, .number "-1.5e3".toList),
        (tagName, .string "execute-and-close".toList)]
      [(tagName, .string "execute-and-close".toList), ("payload".toList, payload)] :=
    ⟨[("level".toList, .number "-1.5e3".toList)],
      @List.perm_append_comm _ [_, _] [_],
      List.forall_mem_singleton.mpr (List.forall_mem_cons.mpr
        ⟨show "level".toList ≠ tagName by decide,
          List.forall_mem_singleton.mpr (show "level".toList ≠ "payload".toList by decide)⟩)⟩
  have hquoted := Json.spellsText_quote
  have hdecoded := decoded_from_members_in_any_order (execute (.highlight ['a']))
    (.object (.cons (.same _) (.cons (.object (Json.extendsMembers_refl _) hpayload) .nil))
      (hmessage _))
    (.object (.cons Json.spaces_nil Json.spaces_nil (hquoted _) Json.spaces_nil Json.spaces_nil
      (Json.spells_compact _ rfl)
      (.cons hspace hspace (hquoted _) Json.spaces_nil hspace (.number hlevel)
        (.cons Json.spaces_nil Json.spaces_nil (hquoted _) Json.spaces_nil Json.spaces_nil
          (.string (hquoted _)) (.nil Json.spaces_nil)))))
    (by decide) hspace (show Json.Spaces ['\n'] by decide)
  refine (congrArg decode ?_).trans hdecoded
  decide +kernel

end Message
end LinePalette
