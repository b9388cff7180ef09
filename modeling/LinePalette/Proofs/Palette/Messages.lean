import LinePalette.Proofs.Palette.Decoding

/-!
# Messages on the wire

A message is decoded from its compact text as it was sent, so no two messages have
the same text.  Forwarding turns a broadcast into an order, which is not forwarded
again.
-/

namespace LinePalette

/-!
# Written values

What is written for a message holds no numbers, and little is nested in it.
-/

namespace Payload

theorem literals_toJson (payload : Payload) : payload.toJson.literals = [] := by
  cases payload with
  | highlight regex => rfl
  | write buffer source =>
      show (Json.ofTexts buffer).literals ++ [] = []
      rw [Json.literals_ofTexts, List.append_nil]

theorem nesting_toJson (payload : Payload) : payload.toJson.nesting ≤ 2 := by
  cases payload with
  | highlight regex => exact Nat.le_succ 1
  | write buffer source =>
      show max 0 (max (Json.ofTexts buffer).nesting (max 0 0)) + 1 ≤ 2
      rw [Json.nesting_ofTexts]
      exact Nat.le_refl 2

end Payload

namespace Message

theorem literals_toJson (message : Message) : message.toJson.literals = [] := by
  cases message with
  | toggle => rfl
  | broadcast payload =>
      show payload.toJson.literals ++ [] = []
      rw [payload.literals_toJson, List.append_nil]
  | execute payload =>
      show payload.toJson.literals ++ [] = []
      rw [payload.literals_toJson, List.append_nil]

theorem nesting_toJson (message : Message) : message.toJson.nesting ≤ Json.nestingLimit := by
  have hpayload (payload : Payload) :
      max 0 (max payload.toJson.nesting 0) + 1 ≤ Json.nestingLimit := by
    rw [Nat.zero_max, Nat.max_zero]
    exact Nat.le_trans (Nat.succ_le_succ payload.nesting_toJson) (by decide)
  cases message with
  | toggle => exact Nat.le_of_ble_eq_true rfl
  | broadcast payload => exact hpayload payload
  | execute payload => exact hpayload payload

/-!
# Compact texts
-/

theorem decode_compact (message : Message) : decode message.compact = .ok message := by
  rcases ofFields?_extends (Json.Extends.same message.toJson) with
    ⟨members, name, read, hobject, hread, htag, hfields⟩
  have hspells := Json.spells_compact message.toJson message.literals_toJson
  have hroom := message.nesting_toJson
  rw [hobject] at hspells hroom
  have hdecode := decode_object hread htag hfields hspells hroom Json.spaces_nil Json.spaces_nil
  rw [← hobject, List.nil_append, List.append_nil] at hdecode
  exact hdecode

theorem compact_injective {message other : Message} (h : message.compact = other.compact) :
    message = other := by
  have hmessage := decode_compact message
  rw [h, decode_compact other] at hmessage
  cases hmessage
  rfl

theorem printable_compact (message : Message) : Json.Printable message.compact := by
  apply Json.printable_compact
  rw [message.literals_toJson]
  intro literal hliteral
  cases hliteral

/-!
# Forwarding
-/

theorem relay?_eq_some_iff {message forwarded : Message} :
    message.relay? = some forwarded ↔
      ∃ payload, message = broadcast payload ∧ forwarded = execute payload := by
  constructor
  · intro h
    cases message with
    | toggle => cases h
    | broadcast payload =>
        cases h
        exact ⟨payload, rfl, rfl⟩
    | execute payload => cases h
  · rintro ⟨payload, rfl, rfl⟩
    rfl

/--
A message is decoded from its text, which no other message has and which holds no
control character.  What is forwarded for a message is the order with the payload
of a broadcast, and nothing is forwarded for that.
-/
theorem decoded_from_own_text_and_relayed_once (message : Message) :
    decode message.compact = .ok message ∧
      (∀ c ∈ message.compact, 0x20 ≤ c.toNat) ∧
      (∀ other : Message, other.compact = message.compact -> other = message) ∧
      (∀ forwarded : Message,
        message.relay? = some forwarded ↔
          ∃ payload, message = broadcast payload ∧ forwarded = execute payload) ∧
      ∀ forwarded : Message, message.relay? = some forwarded -> forwarded.relay? = none := by
  refine ⟨decode_compact message, ?_, ?_, ?_, ?_⟩
  · intro c hc
    exact Nat.le_of_not_lt (printable_compact message c hc)
  · intro other hother
    exact compact_injective hother
  · intro forwarded
    exact relay?_eq_some_iff
  · intro forwarded hforwarded
    rcases relay?_eq_some_iff.mp hforwarded with ⟨payload, _, rfl⟩
    rfl

theorem decoded_from_own_text_and_relayed_once_escapes :
    let payload : Payload := .write [['"', '\\', '\x01']] .editable
    let text :=
      ("\x7b\"action\":\"broadcast-and-close\",\"payload\":\x7b\"type\":\"write\"," ++
        "\"buffer\":[\"\\\"\\\\\\u0001\"],\"sessionMode\":\"textfield-editable\"\x7d\x7d").toList
    decode text = .ok (broadcast payload) ∧ (broadcast payload).relay? = some (execute payload) ∧
      (execute payload).relay? = none := by
  intro payload text
  have htext : (broadcast payload).compact = text := by decide +kernel
  rcases decoded_from_own_text_and_relayed_once (broadcast payload) with
    ⟨hdecode, _, _, hrelay, honce⟩
  have hforwarded := (hrelay (execute payload)).mpr ⟨payload, rfl, rfl⟩
  rw [htext] at hdecode
  exact ⟨hdecode, hforwarded, honce _ hforwarded⟩

end Message
end LinePalette
