import LinePalette.Json.Reader
import LinePalette.Palette.Source

/-!
# Messages

A palette tells its surroundings what to do with a message, and messages travel
as JSON objects.  A tag in the object says which kind of message it is, and the
other members are its fields.  Reading is lenient: members come in any order,
unknown ones are ignored, and a list of the tag and the fields in their order
stands for the object.

The tag of a message is judged as soon as it has been read, so a wrong tag is
reported even when the text behind it is malformed.  Everything else is judged
when the whole object has been read.
-/

namespace LinePalette

inductive Payload where
  | highlight (regex : Text)
  | write (buffer : List Text) (source : Source)
deriving Repr, DecidableEq

inductive Message where
  /-- Open the palette. -/
  | toggle
  /-- Sent by a palette to be forwarded to every frame. -/
  | broadcast (payload : Payload)
  /-- Forwarded to a frame, which does the work. -/
  | execute (payload : Payload)
deriving Repr, DecidableEq

/-- What is forwarded to the frames for a message, if anything. -/
def Message.relay? : Message -> Option Message
  | toggle => none
  | broadcast payload => some (execute payload)
  | execute _ => none

/-!
# Writing
-/

def Payload.toJson : Payload -> Json
  | highlight regex =>
      .object
        [("type".toList, .string "highlight".toList), ("regexString".toList, .string regex)]
  | write buffer source =>
      .object
        [("type".toList, .string "write".toList), ("buffer".toList, Json.ofTexts buffer),
          ("sessionMode".toList, .string source.wireName)]

def Message.toJson : Message -> Json
  | toggle => .object [("action".toList, .string "toggle-palette".toList)]
  | broadcast payload =>
      .object
        [("action".toList, .string "broadcast-and-close".toList),
          ("payload".toList, payload.toJson)]
  | execute payload =>
      .object
        [("action".toList, .string "execute-and-close".toList), ("payload".toList, payload.toJson)]

def Message.compact (message : Message) : Text := message.toJson.compact

/-!
# Fields

The fields behind a tag, either by name or in their order.
-/

inductive Fields where
  | named (members : List (Text × Json))
  | ordered (items : List Json)

def onlyMember? (name : Text) (members : List (Text × Json)) : Option Json :=
  match members.filter fun (known, _) => known == name with
  | [(_, value)] => some value
  | _ => none

def Fields.values? (names : List Text) : Fields -> Option (List Json)
  | named members => names.mapM fun name => onlyMember? name members
  | ordered items => if items.length = names.length then some items else none

def textOfJson? : Json -> Option Text
  | .string text => some text
  | _ => none

def textsOfJson? : Json -> Option (List Text)
  | .array items => items.mapM textOfJson?
  | _ => none

/-- A source by its name, or by an object whose only member has its name and nothing in it. -/
def sourceOfJson? : Json -> Option Source
  | .string name => Source.ofWireName? name
  | .object [(name, .null)] => Source.ofWireName? name
  | .object [(name, .object [])] => Source.ofWireName? name
  | _ => none

/-!
# Payloads
-/

inductive PayloadTag where
  | highlight
  | write
deriving Repr, DecidableEq

/-- The tag of a payload is a name or a place in the list of names. -/
def payloadTag? : Json -> Option PayloadTag
  | .string name =>
      if name = "highlight".toList then some .highlight
      else if name = "write".toList then some .write
      else none
  | .number literal =>
      if literal = ['0'] then some .highlight
      else if literal = ['1'] then some .write
      else none
  | _ => none

def Payload.ofFields? (tag : PayloadTag) (fields : Fields) : Option Payload :=
  match tag with
  | .highlight =>
      match fields.values? ["regexString".toList] with
      | some [regex] => (textOfJson? regex).map highlight
      | _ => none
  | .write =>
      match fields.values? ["buffer".toList, "sessionMode".toList] with
      | some [buffer, source] =>
          match textsOfJson? buffer, sourceOfJson? source with
          | some buffer, some source => some (write buffer source)
          | _, _ => none
      | _ => none

def Payload.ofJson? : Json -> Option Payload
  | .object members =>
      match (onlyMember? "type".toList members).bind payloadTag? with
      | some tag =>
          ofFields? tag (.named (members.filter fun (name, _) => name != "type".toList))
      | none => none
  | .array (tag :: items) => (payloadTag? tag).bind fun tag => ofFields? tag (.ordered items)
  | _ => none

/-!
# Reading
-/

inductive MessageTag where
  | toggle
  | broadcast
  | execute
deriving Repr, DecidableEq

def messageTag? (name : Text) : Option MessageTag :=
  if name = "toggle-palette".toList then some .toggle
  else if name = "broadcast-and-close".toList then some .broadcast
  else if name = "execute-and-close".toList then some .execute
  else none

def Message.ofFields? (tag : MessageTag) (fields : Fields) : Option Message :=
  let payload? : Option Payload :=
    match fields.values? ["payload".toList] with
    | some [payload] => Payload.ofJson? payload
    | _ => none
  match tag, fields with
  | .toggle, .named _ => some toggle
  | .toggle, .ordered items => if items.isEmpty then some toggle else none
  | .broadcast, _ => payload?.map broadcast
  | .execute, _ => payload?.map execute

namespace Message

/-- A tag where a message is being read: nothing but one of the three names. -/
def readTag (text : Text) : Except JsonFault (MessageTag × Text) := do
  match Json.skipSpaces text with
  | '[' :: _ => .error .wrongShape
  | '\x7b' :: _ => .error .wrongShape
  | start => do
      let (value, after) ← Json.readValue 0 1 start
      match (textOfJson? value).bind messageTag? with
      | some tag => .ok (tag, after)
      | none => .error .wrongShape

def tagName : Text := "action".toList

def readMembers (tag : Option MessageTag) :
    Nat -> Bool -> Text ->
      Except JsonFault (Option MessageTag × List (Text × Json) × Text)
  | 0, _, _ => .error .cutOff
  | fuel + 1, first, text => do
      match ← Json.nextName first text with
      | .done rest => .ok (tag, [], rest)
      | .item rest =>
          let (name, after) ← Json.readString rest
          if name = tagName then
            if tag.isSome then
              .error .wrongShape
            else
              let afterColon ← Json.readColon after
              let (read, after) ← readTag afterColon
              readMembers (some read) fuel false after
          else
            let afterColon ← Json.readColon after
            let (value, after) ←
              Json.readValue (Json.nestingLimit - 1) (Json.readFuel text) afterColon
            let (tag, members, after) ← readMembers tag fuel false after
            .ok (tag, (name, value) :: members, after)

def readTagged (text : Text) : Except JsonFault (MessageTag × Fields × Text) :=
  match Json.skipSpaces text with
  | '\x7b' :: rest => do
      match ← readMembers none (rest.length + 1) true rest with
      | (some tag, members, after) => .ok (tag, .named members, after)
      | (none, _, _) => .error .wrongShape
  | '[' :: rest => do
      match ← Json.nextItem true rest with
      | .done _ => .error .wrongShape
      | .item rest =>
          let (tag, after) ← readTag rest
          let (items, after) ←
            Json.readItems (Json.nestingLimit - 1) (Json.readFuel rest) false after
          .ok (tag, .ordered items, after)
  | start => do
      let _ ← Json.readValue 0 1 start
      .error .wrongShape

def decode (text : Text) : Except JsonFault Message := do
  let (tag, fields, after) ← readTagged text
  match ofFields? tag fields with
  | none => .error .wrongShape
  | some message =>
      if (Json.skipSpaces after).isEmpty then .ok message else .error .malformed

end Message
end LinePalette
