import LinePalette.Text.Blank

/-!
# Markup

Editable markup and the lines a reader of it sees.  A `br` tag and the end of a
block element break the line, every other tag is dropped, and an opening angle
bracket that nothing closes is text.  Written markup escapes the characters that
markup gives a meaning to and separates lines with `br` tags.
-/

namespace LinePalette
namespace Markup

/-!
# Entities
-/

def entities : List (Text × Char) :=
  [
    ("&lt;".toList, '<'),
    ("&gt;".toList, '>'),
    ("&quot;".toList, '"'),
    ("&#39;".toList, '\''),
    ("&nbsp;".toList, '\u00a0'),
    ("&amp;".toList, '&')
  ]

/-- The character of the entity that a text starts with, and how long the entity is. -/
def leadingEntity? (text : Text) : Option (Char × Nat) :=
  entities.findSome? fun (entity, c) =>
    if entity.isPrefixOf text then some (c, entity.length) else none

/-- The text with its entities decoded once, where the first `skip` characters are used up. -/
def decodeFrom : Nat -> Text -> Text
  | _, [] => []
  | skip + 1, _ :: rest => decodeFrom skip rest
  | 0, c :: rest =>
      match leadingEntity? (c :: rest) with
      | some (decoded, length) => decoded :: decodeFrom (length - 1) rest
      | none => c :: decodeFrom 0 rest

def decodeEntities (text : Text) : Text := decodeFrom 0 text

def escapeChar (c : Char) : Text :=
  if c = '&' then "&amp;".toList
  else if c = '<' then "&lt;".toList
  else if c = '>' then "&gt;".toList
  else [c]

def escape (text : Text) : Text := text.flatMap escapeChar

/-!
# Tags
-/

/-- Elements whose end breaks the line. -/
def blockElements : List Text :=
  ["p".toList, "div".toList, "pre".toList, "h1".toList, "h2".toList, "h3".toList, "h4".toList,
    "h5".toList, "h6".toList]

/-- The text of a tag without blanks around it and without a leading slash, if it has one. -/
def tagBody (tag : Text) : Bool × Text :=
  match Text.trim tag with
  | '/' :: body => (true, body)
  | body => (false, body)

def tagName (body : Text) : Text := (body.takeWhile Char.isAlphanum).map Char.toLower

def breaksLine (tag : Text) : Bool :=
  let (closing, body) := tagBody tag
  let name := tagName body
  name == "br".toList || (closing && blockElements.contains name)

def tagText (tag : Text) : Text := if breaksLine tag then ['\n'] else []

def splitAtClose? : Text -> Option (Text × Text)
  | [] => none
  | c :: rest =>
      if c = '>' then
        some ([], rest)
      else
        (splitAtClose? rest).map fun (tag, after) => (c :: tag, after)

/-- The markup without its tags, where the first `skip` characters are used up. -/
def stripFrom : Nat -> Text -> Text
  | _, [] => []
  | skip + 1, _ :: rest => stripFrom skip rest
  | 0, c :: rest =>
      if c = '<' then
        match splitAtClose? rest with
        | some (tag, _) => tagText tag ++ stripFrom (tag.length + 1) rest
        | none => c :: rest
      else
        c :: stripFrom 0 rest

def stripTags (markup : Text) : Text := stripFrom 0 markup

/-!
# Lines
-/

def toLines (markup : Text) : List Text :=
  Text.splitOn '\n' (Text.trim (decodeEntities (stripTags markup)))

def lineBreak : Text := "<br>".toList

def ofLines (lines : List Text) : Text := Text.join lineBreak (lines.map escape)

end Markup
end LinePalette
