import LinePalette.Pattern.Escape

/-!
# Bracketed classes

A bracketed class lists characters, ranges, short classes and further bracketed
classes, and combines what it has listed with set operations that group to the
left.  The reader keeps one level for each open bracket.  Next to its set, a
class has a depth, which counts how deeply its brackets, lists and operations
are nested.
-/

namespace LinePalette
namespace Pattern

inductive SetOperation where
  | inter
  | diff
  | symmDiff
deriving Repr, DecidableEq

def SetOperation.apply (operation : SetOperation) (left right : CharSet) : CharSet :=
  match operation with
  | inter => left.inter right
  | diff => left.diff right
  | symmDiff => left.symmDiff right

/-- A set with the depth of the class that spells it. -/
structure ClassPart where
  set : CharSet
  depth : Nat
deriving Repr, DecidableEq

structure BracketLevel where
  negated : Bool
  /-- The left side of an operation whose right side is being read. -/
  pending : Option (SetOperation × ClassPart)
  /-- The members since the last operation, latest first. -/
  members : List ClassPart

/-- The depth of a node above children of the given depths; a lone child needs no node. -/
def listDepth : List Nat -> Nat
  | [] => 0
  | [only] => only
  | depths => 1 + depths.foldl max 0

def BracketLevel.list (level : BracketLevel) : ClassPart :=
  { set := CharSet.unions (level.members.reverse.map ClassPart.set),
    depth := listDepth (level.members.map ClassPart.depth) }

def BracketLevel.value (flags : Flags) (level : BracketLevel) : ClassPart :=
  let right := level.list
  match level.pending with
  | none => right
  | some (operation, left) =>
      { set := operation.apply (flags.fold left.set) (flags.fold right.set),
        depth := 1 + max left.depth right.depth }

def BracketLevel.add (level : BracketLevel) (part : ClassPart) : BracketLevel :=
  { level with members := part :: level.members }

def BracketLevel.operate (flags : Flags) (level : BracketLevel) (operation : SetOperation) :
    BracketLevel :=
  { level with pending := some (operation, level.value flags), members := [] }

def BracketLevel.close (flags : Flags) (level : BracketLevel) :
    Except PatternError ClassPart := do
  let value := level.value flags
  let set ← flags.finish level.negated value.set
  .ok { set := set, depth := 1 + value.depth }

/-!
# Members
-/

def asciiClass? (name : Text) : Option CharSet :=
  let table : List (String × String) :=
    [("alnum", "30-39 41-5A 61-7A"), ("alpha", "41-5A 61-7A"), ("ascii", "0-7F"),
     ("blank", "9 20"), ("cntrl", "0-1F 7F"), ("digit", "30-39"), ("graph", "21-7E"),
     ("lower", "61-7A"), ("print", "20-7E"), ("punct", "21-2F 3A-40 5B-60 7B-7E"),
     ("space", "9-D 20"), ("upper", "41-5A"), ("word", "30-39 41-5A 5F 61-7A"),
     ("xdigit", "30-39 41-46 61-66")]
  (table.find? fun (known, _) => known.toList == name).map fun (_, codes) => CharSet.ofTable codes

/--
A class with an ASCII name, such as `[:alpha:]`, whose text starts after the
bracket.  Anything else that starts the same way is an ordinary nested class.
-/
def readNamedClass? (text : Text) : Option (Bool × CharSet × Text) :=
  match text with
  | ':' :: rest =>
      let (negated, body) :=
        match rest with
        | '^' :: body => (true, body)
        | _ => (false, rest)
      let name := body.takeWhile (· != ':')
      match body.drop name.length with
      | ':' :: ']' :: after => (asciiClass? name).map fun set => (negated, set, after)
      | _ => none
  | _ => none

def readMember (flags : Flags) (text : Text) : Except PatternError (Element × Text) :=
  match text with
  | [] => .error .unclosedClass
  | '\\' :: rest => readEscape flags rest
  | c :: rest => .ok (.char c false, rest)

/-- The code a character contributes to a class; without the Unicode flag, ASCII only. -/
def memberCode (flags : Flags) (c : Char) : Except PatternError Nat :=
  if flags.unicode || c.toNat < 0x80 then .ok c.toNat else .error .notText

def memberSet (flags : Flags) (element : Element) : Except PatternError CharSet :=
  match element with
  | .char c _ => do
      let code ← memberCode flags c
      .ok (CharSet.range code code)
  | .oneOf set => .ok set
  | .look _ => .error .classMember

def rangeSet (flags : Flags) (first last : Element) : Except PatternError CharSet :=
  match first, last with
  | .char low _, .char high _ =>
      if low.toNat ≤ high.toNat then do
        let a ← memberCode flags low
        let b ← memberCode flags high
        .ok (CharSet.range a b)
      else
        .error .classRange
  | _, _ => .error .classRange

/--
A member or a range of members.  A hyphen before the closing bracket or before
another hyphen makes no range.
-/
def readRange (flags : Flags) (text : Text) : Except PatternError (ClassPart × Text) := do
  let (first, afterFirst) ← readMember flags text
  let rest := flags.skip afterFirst
  match rest with
  | [] => .error .unclosedClass
  | c :: _ =>
      let past := flags.peek rest
      if c != '-' || past == some ']' || past == some '-' then
        let set ← memberSet flags first
        .ok ({ set := set, depth := 0 }, rest)
      else
        match flags.next rest with
        | [] => .error .unclosedClass
        | second =>
            let (last, after) ← readMember flags second
            let set ← rangeSet flags first last
            .ok ({ set := set, depth := 0 }, after)

/-!
# Opening
-/

/-- Hyphens that open a class stand for themselves. -/
def takeHyphens (flags : Flags) : Nat -> Text -> List ClassPart × Text
  | 0, text => ([], text)
  | fuel + 1, text =>
      match text with
      | '-' :: rest =>
          let (parts, after) := takeHyphens flags fuel (flags.skip rest)
          ({ set := CharSet.singleton '-', depth := 0 } :: parts, after)
      | _ => ([], text)

def openBracket (flags : Flags) (text : Text) : Except PatternError (BracketLevel × Text) :=
  let inner := flags.skip text
  let (negated, body) :=
    match inner with
    | '^' :: rest => (true, flags.skip rest)
    | _ => (false, inner)
  let (hyphens, afterHyphens) := takeHyphens flags body.length body
  let (members, after) : List ClassPart × Text :=
    match hyphens, afterHyphens with
    | [], ']' :: rest => ([{ set := CharSet.singleton ']', depth := 0 }], flags.skip rest)
    | _, _ => (hyphens, afterHyphens)
  if after.isEmpty then
    .error .unclosedClass
  else
    .ok ({ negated := negated, pending := none, members := members }, after)

/-!
# The whole class
-/

def operationOf? (text : Text) : Option (SetOperation × Text) :=
  match text with
  | '&' :: '&' :: rest => some (.inter, rest)
  | '-' :: '-' :: rest => some (.diff, rest)
  | '~' :: '~' :: rest => some (.symmDiff, rest)
  | _ => none

def readLevels (flags : Flags) :
    Nat -> BracketLevel -> List BracketLevel -> Text -> Except PatternError (ClassPart × Text)
  | 0, _, _, _ => .error .unclosedClass
  | fuel + 1, level, outer, unskipped =>
      match flags.skip unskipped with
      | [] => .error .unclosedClass
      | c :: rest =>
          if c = ']' then do
            let part ← level.close flags
            match outer with
            | [] => .ok (part, rest)
            | parent :: outer => readLevels flags fuel (parent.add part) outer rest
          else if c = '[' then
            match readNamedClass? rest with
            | some (negated, set, after) => do
                let finished ← flags.finish negated set
                readLevels flags fuel (level.add { set := finished, depth := 0 }) outer after
            | none => do
                let (inner, after) ← openBracket flags rest
                readLevels flags fuel inner (level :: outer) after
          else
            match operationOf? (c :: rest) with
            | some (operation, after) =>
                readLevels flags fuel (level.operate flags operation) outer after
            | none => do
                let (part, after) ← readRange flags (c :: rest)
                readLevels flags fuel (level.add part) outer after

def readBracket (flags : Flags) (text : Text) : Except PatternError (ClassPart × Text) := do
  let (level, after) ← openBracket flags text
  readLevels flags (text.length + 1) level [] after

end Pattern
end LinePalette
