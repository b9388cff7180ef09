import LinePalette.Pattern.Bracket

/-!
# Reading patterns

The reader goes through the text once, from left to right.  It keeps one level
for every open group: the alternatives already finished and the items of the
current one.  Flags that are set inside a group last until the group ends.

Each item has a depth, which counts the groups, repetitions, lists and
alternatives around its innermost element; a pattern that is nested too deeply
is refused.
-/

namespace LinePalette
namespace Pattern

/-- One item of a sequence.  A setting of flags is an item that cannot be repeated. -/
structure Item where
  regex : Regex
  depth : Nat
  repeatable : Bool

structure Level where
  alternatives : List Item
  items : List Item

def Level.start : Level := { alternatives := [], items := [] }

structure OpenGroup where
  /-- The number of the group, if it captures. -/
  index : Option Nat
  outside : Level
  /-- The flags to return to when the group ends. -/
  flags : Flags

structure Builder where
  level : Level
  groups : List OpenGroup
  flags : Flags
  /-- How many capture groups have been opened. -/
  captures : Nat
  names : List Text

def Builder.start : Builder :=
  { level := Level.start, groups := [], flags := Flags.initial, captures := 0, names := [] }

/-!
# Levels
-/

def Level.sequence (level : Level) : Item :=
  { regex := Regex.sequence (level.items.reverse.map Item.regex),
    depth := listDepth (level.items.map Item.depth),
    repeatable := true }

def Level.choice (level : Level) : Item :=
  let all := level.sequence :: level.alternatives
  { regex := Regex.choice (all.reverse.map Item.regex),
    depth := listDepth (all.map Item.depth),
    repeatable := true }

def Level.add (level : Level) (item : Item) : Level :=
  { level with items := item :: level.items }

def Level.alternate (level : Level) : Level :=
  { alternatives := level.sequence :: level.alternatives, items := [] }

def Builder.add (builder : Builder) (regex : Regex) (depth : Nat) : Builder :=
  { builder with
    level := builder.level.add { regex := regex, depth := depth, repeatable := true } }

/-!
# Elements
-/

def elementRegex (flags : Flags) (element : Element) : Except PatternError Regex :=
  match element with
  | .char c asByte =>
      if flags.unicode || c.toNat < 0x80 then
        .ok (.oneOf (flags.fold (CharSet.singleton c)))
      else if asByte then
        .error .notText
      else
        .ok (.oneOf (CharSet.singleton c))
  | .oneOf set => .ok (.oneOf set)
  | .look assertion => .ok (.look assertion)

def dotSet (flags : Flags) : Except PatternError CharSet :=
  if !flags.unicode then
    .error .notText
  else if flags.dotAll then
    .ok (CharSet.range 0 CharSet.lastCode)
  else if flags.crlf then
    .ok (CharSet.complement ⟨[(10, 10), (13, 13)]⟩)
  else
    .ok (CharSet.complement ⟨[(10, 10)]⟩)

def lineStartAssertion (flags : Flags) : Assertion :=
  if flags.multiLine then (if flags.crlf then .crlfLineStart else .lineStart) else .textStart

def lineStopAssertion (flags : Flags) : Assertion :=
  if flags.multiLine then (if flags.crlf then .crlfLineStop else .lineStop) else .textStop

/-!
# Repetition
-/

/-- The last item repeated, with a question mark making it lazy. -/
def Builder.repeatLast (builder : Builder) (low : Nat) (high : Option Nat) (after : Text) :
    Except PatternError (Builder × Text) :=
  match builder.level.items with
  | [] => .error .nothingToRepeat
  | last :: earlier =>
      if !last.repeatable then
        .error .nothingToRepeat
      else
        let (lazy, rest) :=
          match after with
          | '?' :: rest => (true, rest)
          | _ => (false, after)
        let greedy := if builder.flags.swapGreed then lazy else !lazy
        let item : Item :=
          { regex := Regex.repeated last.regex low high greedy,
            depth := 1 + last.depth,
            repeatable := true }
        .ok ({ builder with level := { builder.level with items := item :: earlier } }, rest)

def readBounds (flags : Flags) (text : Text) :
    Except PatternError (Nat × Option Nat × Text) := do
  let (low, afterLow) ← readCount flags (flags.skip text)
  let (high, close) ←
    match afterLow with
    | ',' :: rest =>
        match flags.skip rest with
        | '}' :: rest => .ok (none, '}' :: rest)
        | rest => do
            let (high, after) ← readCount flags rest
            .ok (some high, after)
    | _ => .ok (some low, afterLow)
  match close with
  | '}' :: after =>
      if high.all (low ≤ ·) then .ok (low, high, flags.skip after) else .error .repetitionCount
  | _ => .error .repetitionCount

/-!
# Groups
-/

def isNameStart (c : Char) : Bool :=
  c == '_' || Unicode.alphabetic.contains c.toNat

def isNamePart (c : Char) : Bool :=
  c == '_' || c == '.' || c == '[' || c == ']' || Unicode.alphanumeric.contains c.toNat

def readName (names : List Text) (text : Text) : Except PatternError (Text × Text) :=
  let name := text.takeWhile (· != '>')
  match text.drop name.length, name with
  | _ :: after, first :: others =>
      if isNameStart first && others.all isNamePart && !names.contains name then
        .ok (name, after)
      else
        .error .groupName
  | _, _ => .error .groupName

/-- The letters of a flag setting applied one by one; a hyphen turns to switching off. -/
def applyFlags : Bool -> List Char -> Flags -> Text -> Except PatternError Flags
  | _, _, flags, [] => .ok flags
  | on, seen, flags, c :: rest =>
      if seen.contains c then
        .error .groupFlags
      else if c = '-' then
        if rest.isEmpty then .error .groupFlags else applyFlags false (c :: seen) flags rest
      else
        match flags.switch? c on with
        | some switched => applyFlags on (c :: seen) switched rest
        | none => .error .groupFlags

def Builder.openGroup (builder : Builder) (index : Option Nat) (inside : Flags) : Builder :=
  { builder with
    level := Level.start,
    groups :=
      { index := index, outside := builder.level, flags := builder.flags } :: builder.groups,
    flags := inside }

def Builder.openCapture (builder : Builder) : Builder :=
  let index := builder.captures + 1
  { builder.openGroup (some index) builder.flags with captures := index }

def readSettings (builder : Builder) (text : Text) : Except PatternError (Builder × Text) :=
  let letters := text.takeWhile fun c => c != ':' && c != ')'
  match text.drop letters.length with
  | ':' :: after => do
      let flags ← applyFlags true [] builder.flags letters
      .ok (builder.openGroup none flags, after)
  | _ :: after =>
      if letters.isEmpty then
        .error .nothingToRepeat
      else do
        let flags ← applyFlags true [] builder.flags letters
        let item : Item := { regex := .empty, depth := 0, repeatable := false }
        .ok ({ builder with level := builder.level.add item, flags := flags }, after)
  | [] => .error .unclosedGroup

def startsWithAny (leads : List String) (text : Text) : Bool :=
  leads.any fun lead => (Text.stripLeading? lead.toList text).isSome

def readOpening (builder : Builder) (text : Text) : Except PatternError (Builder × Text) :=
  let inner := builder.flags.skip text
  if startsWithAny ["?=", "?!", "?<=", "?<!"] inner then
    .error .lookAround
  else
    match (Text.stripLeading? "?P<".toList inner).or (Text.stripLeading? "?<".toList inner) with
    | some named => do
        let (name, after) ← readName builder.names named
        .ok ({ builder.openCapture with names := name :: builder.names }, after)
    | none =>
        match inner with
        | '?' :: settings => readSettings builder settings
        | _ => .ok (builder.openCapture, inner)

def Builder.closeGroup (builder : Builder) : Except PatternError Builder :=
  match builder.groups with
  | [] => .error .unopenedGroup
  | group :: groups =>
      let inner := builder.level.choice
      let regex :=
        match group.index with
        | some index => Regex.group index inner.regex
        | none => inner.regex
      let item : Item := { regex := regex, depth := 1 + inner.depth, repeatable := true }
      .ok { builder with level := group.outside.add item, groups := groups, flags := group.flags }

/-!
# The whole pattern
-/

def readStep (builder : Builder) (c : Char) (rest : Text) :
    Except PatternError (Builder × Text) :=
  let flags := builder.flags
  match c with
  | '(' => readOpening builder rest
  | ')' => do
      let closed ← builder.closeGroup
      .ok (closed, rest)
  | '|' => .ok ({ builder with level := builder.level.alternate }, rest)
  | '[' => do
      let (part, after) ← readBracket flags rest
      .ok (builder.add (.oneOf part.set) part.depth, after)
  | '?' => builder.repeatLast 0 (some 1) rest
  | '*' => builder.repeatLast 0 none rest
  | '+' => builder.repeatLast 1 none rest
  | '{' =>
      if builder.level.items.isEmpty then
        .error .nothingToRepeat
      else do
        let (low, high, after) ← readBounds flags rest
        builder.repeatLast low high after
  | '.' => do
      let set ← dotSet flags
      .ok (builder.add (.oneOf set) 0, rest)
  | '^' => .ok (builder.add (.look (lineStartAssertion flags)) 0, rest)
  | '$' => .ok (builder.add (.look (lineStopAssertion flags)) 0, rest)
  | '\\' => do
      let (element, after) ← readEscape flags rest
      let regex ← elementRegex flags element
      .ok (builder.add regex 0, after)
  | _ => do
      let regex ← elementRegex flags (.char c false)
      .ok (builder.add regex 0, rest)

def readSteps : Nat -> Builder -> Text -> Except PatternError Builder
  | 0, builder, _ => .ok builder
  | fuel + 1, builder, text =>
      match builder.flags.skip text with
      | [] => .ok builder
      | c :: rest => do
          let (next, after) ← readStep builder c rest
          readSteps fuel next after

/-- The most nodes that may stand above an element. -/
def depthLimit : Nat := 250

def readRegex (text : Text) : Except PatternError Regex := do
  let builder ← readSteps (text.length + 1) Builder.start text
  if !builder.groups.isEmpty then
    .error .unclosedGroup
  else
    let whole := builder.level.choice
    if whole.depth > depthLimit then
      .error .tooDeep
    else if whole.regex.size > Regex.sizeLimit then
      .error .tooLarge
    else
      .ok whole.regex

end Pattern
end LinePalette
