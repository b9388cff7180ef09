import LinePalette.Proofs.Editor.Bounds

/-!
# Editing in place

The editor as a machine that changes its buffer line by line.  A line is touched
through its index, a stretch of lines through its ends, and both must lie inside
the buffer; numbers must fit into words.  What a step has changed before it fails
stays changed.  Nothing here repairs an index: a step that breaks a bound halts.
-/

namespace LinePalette
namespace InPlace

/-!
# Steps
-/

/-- Why a step stops without an answer. -/
inductive Halt where
  /-- The line asks for something that cannot be done. -/
  | refused (error : EditError)
  /-- A line outside the buffer was touched. -/
  | outOfBounds
  /-- A number left the range of words, or had to be divided by zero. -/
  | arithmetic
deriving Repr, DecidableEq

abbrev Step := EStateM Halt Editor

def refuse {α : Type} (error : EditError) : Step α := throw (.refused error)

/-!
# Numbers

Whole numbers are words that reach up to a limit, and one further below zero.
Counts of lines are natural numbers, so only their differences can fail.
-/

def whole (limit : Nat) (n : Int) : Step Int :=
  if -(limit : Int) - 1 ≤ n ∧ n ≤ limit then pure n else throw .arithmetic

def difference (left right : Nat) : Step Nat :=
  if right ≤ left then pure (left - right) else throw .arithmetic

def remainder (n divisor : Nat) : Step Nat :=
  if divisor = 0 then throw .arithmetic else pure (n % divisor)

/-!
# Lines
-/

def lineAt (index : Nat) : Step Text := do
  let editor ← get
  match editor.buffer[index]? with
  | some line => pure line
  | none => throw .outOfBounds

def setLine (index : Nat) (line : Text) : Step Unit := do
  let editor ← get
  if index < editor.buffer.length then
    set { editor with buffer := editor.buffer.set index line }
  else
    throw .outOfBounds

def linesBetween (first last : Nat) : Step (List Text) := do
  let editor ← get
  if first ≤ last + 1 ∧ last < editor.buffer.length then
    pure (editor.buffer.between first last)
  else
    throw .outOfBounds

def splice (first stop : Nat) (lines : List Text) : Step Unit := do
  let editor ← get
  if first ≤ stop ∧ stop ≤ editor.buffer.length then
    set { editor with buffer := editor.buffer.replaceLines first stop lines }
  else
    throw .outOfBounds

def moveCursor (line : Nat) : Step Unit := do
  let editor ← get
  set { editor with cursor := line }

/-!
# Addresses
-/

def firstMatch (pattern : Pattern) : List Nat -> Step (Option Nat)
  | [] => pure none
  | index :: later => do
      let line ← lineAt index
      if pattern.isMatch line then pure (some index) else firstMatch pattern later

def search (limit : Nat) (source : Text) (reference : Int) (wrap : Address.Wrap) : Step Int :=
  match Pattern.compile source with
  | .error _ => refuse .invalidAddressRegex
  | .ok pattern => do
      let _ ← whole limit (reference + 1)
      let editor ← get
      let found ← firstMatch pattern (Address.searchOrder editor.buffer.length reference wrap)
      match found with
      | some index => whole limit (lineNumber index + 1)
      | none => refuse .noMatch

def resolveOne (limit : Nat) (text : Text) (reference : Int) (wrap : Address.Wrap) :
    Step Int := do
  let editor ← get
  if text = [] ∨ text = ['.'] then
    whole limit (reference + 1)
  else if text = ['$'] then
    pure (lineNumber editor.buffer.length)
  else
    match Address.leadingInteger? text with
    | some number => whole limit number
    | none =>
        match Address.slashed? text with
        | some source => search limit source reference wrap
        | none => refuse .invalidAddress

def resolvePair (limit : Nat) (left right : Text) (cursor : Int) : Step LineRange := do
  let start ← resolveOne limit left cursor .around
  let reference ← whole limit (start - 1)
  let stop ← resolveOne limit right reference .stop
  if stop < start then refuse .invalidRange else pure { start := start, stop := stop }

def resolve (limit : Nat) (text : Text) : Step LineRange := do
  let editor ← get
  let current := lineNumber editor.cursor
  if text = [] then do
    let line ← whole limit (current + 1)
    pure (LineRange.single line)
  else if text = [','] ∨ text = ['%'] then
    pure { start := 1, stop := max (lineNumber editor.buffer.length) 1 }
  else
    match Text.splitOn ',' text with
    | left :: right :: _ =>
        resolvePair limit (Address.sideOr ['1'] left) (Address.sideOr ['$'] right) current
    | _ => do
        let line ← resolveOne limit text current .around
        pure (LineRange.single line)

def indices (limit : Nat) (range : LineRange) : Step (Nat × Nat) := do
  let editor ← get
  if range.start < 1 ∨ lineNumber editor.buffer.length < range.stop ∨
      range.stop < range.start then
    refuse .invalidAddress
  else do
    let first ← whole limit (range.start - 1)
    let last ← whole limit (range.stop - 1)
    pure (first.toNat, last.toNat)

def refuseEmpty : Step Unit := do
  let editor ← get
  if editor.buffer = [] then refuse .emptyBuffer else pure ()

/-!
# Actions
-/

def stepForward : Step Outcome := do
  refuseEmpty
  let editor ← get
  let next ← remainder (editor.cursor + 1) editor.buffer.length
  moveCursor next
  let line ← lineAt next
  pure (.output line)

def print (limit : Nat) (range : LineRange) (numbered : Bool) : Step Outcome := do
  refuseEmpty
  let (first, last) ← indices limit range
  let lines ← linesBetween first last
  let shown := if numbered then Buffer.numbered (first + 1) lines else lines
  moveCursor last
  pure (.output (Text.join ['\n'] shown))

def delete (limit : Nat) (range : LineRange) : Step Outcome := do
  refuseEmpty
  let (first, last) ← indices limit range
  splice first (last + 1) []
  let editor ← get
  moveCursor (min first (editor.buffer.length - 1))
  pure (.output [])

def insertAt (position : Int) (lines : List Text) : Step Unit := do
  if position < 0 then
    refuse .invalidAddress
  else do
    let editor ← get
    let index := min position.toNat editor.buffer.length
    splice index index lines
    if lines = [] then
      pure ()
    else do
      let last ← difference (index + lines.length) 1
      moveCursor last

def changeLines (limit : Nat) (range : LineRange) (lines : List Text) : Step Unit := do
  let (first, last) ← indices limit range
  splice first (last + 1) lines
  moveCursor (first + lines.length - 1)

def alterEach (alter : Text -> Text) : Nat -> Nat -> Option Nat -> Step (Option Nat)
  | _, 0, changed => pure changed
  | index, count + 1, changed => do
      let line ← lineAt index
      if alter line = line then
        alterEach alter (index + 1) count changed
      else do
        setLine index (alter line)
        alterEach alter (index + 1) count (some index)

def substitute (limit : Nat) (range : LineRange) (tail : Text) : Step Outcome :=
  match Substitution.parse tail with
  | .error error => refuse error
  | .ok substitution => do
      refuseEmpty
      match Pattern.compile substitution.pattern with
      | .error _ => refuse .invalidRegex
      | .ok pattern => do
          let (first, last) ← indices limit range
          let changed ←
            alterEach (fun line =>
              pattern.replace line substitution.template substitution.everywhere)
              first (last + 1 - first) none
          match changed with
          | none => refuse .noMatch
          | some index => do
              moveCursor index
              let line ← lineAt index
              pure (.output line)

/-!
# Commands
-/

def beginTyping (kind : EditKind) (range : LineRange) : Step Outcome := do
  let editor ← get
  set { editor with mode := .typing { kind := kind, range := range, lines := [] } }
  pure .input

def setOptions (options : Options) (text : Text) : Step Outcome := do
  let editor ← get
  set { editor with options := options }
  pure (.output text)

def perform (limit : Nat) (letter : Char) (range : LineRange) (tail : Text) :
    Step Outcome := do
  let editor ← get
  match letter with
  | 'a' => beginTyping .append range
  | 'i' => beginTyping .insert range
  | 'c' => beginTyping .change range
  | 'd' => delete limit range
  | 'p' => print limit range false
  | 'n' => print limit range true
  | 's' => substitute limit range tail
  | 'q' => pure (.output Editor.quitGuidance)
  | 'Q' => do
      set { editor with buffer := [], cursor := 0 }
      pure (.output Editor.resetMessage)
  | 'w' => pure (.saved Editor.savedMessage editor.buffer)
  | 'h' => pure (.output Editor.helpText)
  | 'H' =>
      let on := !editor.options.verboseErrors
      setOptions { editor.options with verboseErrors := on } (Editor.verboseMessage on)
  | 'P' => setOptions { editor.options with showPrompt := !editor.options.showPrompt } []
  | _ => refuse .unknownCommand

def runCommand (limit : Nat) (line : Text) : Step Outcome :=
  match Command.parse? line with
  | none => stepForward
  | some command => do
      let range ← resolve limit command.address
      perform limit command.letter range command.tail

/-!
# Lines of input
-/

def applyEdit (limit : Nat) (edit : PendingEdit) : Step Unit :=
  match edit.kind with
  | .append => insertAt edit.range.stop edit.lines
  | .insert => do
      let position ← whole limit (edit.range.start - 1)
      insertAt (max position 0) edit.lines
  | .change => changeLines limit edit.range edit.lines

/-- Typing ends before the edit is carried out. -/
def commit (limit : Nat) (edit : PendingEdit) : Step Outcome := do
  let editor ← get
  set { editor with mode := .command }
  applyEdit limit edit
  pure (.output [])

def attempt (limit : Nat) (line : Text) : Step Outcome := do
  let editor ← get
  match editor.mode with
  | .command => runCommand limit (Text.trim line)
  | .typing edit =>
      if line = ['.'] then
        commit limit edit
      else do
        set { editor with mode := .typing { edit with lines := edit.lines ++ [line] } }
        pure .more

/-- A refusal is answered, and whatever was changed before it stays. -/
def process (limit : Nat) (line : Text) : Step Outcome := fun editor =>
  match attempt limit line editor with
  | .error (.refused error) stopped => .ok (stopped.fail error).1 (stopped.fail error).2
  | finished => finished

end InPlace
end LinePalette
