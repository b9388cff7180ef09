import LinePalette.Pattern.Program

/-!
# Searching

A search runs the threads of a program side by side over a text, one character
at a time, in order of preference.  At each position no step is taken twice,
since the thread that takes it first is preferred.  A thread that accepts ends
all threads behind it; threads before it may still find a match that is
preferred.  Positions count characters.
-/

namespace LinePalette

structure Thread where
  step : Nat
  /-- Where the match that this thread looks for starts. -/
  start : Nat
  /-- The positions marked so far under their slots, latest first. -/
  marks : List (Nat × Nat)
deriving Repr, DecidableEq

structure Finding where
  start : Nat
  stop : Nat
  marks : List (Nat × Nat)
deriving Repr, DecidableEq

namespace Program

/-!
# Steps that read nothing
-/

/--
The threads of a stack after all steps that read nothing, in order of
preference.  Each of them is about to read or to accept.
-/
def settle (program : Program) (before after : Option Char) (position : Nat) :
    Nat -> List Thread -> Array Bool -> List Thread
  | 0, _, _ => []
  | _ + 1, [], _ => []
  | fuel + 1, thread :: stack, seen =>
      if seen.getD thread.step true then
        settle program before after position fuel stack seen
      else
        let seen := seen.setIfInBounds thread.step true
        match program.steps.getD thread.step .stuck with
        | .fork preferred other =>
            settle program before after position fuel
              ({ thread with step := preferred } :: { thread with step := other } :: stack) seen
        | .mark slot next =>
            settle program before after position fuel
              ({ thread with step := next, marks := (slot, position) :: thread.marks } :: stack)
              seen
        | .look assertion next =>
            if assertion.holds before after then
              settle program before after position fuel ({ thread with step := next } :: stack) seen
            else
              settle program before after position fuel stack seen
        | .read _ _ => thread :: settle program before after position fuel stack seen
        | .accept => thread :: settle program before after position fuel stack seen
        | .stuck => settle program before after position fuel stack seen

/-- Each step adds at most one thread to the stack, and is taken at most once. -/
def settleFuel (program : Program) (stack : List Thread) : Nat :=
  stack.length + 2 * program.steps.size + 1

/-!
# Steps that read
-/

/--
The threads after reading the next character, and the match that the first
accepting thread has found at this position.
-/
def advance (program : Program) (after : Option Char) (position : Nat) :
    List Thread -> List Thread × Option Finding
  | [] => ([], none)
  | thread :: threads =>
      match program.steps.getD thread.step .stuck with
      | .accept => ([], some { start := thread.start, stop := position, marks := thread.marks })
      | .read set next =>
          let (moved, found) := advance program after position threads
          if after.any fun c => set.contains c.toNat then
            ({ thread with step := next } :: moved, found)
          else
            (moved, found)
      | _ => advance program after position threads

/-!
# The whole search
-/

/-- A new thread at the entry, unless a match has been found that starts earlier. -/
def seed (program : Program) (position : Nat) (best : Option Finding) : List Thread :=
  if best.isSome then [] else [{ step := program.entry, start := position, marks := [] }]

def turn (program : Program) (threads : List Thread) (best : Option Finding)
    (before after : Option Char) (position : Nat) : List Thread × Option Finding :=
  let stack := threads ++ program.seed position best
  let settled :=
    program.settle before after position (program.settleFuel stack) stack
      (Array.replicate program.steps.size false)
  let (moved, found) := program.advance after position settled
  (moved, found.or best)

def searchFrom (program : Program) (threads : List Thread) (best : Option Finding)
    (before : Option Char) (position : Nat) : Text -> Option Finding
  | [] => (program.turn threads best before none position).2
  | c :: rest =>
      let (moved, best) := program.turn threads best before (some c) position
      if moved.isEmpty && best.isSome then
        best
      else
        searchFrom program moved best (some c) (position + 1) rest

def search (program : Program) (text : Text) (start : Nat) : Option Finding :=
  let before := if start = 0 then none else text[start - 1]?
  program.searchFrom [] none before start (text.drop start)

end Program
end LinePalette
