import LinePalette.Pattern.Regex

/-!
# Programs

A program is a regular expression written out as numbered steps.  A step reads a
character, checks an assertion, marks the current position or forks; the first
branch of a fork is preferred.  Steps are emitted from the end of the expression
to its beginning, so that each step knows its successor.
-/

namespace LinePalette

inductive Step where
  | read (set : CharSet) (next : Nat)
  | look (assertion : Assertion) (next : Nat)
  | mark (slot : Nat) (next : Nat)
  | fork (preferred other : Nat)
  | accept
  | stuck
deriving Repr, DecidableEq

structure Program where
  steps : Array Step
  entry : Nat

namespace Program

def openSlot (group : Nat) : Nat := 2 * group

def closeSlot (group : Nat) : Nat := 2 * group + 1

/-- The step that tries a body or goes on, in the order that greed demands. -/
def choose (greedy : Bool) (body next : Nat) : Step :=
  if greedy then .fork body next else .fork next body

/--
The steps of an expression that goes on at `next`, appended to those already
emitted, with the number of its first step.

A body repeated without bound is entered again from a fork behind it.  Optional
copies all leave to the same place.
-/
def emit : Regex -> Nat -> Array Step -> Nat × Array Step
  | .empty, next, steps => (next, steps)
  | .oneOf set, next, steps => (steps.size, steps.push (.read set next))
  | .look assertion, next, steps => (steps.size, steps.push (.look assertion next))
  | .group index inner, next, steps =>
      let close := steps.size
      let (body, steps) := emit inner close (steps.push (.mark (closeSlot index) next))
      (steps.size, steps.push (.mark (openSlot index) body))
  | .seq first second, next, steps =>
      let (middle, steps) := emit second next steps
      emit first middle steps
  | .alt first second, next, steps =>
      let (preferred, steps) := emit first next steps
      let (other, steps) := emit second next steps
      (steps.size, steps.push (.fork preferred other))
  | .rep inner low high greedy, next, steps =>
      let copy := fun (state : Nat × Array Step) => emit inner state.1 state.2
      match high with
      | some high =>
          let optional := fun (state : Nat × Array Step) =>
            let (body, steps) := copy state
            (steps.size, steps.push (choose greedy body next))
          Nat.repeat copy low (Nat.repeat optional (high - low) (next, steps))
      | none =>
          let again := steps.size
          let (body, steps) := copy (again, steps.push .stuck)
          let steps := steps.setIfInBounds again (choose greedy body next)
          if low = 0 then
            (steps.size, steps.push (choose greedy body next))
          else
            Nat.repeat copy (low - 1) (body, steps)

def ofRegex (regex : Regex) : Program :=
  let (entry, steps) := emit regex 0 #[.accept]
  { steps := steps, entry := entry }

end Program
end LinePalette
