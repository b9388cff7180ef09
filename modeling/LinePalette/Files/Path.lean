import LinePalette.Text.Basic

/-!
# Paths

A path is a text of names between slashes.  Empty names and single dots stay
where they are, two dots go up, and a leading slash starts from the top.  Paths
and names have a largest size in bytes.
-/

namespace LinePalette

/-- The names of the folders from the top on, and of a file or folder in the last. -/
abbrev Location := List Text

namespace Path

def maxPathSize : Nat := 4095

def maxNameSize : Nat := 255

/--
Where the steps of a path start, seen from a working folder, and their names.  An
empty path, one with a null character and one that is too long lead nowhere.
-/
def steps? (here : Location) (path : Text) : Option (Location × List Text) :=
  if path = [] ∨ '\x00' ∈ path ∨ maxPathSize < path.byteSize then
    none
  else
    match path with
    | '/' :: rest => some ([], Text.splitOn '/' rest)
    | _ => some (here, Text.splitOn '/' path)

def isIdle (name : Text) : Bool := name == [] || name == ['.']

def isUp (name : Text) : Bool := name == ['.', '.']

def isProper (name : Text) : Bool := !isIdle name && !isUp name

def child (parent name : Text) : Text :=
  if name.head? = some '/' then name
  else if parent = [] ∨ parent.getLast? = some '/' then parent ++ name
  else parent ++ '/' :: name

/-- A reversed path without the slashes and idle steps that end it. -/
def dropIdleSteps : Text -> Text
  | '/' :: rest => dropIdleSteps rest
  | '.' :: '/' :: rest => dropIdleSteps rest
  | reversed => reversed

def parent? (path : Text) : Option Text :=
  match dropIdleSteps path.reverse with
  | [] => none
  | reversed =>
      let above := dropIdleSteps (reversed.dropWhile (· != '/'))
      some (if above = [] ∧ path.head? = some '/' then ['/'] else above.reverse)

/-- The paths that a path passes behind the given start of it, in reverse, and itself. -/
def waypointsFrom (passed : Text) : Text -> List Text
  | [] => [passed.reverse]
  | c :: rest =>
      if c = '/' ∧ passed ≠ [] then
        passed.reverse :: waypointsFrom (c :: passed) rest
      else
        waypointsFrom (c :: passed) rest

def waypoints (path : Text) : List Text := waypointsFrom [] path

end Path
end LinePalette
