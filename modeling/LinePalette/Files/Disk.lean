import LinePalette.Files.Path
import LinePalette.Text.Utf8

/-!
# Files

A disk is a tree of folders with files in it, seen from a working folder.  A path
is followed name by name, and every step must start from a folder.  The working
folder and the folders above it are always there.  The clipboard is kept beside the
files, and often there is none within reach.
-/

namespace LinePalette

inductive Entry where
  | file (content : Bytes)
  | folder
deriving Repr, DecidableEq

structure Clipboard where
  /-- The text that is found on it, if it can be read at all. -/
  contents : Option Text
  /-- Whether it takes a text. -/
  writable : Bool
deriving Repr, DecidableEq

def Clipboard.outOfReach : Clipboard := { contents := none, writable := false }

structure Disk where
  /-- The working folder. -/
  here : Location
  entries : List (Location × Entry)
  clipboard : Clipboard := Clipboard.outOfReach
deriving Repr, DecidableEq

namespace Disk

/-!
# Entries
-/

def get? (disk : Disk) (location : Location) : Option Entry :=
  if location.isPrefixOf disk.here then some .folder else disk.entries.lookup location

def put (disk : Disk) (location : Location) (entry : Entry) : Disk :=
  { disk with
    entries := (location, entry) :: disk.entries.filter fun (known, _) => known != location }

def erase (disk : Disk) (location : Location) : Disk :=
  { disk with entries := disk.entries.filter fun (known, _) => known != location }

def isFolder (disk : Disk) (location : Location) : Bool :=
  disk.get? location == some .folder

/-!
# Following paths
-/

/-- The location one step from a folder; going up from the top stays there. -/
def step? (disk : Disk) (location : Location) (name : Text) : Option Location :=
  if !disk.isFolder location ∨ Path.maxNameSize < name.byteSize then none
  else if Path.isIdle name then some location
  else if Path.isUp name then some location.dropLast
  else some (location ++ [name])

def locate? (disk : Disk) (path : Text) : Option Location :=
  match Path.steps? disk.here path with
  | none => none
  | some (start, names) => names.foldlM disk.step? start

def entryAt? (disk : Disk) (path : Text) : Option Entry :=
  (disk.locate? path).bind disk.get?

def pathExists (disk : Disk) (path : Text) : Bool := (disk.entryAt? path).isSome

def isFolderPath (disk : Disk) (path : Text) : Bool := disk.entryAt? path == some .folder

/-- The location of a file that may be made or overwritten at the end of a path. -/
def fileLocation? (disk : Disk) (path : Text) : Option Location :=
  match Path.steps? disk.here path with
  | none => none
  | some (_, names) =>
      if names.getLast?.any Path.isProper then
        (disk.locate? path).filter fun location => !disk.isFolder location
      else
        none

/-!
# Reading and changing

Where an operation can be refused, it is refused with `none`.
-/

def readFile? (disk : Disk) (path : Text) : Option Bytes :=
  match disk.entryAt? path with
  | some (.file content) => some content
  | _ => none

def readText? (disk : Disk) (path : Text) : Option Text :=
  (disk.readFile? path).bind Utf8.decode?

def writeFile? (disk : Disk) (path : Text) (content : Bytes) : Option Disk :=
  (disk.fileLocation? path).map fun location => disk.put location (.file content)

/-- The disk without a file; folders are not removed. -/
def removeFile? (disk : Disk) (path : Text) : Option Disk :=
  match disk.locate? path, disk.readFile? path with
  | some location, some _ => some (disk.erase location)
  | _, _ => none

def copy? (disk : Disk) (text : Text) : Option Disk :=
  if disk.clipboard.writable then
    some { disk with clipboard := { disk.clipboard with contents := some text } }
  else
    none

/-- The disk with folders made along the steps from a location, as far as they can be. -/
def makeFolders (disk : Disk) (location : Location) : List Text -> Disk
  | [] => disk
  | name :: names =>
      match disk.step? location name with
      | none => disk
      | some next =>
          if (disk.get? next).isNone then
            makeFolders (disk.put next .folder) next names
          else
            makeFolders disk next names

def makeFolderPath (disk : Disk) (path : Text) : Disk :=
  match Path.steps? disk.here path with
  | none => disk
  | some (start, names) => disk.makeFolders start names

/-!
# Listing
-/

def files (disk : Disk) : List (Location × Bytes) :=
  disk.entries.filterMap fun (location, entry) =>
    match entry with
    | .file content => some (location, content)
    | .folder => none

/-!
# Changes
-/

inductive Change where
  | make (location : Location)
  | write (location : Location) (content : Bytes)
  | remove (location : Location)
deriving Repr, DecidableEq

/-- The changes from one disk to another, in an order in which they can be made. -/
def changes (before after : Disk) : List Change :=
  (before.files.filterMap fun (location, _) =>
    if (after.get? location).isNone then some (.remove location) else none) ++
  (after.entries.reverse.filterMap fun (location, entry) =>
    if before.get? location = some entry then
      none
    else
      match entry with
      | .folder => some (.make location)
      | .file content => some (.write location content))

/-!
# Lemmas
-/

theorem get?_put (disk : Disk) (location other : Location) (entry : Entry) :
    (disk.put location entry).get? other =
      if other.isPrefixOf disk.here then some .folder
      else if other = location then some entry
      else disk.get? other := by
  unfold get? put
  by_cases hhere : other.isPrefixOf disk.here = true
  · simp [hhere]
  · by_cases hsame : other = location
    · simp [hsame]
    · have hne : (other == location) = false := by simpa using hsame
      simp only [hhere, hsame, List.lookup_cons, hne]
      induction disk.entries with
      | nil => simp
      | cons first rest ih =>
          obtain ⟨known, found⟩ := first
          by_cases hknown : known = location
          · have hother : (other == known) = false := by simpa [hknown] using hsame
            simp [hknown, List.lookup_cons, hne] at ih ⊢
            simpa [List.filter] using ih
          · simp [hknown, List.lookup_cons] at ih ⊢
            split
            · rfl
            · simpa using ih

end Disk
end LinePalette
