import Treebank.File

/-!
# Folders

A folder with files and folders in it, each at a path relative to the folder. The folders on the way
to an entry need not be listed. Paths that lead out of the folder lead nowhere.
-/

namespace Treebank.File

inductive Entry where
  | file (bytes : List Nat)
  | folder
deriving Repr, DecidableEq

/-- The entries with the parts of their paths. -/
structure Folder where
  entries : List (List String × Entry)

namespace Folder

/-- The parts of a path that count. -/
def place (path : String) : List String := (parts path).filter fun p => p != "" && p != "."

/-- The folder with these entries. -/
def ofList (entries : List (String × Entry)) : Folder :=
  ⟨entries.map fun (path, e) => (place path, e)⟩

/-- What there is at a place. -/
def entry? (f : Folder) (place : List String) : Option Entry :=
  match f.entries.lookup place with
  | some e => some e
  | none => if place.isEmpty || f.entries.any fun (p, _) => place.isPrefixOf p then some .folder
    else none

/-- The greatest number of bytes in a part of a path. -/
def partLimit : Nat := 255

/-- The number of bytes that a path must stay below. -/
def pathLimit : Nat := 4096

/-- A part of a path that leads to a folder whatever is there. -/
def isStep (part : String) : Bool := part == "" || part == "." || part == ".."

/-- What is found outside the folder: the folders above it, and nothing else. -/
def outside (ps : List String) : Cause := if ps.all isStep then .isFolder else .missing

/-- The place that the parts of a path lead to from a place; all on the way must be folders. -/
def walk (f : Folder) (place : List String) : List String → Except Cause (List String)
  | [] => .ok place
  | p :: ps =>
    match f.entry? place with
    | none => .error .missing
    | some (.file _) => .error .notFolder
    | some .folder =>
      if p == "" || p == "." then f.walk place ps
      else if p == ".." then
        if place.isEmpty then .error (outside ps) else f.walk place.dropLast ps
      else if p.utf8ByteSize > partLimit then .error .tooLong
      else f.walk (place ++ [p]) ps

/-- The place of a path. -/
def locate (f : Folder) (path : String) : Except Cause (List String) :=
  if path.contains '\x00' then .error .badCharacter
  else if path.utf8ByteSize ≥ pathLimit then .error .tooLong
  else if path.isEmpty then .error .missing
  else if path.startsWith "/" then .error (outside (parts path))
  else f.walk [] (parts path)

def read (f : Folder) (path : String) : Except Cause (List Nat) := do
  match f.entry? (← f.locate path) with
  | none => throw .missing
  | some .folder => throw .isFolder
  | some (.file bytes) => return bytes

/-- A path without the slashes at its end. -/
def withoutLastSlashes (path : String) : String :=
  String.ofList (path.toList.reverse.dropWhile (· == '/')).reverse

/-- A file can be written at a path; a path with a slash at its end is one of a folder. -/
def write (f : Folder) (path : String) : Except Cause Unit := do
  let bare := withoutLastSlashes path
  let place ← f.locate (if bare.isEmpty then path else bare)
  match f.entry? place with
  | some .folder => throw .isFolder
  | _ => if bare != path then throw .isFolder

/-- What can be done with paths in the folder. -/
def view (f : Folder) : View := ⟨f.read, f.write⟩

end Folder

end Treebank.File
