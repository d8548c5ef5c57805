import Treebank.Text.Lines
import Treebank.Text.Quoted
import Treebank.Text.Utf8

/-!
# Files

A run reads some files and may write one. What can be done with a path is told by a view of the
files; the reasons why something cannot be done have the numbers and the wording of the system.
-/

namespace Treebank

namespace File

/-- Why a path cannot be used. -/
inductive Cause where
  | missing
  | denied
  | notFolder
  | isFolder
  | tooLong
  /-- The path holds a character that no path can hold. -/
  | badCharacter
  | other (number : Nat) (text : String)
deriving Repr, DecidableEq

namespace Cause

/-- The number of the system for a cause. -/
def number : Cause → Nat
  | missing => 2
  | denied => 13
  | notFolder => 20
  | isFolder => 21
  | badCharacter => 22
  | tooLong => 36
  | other n _ => n

def text : Cause → String
  | missing => "No such file or directory"
  | denied => "Permission denied"
  | notFolder => "Not a directory"
  | isFolder => "Is a directory"
  | badCharacter => "embedded null byte"
  | tooLong => "File name too long"
  | other _ t => t

end Cause

/-- A path that cannot be used. -/
structure Fault where
  cause : Cause
  path : String
deriving Repr, DecidableEq

def Fault.message (f : Fault) : String :=
  match f.cause with
  | .badCharacter => f.cause.text
  | c => s!"[Errno {c.number}] {c.text}: {Text.quoted f.path}"

/-! ## Paths -/

/-- The parts of a path between slashes. -/
def parts (path : String) : List String :=
  (path.toList.splitOnP (· == '/')).map String.ofList

/-- A path without empty parts and dots; the path of the current folder is a dot. -/
def normalize (path : String) : String :=
  let slashes := (path.toList.takeWhile (· == '/')).length
  let anchor := if slashes == 0 then "" else if slashes == 2 then "//" else "/"
  let text := anchor ++
    String.intercalate "/" ((parts path).filter fun p => p != "" && p != ".")
  if text.isEmpty then "." else text

/-! ## Reading and writing -/

/-- What can be done with paths. -/
structure View where
  /-- The bytes of the file at a path. -/
  read : String → Except Cause (List Nat)
  /-- A file can be written at a path. -/
  write : String → Except Cause Unit

/-- The text of bytes, with line feeds between the lines. -/
def textOf (bytes : List Nat) : Except Text.Utf8.Fault String :=
  (Text.Utf8.decode bytes).map fun s => String.ofList (Text.unifyLineEnds s.toList)

end File

end Treebank
