import Treebank.File
import Treebank.Notice
import Treebank.Rule.Reader

/-!
# Loading rule files

Every file holds one rule, which is named after its path. A file that cannot be opened or does not
hold a rule is left out. Bytes that are no text, and numbers that cannot be read, end the loading.
-/

namespace Treebank.Rule

/-- Why a file does not give a rule. -/
inductive LoadFault where
  | file (f : File.Fault)
  | encoding (f : Text.Utf8.Fault)
  | rule (d : Diagnostic)

namespace LoadFault

def message : LoadFault → String
  | file f => f.message
  | encoding f => f.message
  | rule d => d.message

/-- The fault spoils only the file it is found in. -/
def isConfined : LoadFault → Bool
  | file f => f.cause != .badCharacter
  | encoding _ => false
  | rule d => d.fault.isPlaced

end LoadFault

/-- The rule in a file; without a name it is named after the path. -/
def ofFile (view : File.View) (strategies : Strategies) (path name : String) :
    Except LoadFault Rule := do
  let plain := File.normalize path
  let bytes ← (view.read plain).mapError fun c => .file ⟨c, plain⟩
  let text ← (File.textOf bytes).mapError .encoding
  (read strategies (if name.isEmpty then plain else name) text).mapError .rule

/-- The name of the rule from a path that was given so many times before. -/
def nameOf (path : String) (before : Nat) : String :=
  if before == 0 then path else s!"{path}#{before + 1}"

/-- The rules that were loaded, why other files were left out, and what there is to report. -/
structure Loaded where
  rules : List Rule
  faults : List LoadFault
  notices : List Notice

/-- The rules of files, after those at other paths. A fault that is not confined to its file ends
the loading; the reports up to it are kept. -/
def loadAfter (view : File.View) (strategies : Strategies) (before : List String) :
    List String → Option LoadFault × Loaded
  | [] => (none, ⟨[], [], []⟩)
  | path :: paths =>
    let others (_ : Unit) := loadAfter view strategies (before ++ [path]) paths
    match ofFile view strategies path (nameOf path (before.count path)) with
    | .ok r =>
      let (stop, l) := others ()
      (stop, { l with rules := r :: l.rules })
    | .error f =>
      if f.isConfined then
        let (stop, l) := others ()
        (stop, { l with
          faults := f :: l.faults, notices := .ruleSkipped path f.message :: l.notices })
      else (some f, ⟨[], [], []⟩)

/-- The rules of files. -/
def load (view : File.View) (strategies : Strategies) (paths : List String) :
    Option LoadFault × Loaded :=
  loadAfter view strategies [] paths

end Treebank.Rule
