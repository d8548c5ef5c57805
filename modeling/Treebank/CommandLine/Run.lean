import Treebank.CommandLine.Arguments
import Treebank.Head.Collins
import Treebank.Session
import Treebank.Rule.Loading
import Treebank.Tree.Reader

/-!
# Runs of the command line

A run loads the rules, reads the trees, reduces them, and prints them in their order. Whatever goes
wrong before the last tree is reduced leaves the output empty.
-/

namespace Treebank.CommandLine

/-- What a run works on. -/
structure Surroundings where
  files : File.View
  input : String

/-- What has come of a run. -/
structure Outcome where
  code : Nat
  output : String
  errors : String
  /-- The file written, with its text. -/
  written : Option (String × String)
deriving Repr, DecidableEq

/-- Why a run fails. -/
inductive Failure where
  | load (f : Rule.LoadFault)
  | inline (d : Diagnostic)
  | noRules
  | noTreeFile (path : String)
  | treeFile (f : File.Fault)
  | encoding (f : Text.Utf8.Fault)
  | tree (e : Tree.ReadError)
  | head (e : HeadError)
  | session (e : SessionError)
  | traceFile (f : File.Fault)
  | surgery (d : Diagnostic)
  | unfinished

def Failure.message : Failure → String
  | load f => f.message
  | inline d => d.message
  | noRules => "no usable rule files"
  | noTreeFile path => s!"tree file {path} does not exist"
  | treeFile f => f.message
  | encoding f => f.message
  | tree e => e.message
  | head e => e.message
  | session e => e.message
  | traceFile f => f.message
  | surgery d => d.message
  | unfinished => "reduction does not come to an end"

/-- What a run has reported and written so far. -/
structure Record where
  notices : List Notice
  written : Option (String × String)

/-- A part of a run; what it has reported and written stays also when it fails. -/
abbrev Work (α : Type) := ExceptT Failure (StateM Record) α

namespace Work

def report (ns : List Notice) : Work Unit := modify fun r => { r with notices := r.notices ++ ns }

/-- An outcome as a part of a run. -/
def check {ε α : Type} (failure : ε → Failure) : Except ε α → Work α
  | .ok a => return a
  | .error e => throw (failure e)

/-- The name of the rule given by arguments, which is also its source. -/
def inlineName : String := "-po"

/-- The rules, and whether some rule files were left out. -/
def loadRules (o : Options) (s : Surroundings) (strategies : Strategies) :
    Work (List Rule × Bool) :=
  match o.inlineRule with
  | some (pattern, statement) => do
    let r ← check (fun f => .inline (.within (some inlineName) f))
      (Rule.compile strategies inlineName pattern [statement] (some inlineName))
    return ([r], false)
  | none => do
    let (stop, l) := Rule.load s.files strategies o.ruleFiles
    report l.notices
    match stop with
    | some f => throw (.load f)
    | none =>
      if l.rules.isEmpty then throw .noRules
      return (l.rules, !l.faults.isEmpty)

/-- The causes for which there is said to be no file at a path. -/
def absent : List File.Cause := [.missing, .notFolder, .isFolder, .badCharacter]

/-- The text that the trees are read from. -/
def treeText (o : Options) (s : Surroundings) : Work String :=
  if o.treeFile == "-" then return s.input
  else
    let plain := File.normalize o.treeFile
    match s.files.read plain with
    | .ok bytes => check .encoding (File.textOf bytes)
    | .error c =>
      if absent.contains c then throw (.noTreeFile o.treeFile)
      else throw (.treeFile ⟨c, plain⟩)

/-- The trace file is there from now on; it is empty at first. -/
def openTrace (o : Options) (s : Surroundings) : Work Unit :=
  match o.traceFile with
  | none => return
  | some path =>
    if path.isEmpty then return
    else do
      check (fun c => .traceFile ⟨c, path⟩) (s.files.write path)
      modify fun r => { r with written := some (path, "") }

/-- Events go to the trace file, if there is one. -/
def trace (events : List Event) : Work Unit :=
  modify fun r => { r with
    written := r.written.map fun (path, text) =>
      (path, text ++ String.join (events.map fun e => e.line ++ "\n")) }

/-- A tree as it is printed. -/
def treeLine (o : Options) : Option Tree → String
  | none => "null"
  | some t => if o.singleLine then t.bracketed else t.pretty 0

/-- What is printed for a tree. -/
def block (o : Options) (r : TreeResult) : String :=
  let result := treeLine o r.tree ++ "\n"
  if o.showMatched && r.matched then
    "Operated on:\n" ++ treeLine o (some r.given) ++ "\nResult:\n" ++ result
  else result

/-- Reduces the trees; the outcome is the output, and whether something was left out. -/
def main (o : Options) (s : Surroundings) (rounds : Nat) : Work (String × Bool) := do
  let head ← check .head (HeadFinder.ofName o.headFinder)
  let (rules, skipped) ← loadRules o s ⟨head, .stripped⟩
  report (rules.map fun r => .ruleInUse r.name r.pattern.text (Statement.sequenceText r.statements))
  let trees ← check .tree (Tree.readAll (← treeText o s))
  let session ← check .session (Session.start rules o.maxSteps)
  openTrace o s
  check .session (Session.checkWorkers (some o.workers))
  let (outcome, session, r) := session.reduceCorpus rounds trees
  report r.notices
  trace r.events
  match outcome with
  | .error (.failed d) => throw (.surgery d)
  | .error .unfinished => throw .unfinished
  | .ok results => do
    report [.summary session.summary]
    return (String.join (results.map (block o)), skipped || results.any (·.error.isSome))

end Work

/-- The least level of the notices that are shown. -/
def shownLevel (o : Options) : Level := if o.verbose then .debug else .warning

/-- The notices that are shown, one after the other. -/
def shown (o : Options) (ns : List Notice) : String :=
  String.join ((ns.filter fun n => (shownLevel o).rank ≤ n.level.rank).map fun n => n.text ++ "\n")

/-- The run that options ask for. -/
def work (o : Options) (s : Surroundings) (rounds : Nat) : Outcome :=
  match (Work.main o s rounds).run.run ⟨[], none⟩ with
  | (.ok (output, incomplete), r) =>
    ⟨if incomplete then 2 else 0, output, shown o r.notices, r.written⟩
  | (.error f, r) => ⟨1, "", shown o r.notices ++ "treesurgery: " ++ f.message ++ "\n", r.written⟩

/-- The names of the program's arguments. -/
def usage : String :=
  "usage: treesurgery [options] [rule_files ...]\n"

/-- The run that arguments ask for. -/
def run (args : List String) (s : Surroundings) (rounds : Nat) : Outcome :=
  match readArguments HeadFinder.names args with
  | .error r => ⟨2, "", "treesurgery: error: " ++ r.message ++ "\n", none⟩
  | .ok .help => ⟨0, usage, "", none⟩
  | .ok (.work o) => work o s rounds

end Treebank.CommandLine
