import Treebank.Text.Number

/-!
# Arguments of the command line

Arguments are options with their values, and the rule files. The rule files stand together: those
after a later option are refused. Long options may be shortened as far as they stay unambiguous,
short ones without a value may be run together, and two hyphens end the options.
-/

namespace Treebank.CommandLine

open Text

/-- The options. -/
inductive Switch where
  | help
  | treeFile
  | inlineRule
  | singleLine
  | showMatched
  | maxSteps
  | traceFile
  | headFinder
  | workers
  | verbose
deriving Repr, DecidableEq

namespace Switch

/-- The spellings of an option. -/
def spellings : Switch → List String
  | help => ["-h", "--help"]
  | treeFile => ["--tree-file", "-treeFile"]
  | inlineRule => ["-po"]
  | singleLine => ["-s"]
  | showMatched => ["-m"]
  | maxSteps => ["--max-steps"]
  | traceFile => ["--trace-jsonl"]
  | headFinder => ["--head-finder"]
  | workers => ["--workers"]
  | verbose => ["-v", "--verbose"]

/-- All options, in the order in which messages list them. -/
def all : List Switch :=
  [help, treeFile, inlineRule, singleLine, showMatched, maxSteps, traceFile, headFinder, workers,
    verbose]

/-- The number of values that an option takes. -/
def arity : Switch → Nat
  | treeFile => 1
  | inlineRule => 2
  | maxSteps => 1
  | traceFile => 1
  | headFinder => 1
  | workers => 1
  | _ => 0

/-- The option as messages name it. -/
def title (s : Switch) : String := String.intercalate "/" s.spellings

/-- All spellings, each with its option. -/
def table : List (String × Switch) := all.flatMap fun s => s.spellings.map (·, s)

/-- The option of this spelling. -/
def ofSpelling? (spelling : String) : Option Switch := table.lookup spelling

end Switch

/-- What the arguments ask for. -/
structure Options where
  ruleFiles : List String
  /-- The file with the trees; a hyphen stands for the standard input. -/
  treeFile : String
  /-- A pattern and a statement. -/
  inlineRule : Option (String × String)
  singleLine : Bool
  showMatched : Bool
  maxSteps : Option Int
  traceFile : Option String
  headFinder : String
  workers : Int
  verbose : Bool
deriving Repr, DecidableEq

/-- What is asked for without arguments. -/
def Options.default : Options := ⟨[], "-", none, false, false, none, none, "collins", 1, false⟩

/-- Why arguments are not taken. -/
inductive Refusal where
  | ambiguous (argument : String) (spellings : List String)
  | valueCount (s : Switch)
  | uselessValue (s : Switch) (value : String)
  | notInt (s : Switch) (value : String)
  | notChoice (s : Switch) (value : String) (choices : List String)
  | unrecognized (arguments : List String)
  | nothingToDo
  | tooMuchToDo
deriving Repr, DecidableEq

namespace Refusal

/-- A message about an option. -/
def about (s : Switch) (message : String) : String := s!"argument {s.title}: {message}"

def message : Refusal → String
  | ambiguous a names =>
    s!"ambiguous option: {a} could match " ++ String.intercalate ", " names
  | valueCount s =>
    about s (if s.arity == 1 then "expected one argument" else s!"expected {s.arity} arguments")
  | uselessValue s v => about s s!"ignored explicit argument {quoted v}"
  | notInt s v => about s s!"invalid int value: {quoted v}"
  | notChoice s v choices =>
    about s ("invalid choice: " ++ quoted v ++ " (choose from "
      ++ String.intercalate ", " (choices.map quoted) ++ ")")
  | unrecognized args => "unrecognized arguments: " ++ String.intercalate " " args
  | nothingToDo => "give rule files or -po PATTERN OPERATION"
  | tooMuchToDo => "rule files and -po cannot be combined"

end Refusal

/-! ## Kinds of arguments -/

/-- What an argument is by its form. -/
inductive Word where
  | plain (text : String)
  /-- The two hyphens that end the options. -/
  | separator
  | option (text : String) (s : Switch) (spelling : String) (value : Option String)
  /-- An option that there is not. -/
  | unknown (text : String)
deriving Repr, DecidableEq

/-- A text up to the first equals sign, and what follows it. -/
def splitEquals (text : String) : String × Option String :=
  let cs := text.toList
  let before := cs.takeWhile (· != '=')
  let after := cs.drop before.length
  (String.ofList before, if after.isEmpty then none else some (String.ofList (after.drop 1)))

/-- A hyphen and a number, with a point or without. -/
def isNegativeNumber (text : String) : Bool :=
  match text.toList with
  | '-' :: cs =>
    let cs := if cs.getLast? == some '\n' then cs.dropLast else cs
    let after := cs.dropWhile isDecimal
    (!cs.isEmpty && after.isEmpty)
      || (after.head? == some '.' && !(after.drop 1).isEmpty && (after.drop 1).all isDecimal)
  | _ => false

/-- The options that an argument may be short for. -/
def candidates (text : String) : List (Switch × String × Option String) :=
  if text.startsWith "--" then
    let (start, value) := splitEquals text
    (Switch.table.filter fun (spelling, _) => start.toList.isPrefixOf spelling.toList).map
      fun (spelling, s) => (s, spelling, value)
  else
    let short := String.ofList (text.toList.take 2)
    Switch.table.filterMap fun (spelling, s) =>
      if spelling == short then
        some (s, spelling, some (String.ofList (text.toList.drop 2)))
      else if text.toList.isPrefixOf spelling.toList then some (s, spelling, none)
      else none

/-- What an argument is. -/
def classify (text : String) : Except Refusal Word :=
  if !text.startsWith "-" then .ok (.plain text)
  else
    match Switch.ofSpelling? text with
    | some s => .ok (.option text s text none)
    | none =>
      if text.length == 1 then .ok (.plain text)
      else
        match splitEquals text with
        | (spelling, some value) =>
          match Switch.ofSpelling? spelling with
          | some s => .ok (.option text s spelling (some value))
          | none => byCandidates
        | (_, none) => byCandidates
where
  /-- What an argument that spells no option is. -/
  byCandidates : Except Refusal Word :=
    match candidates text with
    | [(s, spelling, value)] => .ok (.option text s spelling value)
    | [] =>
      if isNegativeNumber text || text.toList.contains ' ' then .ok (.plain text)
      else .ok (.unknown text)
    | several => .error (.ambiguous text (several.map (·.2.1)))

/-- What the arguments are; after the separator all are plain. -/
def classifyAll : List String → Except Refusal (List Word)
  | [] => .ok []
  | "--" :: args => .ok (.separator :: args.map .plain)
  | a :: args => do
    let w ← classify a
    return w :: (← classifyAll args)

/-! ## Taking options -/

/-- Where the rule files stand. -/
inductive FileRun where
  | ahead
  | here
  | over
deriving Repr, DecidableEq

/-- What has been taken from the arguments. -/
structure Taken where
  options : Options
  files : FileRun
  /-- The arguments that nothing can be done with. -/
  extras : List String
  /-- An option that waits for values, and the values it has. -/
  waiting : Option (Switch × List String)
  /-- Help was asked for; the arguments after that do not count. -/
  helpAsked : Bool

/-- The whole number that a value of an option writes. -/
def intValue (s : Switch) (value : String) : Except Refusal Int :=
  match readLooseInt? value.toList with
  | some i => .ok i
  | none => .error (.notInt s value)

/-- The options with a further one. -/
def Options.put (o : Options) (finders : List String) :
    Switch → List String → Except Refusal Options
  | .treeFile, [v] => .ok { o with treeFile := v }
  | .inlineRule, [p, s] => .ok { o with inlineRule := some (p, s) }
  | .singleLine, _ => .ok { o with singleLine := true }
  | .showMatched, _ => .ok { o with showMatched := true }
  | .maxSteps, [v] => do
    return { o with maxSteps := some (← intValue .maxSteps v) }
  | .traceFile, [v] => .ok { o with traceFile := some v }
  | .headFinder, [v] =>
    if finders.contains v then .ok { o with headFinder := v }
    else .error (.notChoice .headFinder v finders)
  | .workers, [v] => do
    return { o with workers := ← intValue .workers v }
  | .verbose, _ => .ok { o with verbose := true }
  | _, _ => .ok o

namespace Taken

def none : Taken := ⟨.default, .ahead, [], .none, false⟩

/-- Takes an option with its values. -/
def take (t : Taken) (finders : List String) (s : Switch) (values : List String) :
    Except Refusal Taken := do
  if t.helpAsked then return t
  if s == .help then return { t with helpAsked := true }
  return { t with options := ← t.options.put finders s values }

/-- Takes options without values one after the other. -/
def takeAll (t : Taken) (finders : List String) : List Switch → Except Refusal Taken
  | [] => .ok t
  | s :: ss => do
    let t ← t.take finders s []
    t.takeAll finders ss

end Taken

/-- What options run together in one argument ask for. -/
structure Cluster where
  /-- The options without values. -/
  flags : List Switch
  /-- An option with the values it has so far, if it is the last one. -/
  last : Option (Switch × List String)

/-- The options of an argument, given an option and the characters attached to it. The characters
attached to a short option without values are short options too. -/
def clusterFrom (short : Bool) (s : Switch) : Option (List Char) → Except Refusal Cluster
  | none => .ok (if s.arity == 0 then ⟨[s], none⟩ else ⟨[], some (s, [])⟩)
  | some cs =>
    let useless : Refusal := .uselessValue s (String.ofList cs)
    match s.arity with
    | 0 =>
      match short, cs with
      | true, c :: rest =>
        match Switch.ofSpelling? (String.ofList ['-', c]) with
        | none => .error useless
        | some next => do
          let others ←
            match rest with
            | [] => clusterFrom true next none
            | d :: ds => clusterFrom true next (some (d :: ds))
          return { others with flags := s :: others.flags }
      | _, _ => .error useless
    | 1 => .ok ⟨[], some (s, [String.ofList cs])⟩
    | _ => .error (.valueCount s)
termination_by v => v.elim 0 fun cs => cs.length + 1
decreasing_by all_goals simp

/-- A spelling with one hyphen. -/
def isShort (spelling : String) : Bool := !spelling.startsWith "--"

namespace Taken

/-- The run of rule files ends where an option comes, if it has begun. -/
def endFiles (t : Taken) : Taken := if t.files == .here then { t with files := .over } else t

/-- An option that waits for values gets them no more. -/
def checkWaiting (t : Taken) : Except Refusal Unit :=
  match t.waiting with
  | .none => .ok ()
  | some (s, _) => if t.helpAsked then .ok () else .error (.valueCount s)

/-- Takes the option that waits, once it has all its values. -/
def serve (t : Taken) (finders : List String) : Except Refusal Taken :=
  match t.waiting with
  | .none => .ok t
  | some (s, values) =>
    if values.length == s.arity then { t with waiting := .none }.take finders s values
    else .ok t

/-- Takes an argument. -/
def word (t : Taken) (finders : List String) (w : Word) : Except Refusal Taken :=
  match w, t.waiting with
  | .plain v, some (s, values) => { t with waiting := some (s, values ++ [v]) }.serve finders
  | .plain v, .none =>
    .ok (if t.files == .over then { t with extras := t.extras ++ [v] }
      else { t with
        files := .here, options := { t.options with ruleFiles := t.options.ruleFiles ++ [v] } })
  | .separator, _ => do
    t.checkWaiting
    return if t.files == .over then { t with extras := t.extras ++ ["--"] }
      else { t with files := .here }
  | .unknown text, _ => do
    t.checkWaiting
    let t := t.endFiles
    return { t with extras := t.extras ++ [text] }
  | .option _ s spelling value, _ => do
    t.checkWaiting
    let t := t.endFiles
    let c ← clusterFrom (isShort spelling) s (value.map String.toList)
    let t ← t.takeAll finders c.flags
    { t with waiting := c.last }.serve finders

/-- Takes arguments one after the other, until help is asked for. -/
def words (t : Taken) (finders : List String) : List Word → Except Refusal Taken
  | [] => do
    t.checkWaiting
    return t
  | w :: ws => do
    let t ← t.word finders w
    if t.helpAsked then return t
    t.words finders ws

end Taken

/-- What is asked for: help, or work. -/
inductive Request where
  | help
  | work (o : Options)

/-- What arguments ask for; `finders` are the names of head finders. -/
def readArguments (finders args : List String) : Except Refusal Request := do
  let t ← Taken.none.words finders (← classifyAll args)
  if t.helpAsked then return .help
  if !t.extras.isEmpty then throw (.unrecognized t.extras)
  let o := t.options
  if o.ruleFiles.isEmpty && o.inlineRule.isNone then throw .nothingToDo
  if !o.ruleFiles.isEmpty && o.inlineRule.isSome then throw .tooMuchToDo
  return .work o

end Treebank.CommandLine
