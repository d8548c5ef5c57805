import Mathlib.Data.List.Forall2
import Treebank.Proofs.Basic
import Treebank.Proofs.Rule.Reading
import Treebank.Rule.Loading

/-!
# What loading rule files gives

Every file gives a rule or a fault, and apart from the name that the rule goes by these are the same
whichever files are loaded beside it. The loading comes to its end if and only if no file has a fault
that is not confined to it.
-/

namespace Treebank

namespace Rule

/-! ## Names -/

/-- The outcome of reading a text as a rule of another name. -/
def readAs (name : String) : Except Diagnostic Rule → Except Diagnostic Rule
  | .ok r => .ok { r with name := name, source := some name }
  | .error d => .error { d with source := some name }

/-- The outcome of loading a file as a rule of another name. -/
def loadedAs (name : String) : Except LoadFault Rule → Except LoadFault Rule
  | .ok r => .ok { r with name := name, source := some name }
  | .error (.rule d) => .error (.rule { d with source := some name })
  | .error f => .error f

variable {strategies : Strategies} {view : File.View} {path name text : String}

theorem readStatements_as (name name' : String) (p : CompiledPattern)
    (before : List (String × Statement)) (ls : List (Nat × String)) :
    readStatements name' p before ls =
      (readStatements name p before ls).mapError fun d => { d with source := some name' } := by
  induction ls generalizing before with
  | nil => rfl
  | cons l ls ih =>
      obtain ⟨n, line⟩ := l
      simp only [readStatements]
      split
      · exact ih before
      · split
        · rfl
        · exact ih _

theorem read_as (name name' text : String) :
    read strategies name' text = readAs name' (read strategies name text) := by
  by_cases hparts : patternParts (Text.lines text) = []
  · rw [read_of_no_pattern hparts, read_of_no_pattern hparts]
    rfl
  · cases hpattern : compilePattern strategies
        (String.intercalate " " (patternParts (Text.lines text))) with
    | error f =>
        rw [read_of_pattern_error hparts hpattern, read_of_pattern_error hparts hpattern]
        rfl
    | ok p =>
        rw [read_of_pattern hparts hpattern, read_of_pattern hparts hpattern,
          readStatements_as name name']
        cases readStatements name p [] (statementLines (Text.lines text)) with
        | error d => rfl
        | ok statements =>
            show ofStatements name' p _ statements = readAs name' (ofStatements name p _ statements)
            rw [ofStatements, ofStatements]
            split <;> rfl

/-- The outcome for a file depends on the name only as far as it is told by it. -/
theorem exists_ofFile_as (name : String) :
    ∃ name', ofFile view strategies path name = loadedAs name' (ofFile view strategies path "") := by
  have hempty : "".isEmpty = true := rfl
  refine ⟨if name.isEmpty then File.normalize path else name, ?_⟩
  simp only [ofFile, hempty, if_true]
  generalize (if name.isEmpty then File.normalize path else name) = name'
  cases view.read (File.normalize path) with
  | error c => rfl
  | ok bytes =>
      simp only [Except.mapError, ok_bind]
      cases File.textOf bytes with
      | error f => rfl
      | ok text =>
          simp only [ok_bind]
          rw [read_as (File.normalize path) name']
          cases read strategies (File.normalize path) text with
          | ok r => rfl
          | error d => rfl

theorem isConfined_as {x : Except LoadFault Rule} {f : LoadFault}
    (h : loadedAs name x = .error f) : ∃ g, x = .error g ∧ g.isConfined = f.isConfined := by
  match x, h with
  | .error (.rule d), rfl => exact ⟨.rule d, rfl, rfl⟩
  | .error (.file g), rfl => exact ⟨.file g, rfl, rfl⟩
  | .error (.encoding g), rfl => exact ⟨.encoding g, rfl, rfl⟩

/-! ## Faults -/

/-- A fault that is not confined to its file: the path is none, the bytes are no text, or a number or
a regular expression cannot be read. -/
inductive Uncaught : LoadFault → Prop where
  | badPath (path : String) : Uncaught (.file ⟨.badCharacter, path⟩)
  | encoding (f : Text.Utf8.Fault) : Uncaught (.encoding f)
  | patternNumber {d : Diagnostic} {f : Text.NumberFault} : d.fault = .pattern (.badNumber f) →
      Uncaught (.rule d)
  | patternRegex {d : Diagnostic} {e : Regex.Error} : d.fault = .pattern (.refusedRegex e) →
      Uncaught (.rule d)
  | statementNumber {d : Diagnostic} {f : Text.NumberFault} :
      d.fault = .statement (.badNumber f) → Uncaught (.rule d)
  | statementRegex {d : Diagnostic} {e : Regex.Error} :
      d.fault = .statement (.refusedRegex e) → Uncaught (.rule d)

/-- What can be wrong with the text of a rule. -/
inductive OfRule : Fault → Prop where
  | noPattern : OfRule .ruleWithoutPattern
  | noStatements : OfRule .ruleWithoutStatements
  | pattern (e : Pattern.Error) : OfRule (.pattern e)
  | statement (e : Statement.Error) : OfRule (.statement e)

theorem ofRule_of_compilePattern {f : Fault} (h : compilePattern strategies text = .error f) :
    OfRule f := by
  rw [compilePattern] at h
  cases hread : CompiledPattern.compile strategies text with
  | ok p =>
      rw [hread] at h
      cases h
  | error e =>
      rw [hread] at h
      cases h
      exact .pattern e

theorem ofRule_of_readStatements {p : CompiledPattern} {ls : List (Nat × String)}
    {before : List (String × Statement)} {d : Diagnostic}
    (h : readStatements name p before ls = .error d) : OfRule d.fault := by
  induction ls generalizing before with
  | nil => cases h
  | cons l ls ih =>
      obtain ⟨n, line⟩ := l
      simp only [readStatements] at h
      split at h
      · exact ih h
      · split at h
        · cases h
          exact .statement _
        · exact ih h

theorem ofRule_of_read {d : Diagnostic} (h : read strategies name text = .error d) :
    OfRule d.fault := by
  by_cases hparts : patternParts (Text.lines text) = []
  · rw [read_of_no_pattern hparts] at h
    cases h
    exact .noPattern
  · cases hpattern : compilePattern strategies
        (String.intercalate " " (patternParts (Text.lines text))) with
    | error f =>
        rw [read_of_pattern_error hparts hpattern] at h
        cases h
        exact ofRule_of_compilePattern hpattern
    | ok p =>
        rw [read_of_pattern hparts hpattern] at h
        cases hstatements : readStatements name p [] (statementLines (Text.lines text)) with
        | error d' =>
            rw [hstatements] at h
            cases h
            exact ofRule_of_readStatements hstatements
        | ok statements =>
            rw [hstatements, ok_bind, ofStatements] at h
            split at h
            · cases h
              exact .noStatements
            · cases h

theorem uncaught_iff_of_rule {d : Diagnostic} (h : OfRule d.fault) :
    Uncaught (.rule d) ↔ d.fault.isPlaced = false := by
  obtain ⟨fault, source, line⟩ := d
  constructor
  · rintro (_ | _ | ⟨rfl⟩ | ⟨rfl⟩ | ⟨rfl⟩ | ⟨rfl⟩) <;> rfl
  · intro hplaced
    cases h with
    | noPattern => cases hplaced
    | noStatements => cases hplaced
    | pattern e =>
        cases e with
        | malformed => cases hplaced
        | badNumber f => exact .patternNumber rfl
        | refusedRegex e => exact .patternRegex rfl
    | statement e =>
        cases e with
        | malformed => cases hplaced
        | unboundCapture => cases hplaced
        | badNumber f => exact .statementNumber rfl
        | refusedRegex e => exact .statementRegex rfl

theorem uncaught_file_iff (f : File.Fault) :
    Uncaught (.file f) ↔ LoadFault.isConfined (.file f) = false := by
  obtain ⟨cause, path⟩ := f
  constructor
  · rintro ⟨⟩
    rfl
  · intro h
    have hcause : cause = .badCharacter := by simpa [LoadFault.isConfined] using h
    rw [hcause]
    exact .badPath path

theorem uncaught_iff {f : LoadFault} (h : ofFile view strategies path name = .error f) :
    Uncaught f ↔ f.isConfined = false := by
  simp only [ofFile] at h
  cases hbytes : view.read (File.normalize path) with
  | error c =>
      rw [hbytes] at h
      cases h
      exact uncaught_file_iff _
  | ok bytes =>
      rw [hbytes] at h
      cases htext : File.textOf bytes with
      | error e =>
          simp only [Except.mapError, ok_bind, htext] at h
          cases h
          exact ⟨fun _ => rfl, fun _ => .encoding e⟩
      | ok text =>
          simp only [Except.mapError, ok_bind, htext] at h
          split at h
          · rename_i d hread
            cases h
            exact uncaught_iff_of_rule (ofRule_of_read hread)
          · cases h

/-! ## Loading -/

/-- The file at the path gives the outcome, whatever name that is told by. -/
def Gives (view : File.View) (strategies : Strategies) (path : String)
    (x : Except LoadFault Rule) : Prop :=
  ∃ name, x = loadedAs name (ofFile view strategies path "")

/-- The file at the path gives a rule or a fault that is confined to it. -/
def Caught (view : File.View) (strategies : Strategies) (path : String) : Prop :=
  ∀ f, ofFile view strategies path "" = .error f → ¬ Uncaught f

theorem gives_ofFile (name : String) :
    Gives view strategies path (ofFile view strategies path name) := exists_ofFile_as name

theorem Gives.caught {r : Rule} (h : Gives view strategies path (.ok r)) :
    Caught view strategies path := by
  obtain ⟨name, h⟩ := h
  intro f hf
  rw [hf] at h
  cases f <;> cases h

theorem Gives.caught_iff {f : LoadFault} (h : Gives view strategies path (.error f)) :
    Caught view strategies path ↔ f.isConfined = true := by
  obtain ⟨name, h⟩ := h
  obtain ⟨g, hg, hconfined⟩ := isConfined_as h.symm
  rw [← hconfined]
  constructor
  · intro hcaught
    by_contra hfree
    exact hcaught g hg ((uncaught_iff hg).mpr (Bool.eq_false_iff.mpr hfree))
  · intro hkept f hf huncaught
    rw [hg] at hf
    cases hf
    rw [(uncaught_iff hg).mp huncaught] at hkept
    cases hkept

/-- The fault of an outcome. -/
def fault? : Except LoadFault Rule → Option LoadFault
  | .ok _ => none
  | .error f => some f

/-- Every file has been loaded: the rules and the faults are those of the outcomes, one for each path
and in the order of the paths. -/
structure Complete (view : File.View) (strategies : Strategies) (paths : List String)
    (loaded : Loaded) (outcomes : List (Except LoadFault Rule)) : Prop where
  gives : List.Forall₂ (Gives view strategies) paths outcomes
  rules : loaded.rules = outcomes.filterMap Except.toOption
  faults : loaded.faults = outcomes.filterMap fault?

/-- The loading ends with the fault of a file, the first one that is not confined to its file. -/
def Stops (view : File.View) (strategies : Strategies) (paths : List String) (f : LoadFault) : Prop :=
  ∃ before path after, paths = before ++ path :: after ∧
    (∀ p ∈ before, Caught view strategies p) ∧ Gives view strategies path (.error f) ∧
    ¬ Caught view strategies path

variable {paths : List String} {f : LoadFault}

theorem Stops.cons (h : Stops view strategies paths f) (hpath : Caught view strategies path) :
    Stops view strategies (path :: paths) f := by
  obtain ⟨before, last, after, rfl, hbefore, hgives, hfree⟩ := h
  exact ⟨path :: before, last, after, rfl, List.forall_mem_cons.mpr ⟨hpath, hbefore⟩, hgives, hfree⟩

/-- The loading of the remaining files comes to its end, or stops at one of them. -/
theorem loadAfter_cases (view : File.View) (strategies : Strategies) (paths : List String)
    (before : List String) :
    (∃ loaded outcomes, loadAfter view strategies before paths = (none, loaded) ∧
      Complete view strategies paths loaded outcomes ∧ ∀ p ∈ paths, Caught view strategies p) ∨
    ∃ f loaded, loadAfter view strategies before paths = (some f, loaded) ∧
      Stops view strategies paths f := by
  induction paths generalizing before with
  | nil => exact Or.inl ⟨_, [], rfl, ⟨.nil, rfl, rfl⟩, List.forall_mem_nil _⟩
  | cons path paths ih =>
      have hgives : Gives view strategies path
          (ofFile view strategies path (nameOf path (before.count path))) := gives_ofFile _
      rw [loadAfter]
      cases hfile : ofFile view strategies path (nameOf path (before.count path)) with
      | ok r =>
          rw [hfile] at hgives
          rcases ih (before ++ [path]) with
            ⟨loaded, outcomes, hrun, hall, hcaught⟩ | ⟨f, l, hrun, hstops⟩
          · simp only [hrun]
            refine Or.inl ⟨_, .ok r :: outcomes, rfl, ⟨.cons hgives hall.gives, ?_, hall.faults⟩,
              List.forall_mem_cons.mpr ⟨hgives.caught, hcaught⟩⟩
            exact congrArg (r :: ·) hall.rules
          · simp only [hrun]
            exact Or.inr ⟨f, _, rfl, hstops.cons hgives.caught⟩
      | error f =>
          rw [hfile] at hgives
          by_cases hconfined : f.isConfined = true
          · have hpath := hgives.caught_iff.mpr hconfined
            rcases ih (before ++ [path]) with
              ⟨loaded, outcomes, hrun, hall, hcaught⟩ | ⟨g, l, hrun, hstops⟩
            · simp only [hconfined, if_true, hrun]
              refine Or.inl ⟨_, .error f :: outcomes, rfl, ⟨.cons hgives hall.gives, hall.rules, ?_⟩,
                List.forall_mem_cons.mpr ⟨hpath, hcaught⟩⟩
              exact congrArg (f :: ·) hall.faults
            · simp only [hconfined, if_true, hrun]
              exact Or.inr ⟨g, _, rfl, hstops.cons hpath⟩
          · simp only [hconfined]
            exact Or.inr ⟨f, _, rfl, [], path, paths, rfl, List.forall_mem_nil _, hgives,
              fun hpath => hconfined (hgives.caught_iff.mp hpath)⟩

theorem length_filterMap_outcomes (outcomes : List (Except LoadFault Rule)) :
    (outcomes.filterMap Except.toOption).length + (outcomes.filterMap fault?).length =
      outcomes.length := by
  induction outcomes with
  | nil => rfl
  | cons x outcomes ih =>
      cases x with
      | ok r =>
          show (outcomes.filterMap Except.toOption).length + 1 + (outcomes.filterMap fault?).length = _
          rw [List.length_cons]
          omega
      | error f =>
          show _ + ((outcomes.filterMap fault?).length + 1) = _
          rw [List.length_cons, ← ih]
          rfl

/-- The loading of rule files comes to its end if and only if every fault of a file is confined to the
file. Then each path gives one rule or one fault, in the order of the paths, and these are what the
file gives when it is loaded alone, but for the name. Otherwise it ends with the first fault that is
not confined to its file. -/
theorem load_of_caught (view : File.View) (strategies : Strategies) (paths : List String) :
    ((load view strategies paths).1 = none ↔ ∀ p ∈ paths, Caught view strategies p) ∧
    ((load view strategies paths).1 = none →
      let loaded := (load view strategies paths).2
      loaded.rules.length + loaded.faults.length = paths.length ∧
        ∃ outcomes, List.Forall₂ (Gives view strategies) paths outcomes ∧
          loaded.rules = outcomes.filterMap Except.toOption ∧
          loaded.faults = outcomes.filterMap fault?) ∧
    ∀ f, (load view strategies paths).1 = some f → Stops view strategies paths f := by
  rw [load]
  rcases loadAfter_cases view strategies paths [] with
    ⟨loaded, outcomes, hrun, hall, hcaught⟩ | ⟨f, loaded, hrun, hstops⟩
  · rw [hrun]
    refine ⟨⟨fun _ => hcaught, fun _ => rfl⟩, fun _ => ⟨?_, outcomes, hall.gives, hall.rules,
      hall.faults⟩, fun f hf => ?_⟩
    · show loaded.rules.length + loaded.faults.length = paths.length
      rw [hall.rules, hall.faults, length_filterMap_outcomes, hall.gives.length_eq]
    · cases hf
  · rw [hrun]
    refine ⟨⟨fun hnone => ?_, fun hcaught => ?_⟩, fun hnone => ?_, fun g hg => ?_⟩
    · cases hnone
    · obtain ⟨before, path, after, rfl, _, _, hfree⟩ := hstops
      exact absurd (hcaught path (by simp)) hfree
    · cases hnone
    · cases hg
      exact hstops

/-- A missing file is left out, and a file with a rule is loaded. -/
theorem load_of_missing_file :
    let bytes := "NP=n\n\ndelete n\n".toList.map Char.toNat
    let view : File.View :=
      ⟨fun path => if path == "cut.rules" then .ok bytes else .error .missing, fun _ => .ok ()⟩
    let strategies : Strategies := ⟨HeadFinder.firstChild, id⟩
    let paths := ["missing.rules", "cut.rules"]
    (∀ p ∈ paths, Caught view strategies p) ∧ (load view strategies paths).1 = none ∧
      (load view strategies paths).2.rules.length + (load view strategies paths).2.faults.length =
        2 := by
  intro bytes view strategies paths
  have hmissing : ofFile view strategies "missing.rules" "" =
      .error (.file ⟨.missing, File.normalize "missing.rules"⟩) := by
    have hread : view.read (File.normalize "missing.rules") = .error .missing := by decide +kernel
    simp only [ofFile, hread]
    rfl
  have hcut : (ofFile view strategies "cut.rules" "").isOk = true := by decide +kernel
  have hfirst : Caught view strategies "missing.rules" := by
    intro f hf huncaught
    rw [hmissing] at hf
    cases hf
    cases huncaught
  have hsecond : Caught view strategies "cut.rules" := by
    intro f hf
    rw [hf] at hcut
    cases hcut
  have hcaught : ∀ p ∈ paths, Caught view strategies p :=
    List.forall_mem_cons.mpr ⟨hfirst, List.forall_mem_singleton.mpr hsecond⟩
  have hload := load_of_caught view strategies paths
  have hnone := hload.1.mpr hcaught
  exact ⟨hcaught, hnone, (hload.2.1 hnone).1⟩

/-- Bytes that are no text end the loading. -/
theorem load_of_bad_byte :
    let view : File.View := ⟨fun _ => .ok [0xff], fun _ => .ok ()⟩
    (load view ⟨HeadFinder.firstChild, id⟩ ["bad.rules"]).1 =
      some (.encoding ⟨0xff, 0, 0, .invalidStart⟩) := by
  have htext : File.textOf [0xff] = .error ⟨0xff, 0, 0, .invalidStart⟩ := rfl
  simp only [load, loadAfter, ofFile, Except.mapError, htext, ok_bind]
  rfl

end Rule

end Treebank
