import Treebank.CommandLine.Run
import Treebank.Proofs.Rule.Naming

/-!
# The parts of a run

The parts of a run depend on the options and on what is there to work on, and not on what has been
reported before. A run fails if some part of it cannot be worked with, and if none is like that, it
comes as far as the reduction does.
-/

namespace Treebank.CommandLine

variable {o : Options} {s : Surroundings} {strategies : Strategies} {head : HeadFinder}
  {rules : List Rule} {skipped : Bool} {trees : List Tree} {results : List TreeResult}
  {text : String} {rounds : Nat}

/-! ## Parts that come to a value, and parts that fail -/

namespace Work

variable {ε α β : Type} {x : Work α} {k : α → Work β} {a : α} {c : β}

/-- The part comes to this value, whatever has been reported before it. -/
def Gives (x : Work α) (a : α) : Prop := ∀ r, ∃ r', x.run.run r = (.ok a, r')

/-- The part fails, whatever has been reported before it. -/
def Fails (x : Work α) : Prop := ∀ r, ∃ f r', x.run.run r = (.error f, r')

theorem gives_pure (a : α) : Gives (pure a) a := fun r => ⟨r, rfl⟩

theorem fails_throw (f : Failure) : Fails (throw f : Work α) := fun r => ⟨f, r, rfl⟩

theorem gives_modify (g : Record → Record) : Gives (modify g : Work Unit) () := fun r => ⟨g r, rfl⟩

theorem gives_check (failure : ε → Failure) (a : α) : Gives (check failure (.ok a)) a := gives_pure a

theorem fails_check (failure : ε → Failure) (e : ε) :
    Fails (check failure (.error e : Except ε α)) := fails_throw (failure e)

theorem Gives.bind (hx : Gives x a) (hk : Gives (k a) c) : Gives (x >>= k) c := by
  intro r
  obtain ⟨r', hrun⟩ := hx r
  obtain ⟨r'', hrest⟩ := hk r'
  refine ⟨r'', ?_⟩
  rw [run_bind, hrun]
  exact hrest

theorem Gives.fails_bind (hx : Gives x a) (hk : Fails (k a)) : Fails (x >>= k) := by
  intro r
  obtain ⟨r', hrun⟩ := hx r
  obtain ⟨f, r'', hrest⟩ := hk r'
  refine ⟨f, r'', ?_⟩
  rw [run_bind, hrun]
  exact hrest

theorem Fails.bind (hx : Fails x) : Fails (x >>= k) := by
  intro r
  obtain ⟨f, r', hrun⟩ := hx r
  refine ⟨f, r', ?_⟩
  rw [run_bind, hrun]

/-- If what comes later fails in any case, it does not matter whether the part before it fails. -/
theorem fails_later (hk : ∀ a, Fails (k a)) : Fails (x >>= k) := by
  intro r
  rcases hrun : x.run.run r with ⟨f | a, r'⟩
  · refine ⟨f, r', ?_⟩
    rw [run_bind, hrun]
  · obtain ⟨f, r'', hrest⟩ := hk a r'
    refine ⟨f, r'', ?_⟩
    rw [run_bind, hrun]
    exact hrest

theorem work_of_gives {output : String} {incomplete : Bool}
    (h : Gives (main o s rounds) (output, incomplete)) :
    (work o s rounds).output = output ∧ (work o s rounds).code = if incomplete then 2 else 0 := by
  obtain ⟨r', hrun⟩ := h ⟨[], none⟩
  rw [work, hrun]
  exact ⟨rfl, rfl⟩

theorem work_of_fails (h : Fails (main o s rounds)) :
    (work o s rounds).output = "" ∧ (work o s rounds).code = 1 := by
  obtain ⟨f, r', hrun⟩ := h ⟨[], none⟩
  rw [work, hrun]
  exact ⟨rfl, rfl⟩

end Work

/-! ## What a run works on -/

/-- The text that the trees are read from. -/
inductive HasText (o : Options) (s : Surroundings) : String → Prop where
  | input : o.treeFile = "-" → HasText o s s.input
  | file {bytes : List Nat} {text : String} : o.treeFile ≠ "-" →
      s.files.read (File.normalize o.treeFile) = .ok bytes → File.textOf bytes = .ok text →
      HasText o s text

/-- The rules that a run works with. -/
inductive HasRules (o : Options) (s : Surroundings) (strategies : Strategies) : List Rule → Prop where
  | inline {pattern statement : String} {r : Rule} : o.inlineRule = some (pattern, statement) →
      Rule.compile strategies Work.inlineName pattern [statement] (some Work.inlineName) = .ok r →
      HasRules o s strategies [r]
  | files : o.inlineRule = none → (Rule.load s.files strategies o.ruleFiles).1 = none →
      HasRules o s strategies (Rule.load s.files strategies o.ruleFiles).2.rules

/-- Why a run cannot do its work. An empty path of the trace file stands for none. -/
inductive Unworkable (o : Options) (s : Surroundings) (strategies : Strategies) : Prop where
  | noRuleFile : o.inlineRule = none →
      (∀ path ∈ o.ruleFiles, Rule.hasRule s.files strategies path = false) →
      Unworkable o s strategies
  | inlineRule {pattern statement : String} {f : Fault} : o.inlineRule = some (pattern, statement) →
      Rule.compile strategies Work.inlineName pattern [statement] (some Work.inlineName) = .error f →
      Unworkable o s strategies
  | noTreeFile {c : File.Cause} : o.treeFile ≠ "-" →
      s.files.read (File.normalize o.treeFile) = .error c → Unworkable o s strategies
  | encoding {bytes : List Nat} {f : Text.Utf8.Fault} : o.treeFile ≠ "-" →
      s.files.read (File.normalize o.treeFile) = .ok bytes → File.textOf bytes = .error f →
      Unworkable o s strategies
  | trees {text : String} {e : Tree.ReadError} : HasText o s text → Tree.readAll text = .error e →
      Unworkable o s strategies
  | traceFile {path : String} {c : File.Cause} : o.traceFile = some path → path ≠ "" →
      s.files.write path = .error c → Unworkable o s strategies
  | budget {n : Int} : o.maxSteps = some n → n ≤ 0 → Unworkable o s strategies
  | workers : o.workers ≤ 0 → Unworkable o s strategies

/-- The session of a run. -/
def Options.session (o : Options) (rules : List Rule) : Session :=
  ⟨rules, o.maxSteps.map Int.toNat, .zero⟩

/-! ## Runs that fail -/

namespace Work

theorem gives_treeText (h : HasText o s text) : Gives (treeText o s) text := by
  rw [treeText]
  cases h with
  | input hinput =>
      rw [hinput]
      exact gives_pure _
  | file hfile hread htext =>
      rw [if_neg (by simpa using hfile)]
      simp only [hread, htext]
      exact gives_check _ _

theorem fails_treeText (hfile : o.treeFile ≠ "-")
    (h : (∃ c, s.files.read (File.normalize o.treeFile) = .error c) ∨
      ∃ bytes f, s.files.read (File.normalize o.treeFile) = .ok bytes ∧
        File.textOf bytes = .error f) : Fails (treeText o s) := by
  rw [treeText, if_neg (by simpa using hfile)]
  rcases h with ⟨c, hread⟩ | ⟨bytes, f, hread, htext⟩
  · simp only [hread]
    split
    · exact fails_throw _
    · exact fails_throw _
  · simp only [hread, htext]
    exact fails_check _ _

theorem fails_loadRules_inline {pattern statement : String} {f : Fault}
    (hinline : o.inlineRule = some (pattern, statement))
    (hcompile : Rule.compile strategies inlineName pattern [statement] (some inlineName) =
      .error f) : Fails (loadRules o s strategies) := by
  rw [loadRules, hinline]
  simp only [hcompile]
  exact (fails_check _ f).bind

theorem fails_loadRules_files (hinline : o.inlineRule = none)
    (hnone : ∀ path ∈ o.ruleFiles, Rule.hasRule s.files strategies path = false) :
    Fails (loadRules o s strategies) := by
  have hnil : (Rule.load s.files strategies o.ruleFiles).1 = none →
      (Rule.load s.files strategies o.ruleFiles).2.rules = [] :=
    fun hstop => (Rule.loaded_eq_nil_iff hstop).1.mpr hnone
  rw [loadRules, hinline]
  rcases hload : Rule.load s.files strategies o.ruleFiles with ⟨stop, l⟩
  rw [hload] at hnil
  refine (gives_modify _).fails_bind ?_
  cases stop with
  | some f => exact fails_throw _
  | none =>
      have hrules : l.rules = [] := hnil rfl
      simp only [hrules, List.isEmpty_nil, if_true]
      exact (fails_throw _).bind

theorem fails_openTrace {path : String} {c : File.Cause} (hpath : o.traceFile = some path)
    (hne : path ≠ "") (hwrite : s.files.write path = .error c) : Fails (openTrace o s) := by
  rw [openTrace, hpath]
  simp only [String.isEmpty_iff, hne, if_false, hwrite]
  exact (fails_check _ c).bind

/-- A run of which something cannot be worked with fails, whatever else there is. -/
theorem fails_main (hhead : HeadFinder.ofName o.headFinder = .ok head)
    (h : Unworkable o s ⟨head, .stripped⟩) : Fails (main o s rounds) := by
  rw [main, hhead]
  refine (gives_check _ head).fails_bind ?_
  -- other parts may be at fault too, and the first of them is told
  cases h with
  | noRuleFile hinline hnone => exact (fails_loadRules_files hinline hnone).bind
  | inlineRule hinline hcompile => exact (fails_loadRules_inline hinline hcompile).bind
  | noTreeFile hfile hread =>
      refine fails_later fun loaded => fails_later fun _ => Fails.bind ?_
      exact fails_treeText hfile (Or.inl ⟨_, hread⟩)
  | encoding hfile hread htext =>
      refine fails_later fun loaded => fails_later fun _ => Fails.bind ?_
      exact fails_treeText hfile (Or.inr ⟨_, _, hread, htext⟩)
  | @trees text e htext hread =>
      refine fails_later fun loaded => fails_later fun _ => ?_
      refine (gives_treeText htext).fails_bind ?_
      simp only [hread]
      exact (fails_check _ e).bind
  | traceFile hpath hne hwrite =>
      refine fails_later fun loaded => fails_later fun _ => fails_later fun text =>
        fails_later fun trees => fails_later fun session => Fails.bind ?_
      exact fails_openTrace hpath hne hwrite
  | @budget n hsteps hn =>
      refine fails_later fun loaded => fails_later fun _ => fails_later fun text =>
        fails_later fun trees => Fails.bind ?_
      rw [Session.start, hsteps, if_pos (by simpa using hn)]
      exact fails_check _ _
  | workers hworkers =>
      refine fails_later fun loaded => fails_later fun _ => fails_later fun text =>
        fails_later fun trees => fails_later fun session => fails_later fun _ => Fails.bind ?_
      rw [Session.checkWorkers, if_pos (by simpa using hworkers)]
      exact fails_check _ _

end Work

/-! ## Runs that come to their end -/

theorem HasText.exists_of_workable (h : ¬ Unworkable o s strategies) :
    ∃ text trees, HasText o s text ∧ Tree.readAll text = .ok trees := by
  have htext : ∃ text, HasText o s text := by
    by_cases hfile : o.treeFile = "-"
    · exact ⟨_, .input hfile⟩
    · cases hread : s.files.read (File.normalize o.treeFile) with
      | error c => exact absurd (.noTreeFile hfile hread) h
      | ok bytes =>
          cases htext : File.textOf bytes with
          | error f => exact absurd (.encoding hfile hread htext) h
          | ok text => exact ⟨text, .file hfile hread htext⟩
  obtain ⟨text, htext⟩ := htext
  cases hread : Tree.readAll text with
  | error e => exact absurd (.trees htext hread) h
  | ok trees => exact ⟨text, trees, htext, hread⟩

namespace Work

theorem gives_loadRules (h : ¬ Unworkable o s strategies)
    (hload : o.inlineRule = none → (Rule.load s.files strategies o.ruleFiles).1 = none)
    (hfiles : o.inlineRule ≠ none → o.ruleFiles = []) :
    ∃ rules skipped, HasRules o s strategies rules ∧
      Gives (loadRules o s strategies) (rules, skipped) ∧
      (skipped = true ↔ ∃ path ∈ o.ruleFiles, Rule.hasRule s.files strategies path = false) := by
  cases hinline : o.inlineRule with
  | some rule =>
      obtain ⟨pattern, statement⟩ := rule
      cases hcompile : Rule.compile strategies inlineName pattern [statement] (some inlineName) with
      | error f => exact absurd (.inlineRule hinline hcompile) h
      | ok r =>
          refine ⟨[r], false, .inline hinline hcompile, ?_, ?_⟩
          · rw [loadRules, hinline]
            simp only [hcompile]
            exact (gives_check _ r).bind (gives_pure _)
          · rw [hfiles (by simp [hinline])]
            simp
  | none =>
      have hstop := hload hinline
      obtain ⟨hrules, hfaults⟩ := Rule.loaded_eq_nil_iff hstop
      refine ⟨_, !(Rule.load s.files strategies o.ruleFiles).2.faults.isEmpty,
        .files hinline hstop, ?_, ?_⟩
      · have hne : (Rule.load s.files strategies o.ruleFiles).2.rules.isEmpty = false := by
          rw [List.isEmpty_eq_false_iff]
          exact fun hnil => h (.noRuleFile hinline (hrules.mp hnil))
        rw [loadRules, hinline]
        rcases hloaded : Rule.load s.files strategies o.ruleFiles with ⟨stop, l⟩
        rw [hloaded] at hstop hne
        cases hstop
        refine (gives_modify _).bind ?_
        simp only [hne]
        exact gives_pure _
      · rw [Bool.not_eq_true', List.isEmpty_eq_false_iff, Ne, hfaults]
        simp

theorem gives_openTrace (h : ¬ Unworkable o s strategies) : Gives (openTrace o s) () := by
  rw [openTrace]
  cases hpath : o.traceFile with
  | none => exact gives_pure _
  | some path =>
      by_cases hempty : path = ""
      · simp only [hempty]
        exact gives_pure _
      · simp only [String.isEmpty_iff, hempty, if_false]
        cases hwrite : s.files.write path with
        | error c => exact absurd (.traceFile hpath hempty hwrite) h
        | ok u => exact (gives_check _ u).bind (gives_modify _)

theorem start_eq (h : ¬ Unworkable o s strategies) (hnodup : (rules.map Rule.name).Nodup) :
    Session.start rules o.maxSteps = .ok (o.session rules) := by
  have hbudget : ¬ o.maxSteps.any (· ≤ 0) = true := by
    intro hany
    obtain ⟨n, hn, hle⟩ := (Option.any_eq_true _ _).mp hany
    exact h (.budget hn (by simpa using hle))
  rw [Session.start, if_neg hbudget, Session.duplicates_eq_nil_iff.mpr hnodup]
  rfl

/-- A run that can be worked with, and whose reduction comes to its end, gives the blocks of the
results. -/
theorem gives_main (hhead : HeadFinder.ofName o.headFinder = .ok head)
    (h : ¬ Unworkable o s ⟨head, .stripped⟩)
    (hrules : Gives (loadRules o s ⟨head, .stripped⟩) (rules, skipped))
    (htext : HasText o s text) (hread : Tree.readAll text = .ok trees)
    (hnodup : (rules.map Rule.name).Nodup)
    (hreduce : ((o.session rules).reduceCorpus rounds trees).1 = .ok results) :
    Gives (main o s rounds)
      (String.join (results.map (block o)), skipped || results.any (·.error.isSome)) := by
  have hworkers : ¬ (some o.workers).any (· ≤ 0) = true := by
    intro hany
    exact h (.workers (by simpa using hany))
  rw [main, hhead]
  refine (gives_check _ head).bind (hrules.bind ?_)
  refine (gives_modify _).bind ((gives_treeText htext).bind ?_)
  simp only [hread, start_eq h hnodup]
  refine (gives_check _ trees).bind ((gives_check _ (o.session rules)).bind ?_)
  refine (gives_openTrace h).bind ?_
  rw [Session.checkWorkers, if_neg hworkers]
  refine (gives_check _ ()).bind ?_
  rcases hrun : (o.session rules).reduceCorpus rounds trees with ⟨outcome, session, report⟩
  rw [hrun] at hreduce
  cases hreduce
  exact (gives_modify _).bind ((gives_modify _).bind ((gives_modify _).bind (gives_pure _)))

end Work

end Treebank.CommandLine
