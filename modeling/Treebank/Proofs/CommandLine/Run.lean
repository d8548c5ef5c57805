import Treebank.Proofs.CommandLine.Arguments
import Treebank.Proofs.CommandLine.Work
import Treebank.Proofs.Session.Ending

/-!
# What a run prints

A run prints one block of text for each tree, in the order of the trees, or nothing at all. The block
for a tree depends on the rules, the options and that tree alone. The code of the run is 1 if nothing
is printed, 2 if a rule file was left out or surgery failed on some tree, and 0 otherwise.
-/

namespace Treebank.CommandLine

variable {o : Options} {t : Tree} {trees : List Tree} {r : TreeResult} {results : List TreeResult}
  {b : String} {turns : Nat}

/-! ## Blocks -/

/-- What stands before the result for a tree, given how often rules were applied. -/
def heading (o : Options) (t : Tree) (applications : Nat) : String :=
  if o.showMatched ∧ 0 < applications then
    "Operated on:\n" ++ Work.treeLine o (some t) ++ "\nResult:\n"
  else ""

/-- What is printed for a tree in a session: the tree itself if surgery fails on it, `null` if it is
removed, and otherwise what it is reduced to. -/
inductive Printed (o : Options) (s : Session) (t : Tree) : String → Prop where
  | failed {turns : Nat} {r : TreeResult} : s.GivesAlone turns t r → r.error.isSome →
      Printed o s t (Work.treeLine o (some t) ++ "\n")
  | deleted {turns : Nat} {r : TreeResult} : s.GivesAlone turns t r → r.error = none →
      r.tree = none → Printed o s t (heading o t r.applications ++ "null\n")
  | reduced {turns : Nat} {r : TreeResult} {u : Tree} : s.GivesAlone turns t r → r.error = none →
      r.tree = some u →
      Printed o s t (heading o t r.applications ++ (Work.treeLine o (some u) ++ "\n"))

/-- The text is printed for the tree, and no other one is. -/
def IsBlock (o : Options) (s : Session) (t : Tree) (b : String) : Prop :=
  ∀ b', Printed o s t b' ↔ b' = b

/-- Surgery fails on the tree in a session. -/
def FailsOn (s : Session) (t : Tree) : Prop :=
  ∃ turns r, s.GivesAlone turns t r ∧ r.error.isSome

namespace Work

variable {session : Session}

theorem block_of_failed (hmatched : r.matched = false) (htree : r.tree = some t) :
    block o r = treeLine o (some t) ++ "\n" := by
  rw [block, hmatched, htree, Bool.and_false]
  rfl

theorem block_eq (hgiven : r.given = t) :
    block o r = heading o t r.applications ++ (treeLine o r.tree ++ "\n") := by
  have hmatched : r.matched = decide (0 < r.applications) := by
    rw [Result.matched, Bool.eq_iff_iff]
    simp [Nat.pos_iff_ne_zero]
  rw [block, heading, hgiven, hmatched]
  simp only [Bool.and_eq_true, decide_eq_true_eq]
  split
  · rfl
  · rw [String.empty_append]

/-- The block of the result for a tree is all that is printed for it. -/
theorem printed_iff (h : session.GivesAlone turns t r) :
    Printed o session t b ↔ b = block o r := by
  obtain ⟨hgiven, hfailed⟩ := h.given
  constructor
  · intro hprinted
    cases hprinted with
    | failed h' herror =>
        obtain rfl := h.unique h'
        obtain ⟨htree, hmatched⟩ := hfailed herror
        exact (block_of_failed hmatched htree).symm
    | deleted h' herror htree =>
        obtain rfl := h.unique h'
        rw [block_eq hgiven, htree]
        rfl
    | reduced h' herror htree =>
        obtain rfl := h.unique h'
        rw [block_eq hgiven, htree]
  · rintro rfl
    cases herror : r.error with
    | some d =>
        have hsome : r.error.isSome := by rw [herror]; rfl
        obtain ⟨htree, hmatched⟩ := hfailed hsome
        rw [block_of_failed hmatched htree]
        exact .failed h hsome
    | none =>
        rw [block_eq hgiven]
        cases htree : r.tree with
        | none => exact .deleted h herror htree
        | some u => exact .reduced h herror htree

theorem failsOn_iff (h : session.GivesAlone turns t r) : FailsOn session t ↔ r.error.isSome := by
  constructor
  · rintro ⟨turns', r', h', herror⟩
    rwa [h.unique h']
  · exact fun herror => ⟨turns, r, h, herror⟩

/-- The results for the trees of a corpus give the blocks for these trees, and tell whether surgery
failed on any of them. -/
theorem blocks_of_reduceCorpus (h : (session.reduceCorpus turns trees).1 = .ok results) :
    List.Forall₂ (IsBlock o session) trees (results.map (block o)) ∧
    (results.any (·.error.isSome) = true ↔ ∃ t ∈ trees, FailsOn session t) := by
  obtain ⟨rs, halone, rfl⟩ := Session.reduceCorpus_eq_ok_iff.mp h
  constructor
  · rw [map_numbered fun _ _ => rfl, List.forall₂_map_right_iff]
    exact halone.imp fun t r hone b => printed_iff hone
  · have hany : (numbered rs).any (·.error.isSome) = rs.any (·.error.isSome) := by
      have hmap := map_numbered (g := fun r => r.error.isSome) (fun _ _ => rfl) rs
      simpa only [List.any_map, Function.id_comp] using congrArg (List.any · id) hmap
    rw [hany]
    clear h hany
    induction halone with
    | nil => simp
    | cons hone _ ih => simp [failsOn_iff hone, ih]

end Work

/-! ## Runs -/

/-- The outcome of a run that prints these blocks, with something left out or not. -/
structure Outcome.Prints (outcome : Outcome) (blocks : List String) (incomplete : Prop) : Prop where
  output_eq : outcome.output = String.join blocks
  code_of_incomplete : incomplete → outcome.code = 2
  code_of_complete : ¬ incomplete → outcome.code = 0

/-- Workers who share out the trees in a session come to their end, however many they are and in
whatever order they take their steps, and then there are these blocks to print, and it is told whether
surgery failed on some tree. -/
def PrintedByWorkers (o : Options) (s : Session) (trees : List Tree) (blocks : List String) : Prop :=
  ∃ most, ∀ workers n w,
    Pool.Steps workers n
      (.start s (Forest.empty.plantEach trees).2 (Forest.empty.plantEach trees).1) w →
    n ≤ most ∧ (0 < workers → ¬ w.IsFinished → ∃ w', Pool.Step workers w w') ∧
      (w.IsFinished → w.results.map (fun r => Work.block o (r.read w.forest)) = blocks ∧
        (w.results.any (·.error.isSome) = true ↔ ∃ t ∈ trees, FailsOn s t))

theorem printedByWorkers {s : Session} (h : (s.reduceCorpus turns trees).1 = .ok results) :
    PrintedByWorkers o s trees (results.map (Work.block o)) := by
  refine ⟨trees.length * (turns + 2), fun workers n w hsteps => ?_⟩
  obtain ⟨hle, hstep, hresults⟩ := Pool.results_of_reduceCorpus h hsteps
  refine ⟨hle, hstep, fun hdone => ?_⟩
  have hfailed := (Work.blocks_of_reduceCorpus (o := o) h).2
  rw [← hresults hdone, List.any_map] at hfailed
  rw [← hresults hdone, List.map_map]
  exact ⟨rfl, hfailed⟩

/-- A run prints nothing, with the code 1, if no rule file can be used, the rule among the arguments
or one of the trees is malformed, the trees cannot be read, the trace file cannot be written, or the
budget or the number of workers is not positive. Otherwise, if the names of the rules differ and the
reduction comes to its end, it prints the one block that there is for each tree, in the order of the
trees, with the code 2 if a rule file was left out or surgery failed on a tree, and 0 if not, whether
or not trees were removed or the budget was used up for them. Workers come to the same blocks. -/
theorem run_prints_all_or_nothing {args : List String}
    (hargs : readArguments HeadFinder.names args = .ok (.work o)) (s : Surroundings) :
    ∃ head, HeadFinder.ofName o.headFinder = .ok head ∧
      let strategies : Strategies := ⟨head, .stripped⟩
      (Unworkable o s strategies → ∀ rounds,
        (run args s rounds).output = "" ∧ (run args s rounds).code = 1) ∧
      (¬ Unworkable o s strategies →
        (o.inlineRule = none → (Rule.load s.files strategies o.ruleFiles).1 = none) →
        ∃ rules text trees, HasRules o s strategies rules ∧ HasText o s text ∧
          Tree.readAll text = .ok trees ∧
          ((rules.map Rule.name).Nodup → ∀ turns results,
            ((o.session rules).reduceCorpus turns trees).1 = .ok results →
            ∃ blocks, List.Forall₂ (IsBlock o (o.session rules)) trees blocks ∧
              (∀ rounds ≥ turns, (run args s rounds).Prints blocks
                ((∃ path ∈ o.ruleFiles, Rule.hasRule s.files strategies path = false) ∨
                  ∃ t ∈ trees, FailsOn (o.session rules) t)) ∧
              PrintedByWorkers o (o.session rules) trees blocks)) := by
  obtain ⟨head, hhead⟩ := exists_headFinder hargs
  have hrun : ∀ rounds, run args s rounds = work o s rounds := by
    intro rounds
    rw [run, hargs]
  refine ⟨head, hhead, fun hbad rounds => ?_, fun hgood hload => ?_⟩
  · rw [hrun]
    exact Work.work_of_fails (Work.fails_main hhead hbad)
  obtain ⟨rules, skipped, hhas, hgives, hskipped⟩ :=
    Work.gives_loadRules hgood hload (exists_taken hargs).2
  obtain ⟨text, trees, htext, hread⟩ := HasText.exists_of_workable hgood
  refine ⟨rules, text, trees, hhas, htext, hread, fun hnodup turns results hreduce => ?_⟩
  obtain ⟨hblocks, hfailed⟩ := Work.blocks_of_reduceCorpus (o := o) hreduce
  refine ⟨_, hblocks, fun rounds hrounds => ?_, printedByWorkers hreduce⟩
  have hmore := Session.reduceCorpus_mono hreduce hrounds
  obtain ⟨houtput, hcode⟩ := Work.work_of_gives
    (Work.gives_main hhead hgood hgives htext hread hnodup hmore)
  rw [hrun]
  refine ⟨houtput, fun hincomplete => ?_, fun hcomplete => ?_⟩
  · rw [hcode, if_pos]
    rwa [Bool.or_eq_true, hskipped, hfailed]
  · rw [hcode, if_neg]
    rwa [Bool.or_eq_true, hskipped, hfailed]

/-! ## A run -/

theorem eq_ok_of_toOption {ε α : Type} {x : Except ε α} {a : α} (h : x.toOption = some a) :
    x = .ok a := by
  cases x with
  | error e => cases h
  | ok b => rw [Option.some.inj h]

/-- Noun phrases are removed from the standard input by two workers. -/
def removalOptions : Options :=
  ⟨[], "-", some ("NP=n", "delete n"), true, true, none, none, "collins", 2, false⟩

def removalStrategies : Strategies := ⟨(HeadTable.collins .stripped).finder, .stripped⟩

def removalRule : Rule :=
  let root := .node (some ⟨[.literal "NP"], false⟩) (some "n") none
  ⟨"-po", ⟨"NP=n", root, removalStrategies⟩, [.delete ["n"]], some "-po"⟩

theorem compile_removalRule : Rule.compile removalStrategies Work.inlineName "NP=n" ["delete n"]
    (some Work.inlineName) = .ok removalRule := by
  have htokens : Pattern.tokens "NP=n" =
      .ok [⟨.label, "NP", 0, false, false⟩, ⟨.name, "n", 2, false, true⟩] := by decide +kernel
  have hread : Pattern.read "NP=n" = .ok removalRule.pattern.root := by
    rw [Pattern.read, htokens]
    rfl
  have htrim : Text.trim "NP=n" = "NP=n" := by decide +kernel
  have hpattern : Rule.compilePattern removalStrategies "NP=n" = .ok removalRule.pattern := by
    rw [Rule.compilePattern, CompiledPattern.compile, hread, htrim]
    rfl
  have hstatements : Statement.compile ["delete n"] (some removalRule.pattern) =
      .ok removalRule.statements := by decide +kernel
  rw [Rule.compile, hpattern, ok_bind, hstatements]
  rfl

theorem left_by_removalRule :
    (removalOptions.session [removalRule]).GivesAlone 1 (.node "S" [.node "x" []])
      ⟨0, .node "S" [.node "x" []], some (.node "S" [.node "x" []]), 0, [], false, none⟩ := by
  refine Session.givesAlone_of_no_match (List.forall_mem_singleton.mpr ?_)
  rw [CompiledPattern.firstMatch?_eq]
  rfl

theorem removed_by_removalRule : ∃ r,
    (removalOptions.session [removalRule]).GivesAlone 2 (.node "NP" [.node "y" []]) r ∧
      r.error = none ∧ r.tree = none ∧ r.applications = 1 := by
  let t := Tree.node "NP" [.node "y" []]
  let p := Progress.start 0 ((Forest.empty.plant t).2.duplicate 0).2 0
  have htop : p.forest.tree 0 = t := by decide +kernel
  have hends : p.forest.endlessBelow 0 = false := by decide +kernel
  have hmatch : removalRule.pattern.firstMatch? (p.forest.tree 0) =
      some ⟨.top t, [("n", .top t)]⟩ := by
    rw [htop, CompiledPattern.firstMatch?_eq]
    rfl
  have hturn : ∃ q, Reduction.runFrom p (Reduction.turn none [removalRule]) =
      (.ok [removalRule], q) ∧ q.root = none ∧ q.applications = 1 := by
    rw [Reduction.runFrom_turn_cons, Rule.runFrom_turn_of_match rfl hends hmatch (by rintro _ ⟨⟩)]
    exact ⟨_, rfl, rfl, rfl⟩
  obtain ⟨q, hturn, hroot, happlied⟩ := hturn
  have hlast : Reduction.runFrom q (Reduction.turn none [removalRule]) = (.ok [], q) := by
    rw [Reduction.runFrom_turn_cons, Progress.isOver, hroot]
    rfl
  have hfinishes : Stage.Finishes [removalRule] none 0 0 4 .waiting (Forest.empty.plant t).2
      (.ofProgress 2 q) q.forest :=
    .next Stage.next_of_waiting (.next (Stage.next_of_turn hturn)
      (.next (Stage.next_of_turn hlast) (.next rfl .done)))
  refine ⟨_, Session.reduceCorpus_singleton.mpr ⟨4, Nat.le_refl 4, _, _, rfl, hfinishes⟩, rfl, ?_,
    happlied⟩
  exact congrArg (Option.map q.forest.tree) hroot

def removalInput : Surroundings :=
  ⟨⟨fun _ => .error .missing, fun _ => .ok ()⟩, "(S x) (NP y)"⟩

theorem readAll_removalInput : Tree.readAll removalInput.input =
    .ok [.node "S" [.node "x" []], .node "NP" [.node "y" []]] :=
  eq_ok_of_toOption (by decide +kernel)

theorem removalInput_workable : ¬ Unworkable removalOptions removalInput removalStrategies := by
  intro h
  cases h with
  | noRuleFile hinline => cases hinline
  | inlineRule hinline hfails =>
      cases hinline
      rw [compile_removalRule] at hfails
      cases hfails
  | noTreeFile hfile => exact hfile rfl
  | encoding hfile => exact hfile rfl
  | trees htext hfails =>
      cases htext with
      | input =>
          rw [readAll_removalInput] at hfails
          cases hfails
      | file hfile => exact hfile rfl
  | traceFile hpath => cases hpath
  | budget hsteps => cases hsteps
  | workers hworkers =>
      revert hworkers
      decide

/-- A tree without a match is printed alone, and one that is removed after what it was before. -/
theorem run_of_removal :
    let args := ["-s", "-m", "--workers", "2", "-po", "NP=n", "delete n"]
    readArguments HeadFinder.names args = .ok (.work removalOptions) ∧ ∀ rounds ≥ 2,
      (run args removalInput rounds).output =
        "(S x)\nOperated on:\n(NP y)\nResult:\nnull\n" ∧
      (run args removalInput rounds).code = 0 := by
  intro args
  have hargs : readArguments HeadFinder.names args = .ok (.work removalOptions) :=
    eq_ok_of_work? (by decide +kernel)
  obtain ⟨head, hhead, -, hgood⟩ := run_prints_all_or_nothing hargs removalInput
  obtain rfl : (HeadTable.collins .stripped).finder = head := Except.ok.inj hhead
  obtain ⟨rules, text, trees, hrules, htext, htrees, hprints⟩ :=
    hgood removalInput_workable (by rintro ⟨⟩)
  obtain rfl : [removalRule] = rules := by
    cases hrules with
    | inline hinline hcompile =>
        cases hinline
        rw [Except.ok.inj (compile_removalRule.symm.trans hcompile)]
    | files hinline => cases hinline
  obtain rfl : [.node "S" [.node "x" []], .node "NP" [.node "y" []]] = trees := by
    cases htext with
    | input => exact Except.ok.inj (readAll_removalInput.symm.trans htrees)
    | file hfile => exact absurd rfl hfile
  have hfirst := left_by_removalRule
  obtain ⟨r, hsecond, herror, htree, happlied⟩ := removed_by_removalRule
  have hreduce := Session.reduceCorpus_eq_ok_iff.mpr
    ⟨_, .cons (hfirst.mono (Nat.le_succ 1)) (.cons hsecond .nil), rfl⟩
  obtain ⟨blocks, hblocks, hrun, -⟩ := hprints (List.nodup_singleton _) 2 _ hreduce
  obtain ⟨b, _, hb, hrest, rfl⟩ := List.forall₂_cons_left_iff.mp hblocks
  obtain ⟨c, _, hc, hnil, rfl⟩ := List.forall₂_cons_left_iff.mp hrest
  obtain rfl := List.forall₂_nil_left_iff.mp hnil
  have hb := (hb _).mp (.reduced hfirst rfl rfl)
  have hc := (hc _).mp (.deleted hsecond herror htree)
  refine ⟨hargs, fun rounds hrounds => ⟨?_, (hrun rounds hrounds).code_of_complete ?_⟩⟩
  · rw [(hrun rounds hrounds).output_eq, ← hb, ← hc, happlied]
    decide +kernel
  · rintro (⟨path, hpath, -⟩ | ⟨v, hv, hfails⟩)
    · cases hpath
    · rcases List.mem_pair.mp hv with rfl | rfl
      · cases (Work.failsOn_iff hfirst).mp hfails
      · have hsome := (Work.failsOn_iff hsecond).mp hfails
        rw [herror] at hsome
        cases hsome

end Treebank.CommandLine
