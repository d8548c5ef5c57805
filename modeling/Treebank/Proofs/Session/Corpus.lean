import Treebank.Proofs.Search.Reports
import Treebank.Proofs.Session.Pool

/-!
# A corpus

Trees of a corpus are reduced one after the other, or by workers side by side, in whatever order the
workers come to their results. Either way the results are those of the trees by themselves.
-/

namespace Treebank

open Session

variable {s : Session} {rs : List TreeResult} {own : Nat → NodeId → Prop} {left : Nat → Nat}
  {turns i : Nat} {w : Pool} {top : NodeId} {tops : List NodeId} {ts : List Tree} {stage : Stage}
  {f : Forest}

namespace Pool

/-- The nodes of the tree with this number. -/
def Stands (f : Forest) (tops : List NodeId) (i : Nat) (n : NodeId) : Prop :=
  ∃ top, tops[i]? = some top ∧ f.Reaches top n

theorem apart_stands (hstand : List.Forall₂ f.TreeAt tops ts) (hnodup : tops.Nodup) :
    Apart (Stands f tops) f.size := by
  obtain ⟨hlen, hstand⟩ := List.forall₂_iff_get.mp hstand
  constructor
  · rintro i n ⟨top, htop, hn⟩
    obtain ⟨hi, rfl⟩ := List.getElem?_eq_some_iff.mp htop
    exact (hstand i hi (hlen ▸ hi)).lt_size_of_reaches hn
  · rintro i j n ⟨top, htop, hn⟩ ⟨top', htop', hn'⟩
    obtain ⟨hi, rfl⟩ := List.getElem?_eq_some_iff.mp htop
    obtain ⟨hj, rfl⟩ := List.getElem?_eq_some_iff.mp htop'
    by_contra hne
    refine (hstand i hi (hlen ▸ hi)).disjoint (hstand j hj (hlen ▸ hj)) (fun heq => hne ?_) hn hn'
    exact hnodup.getElem_inj_iff.mp heq

theorem exists_follows_start (hstand : List.Forall₂ f.TreeAt tops ts)
    (halone : List.Forall₂ (s.GivesAlone turns) ts rs) (i : Nat) :
    ∃ k ≤ turns + 2, ∀ top r, tops[i]? = some top → rs[i]? = some r →
      Job.Follows s.rules s.budget i (Stands f tops i) k f ⟨top, .waiting⟩ r := by
  obtain ⟨hlen, hstand⟩ := List.forall₂_iff_get.mp hstand
  obtain ⟨hlen', halone⟩ := List.forall₂_iff_get.mp halone
  by_cases hi : i < tops.length
  · have hit := hlen ▸ hi
    have hown : ∀ n, f.Reaches tops[i] n → Stands f tops i n :=
      fun n hn => ⟨_, List.getElem?_eq_getElem hi, hn⟩
    obtain ⟨k, hk, hfollows⟩ :=
      Job.follows_start (hstand i hi hit) (halone i hit (hlen' ▸ hit)) hown i
    refine ⟨k, hk, fun top r htop hr => ?_⟩
    rw [List.getElem?_eq_getElem hi] at htop
    rw [List.getElem?_eq_getElem (hlen' ▸ hit)] at hr
    cases htop
    cases hr
    exact hfollows
  · refine ⟨0, Nat.zero_le _, fun top r htop _ => ?_⟩
    rw [List.getElem?_eq_none (Nat.le_of_not_lt hi)] at htop
    cases htop

theorem isolated_start (hstand : List.Forall₂ f.TreeAt tops ts) (hnodup : tops.Nodup)
    (halone : List.Forall₂ (s.GivesAlone turns) ts rs) :
    ∃ left, (start s f tops).Isolated s rs (Stands f tops) left ∧ ∀ i, left i ≤ turns + 2 := by
  choose left hleft hfollows using exists_follows_start hstand halone
  refine ⟨left, ⟨rfl, rfl, ?_, apart_stands hstand hnodup, fun i job r hi hr => ?_, ?_⟩, hleft⟩
  · exact (List.length_map _).trans (hstand.length_eq.trans halone.length_eq)
  · rw [start, List.getElem?_map] at hi
    obtain ⟨top, htop, rfl⟩ := Option.map_eq_some_iff.mp hi
    exact hfollows i top r htop hr
  · have hnone : (start s f tops).results = [] := by simp [start, results, Stage.result?]
    rw [hnone]
    exact Totals.sums_nil s.totals

/-! ## One after the other -/

/-- A tree is worked on until there is a result. -/
theorem Isolated.finish (h : w.Isolated s rs own left) (hi : w.jobs[i]? = some ⟨top, stage⟩)
    (hopen : stage.result? = none) : ∃ r g own',
      stage.Finishes s.rules s.budget i top (left i) w.forest r g ∧
      Isolated s rs own' (Function.update left i 0)
        ⟨w.session.record r, g, w.jobs.set i ⟨top, .done r⟩⟩ := by
  -- every step of the work leaves fewer stages
  induction hk : left i using Nat.strong_induction_on generalizing w own left stage with
  | _ k ih =>
      obtain ⟨_, _, hjob⟩ := h.exists_result hi
      obtain ⟨stage', f, hnext⟩ := hjob.exists_next hopen
      have hstep := hnext
      rw [← h.rules_eq, ← h.budget_eq] at hstep
      obtain ⟨j, hj, h'⟩ := h.advance hi hstep
      obtain rfl := hk.symm.trans hj
      obtain ⟨hlt, _⟩ := List.getElem?_eq_some_iff.mp hi
      have hset : (w.advance i top stage' f).jobs[i]? = some ⟨top, stage'⟩ :=
        List.getElem?_set_self hlt
      cases hres : stage'.result? with
      | none =>
          obtain ⟨r, g, own', hfinishes, hlast⟩ :=
            ih j (Nat.lt_succ_self j) h' hset hres (Function.update_self ..)
          rw [Function.update_idem] at hlast
          simp only [Pool.advance, hres, List.set_set] at hlast
          exact ⟨r, g, own', .next hnext hfinishes, hlast⟩
      | some r =>
          obtain ⟨_, _, hjob'⟩ := h'.exists_result hset
          have hlast := (hjob'.of_done hres).1
          rw [Function.update_self] at hlast
          obtain rfl : stage' = .done r := by
            cases stage' <;> cases hres
            rfl
          subst hlast
          exact ⟨r, f, _, .next hnext .done, h'⟩

/-- The trees that wait at the end of a corpus are reduced one after the other. -/
theorem Isolated.reduceEach (ready : List Job) {rest : List NodeId} {d : Desk}
    (h : Isolated s rs own left ⟨d.session, d.forest, ready ++ rest.map (⟨·, .waiting⟩)⟩)
    (hleft : ∀ i, left i ≤ turns + 2) : ∃ results d' own' left',
      (reduceEach turns ready.length rest).run.run d = (.ok results, d') ∧
      results.length = rest.length ∧
      Isolated s rs own' left' ⟨d'.session, d'.forest,
        ready ++ List.zipWith (fun top r => ⟨top, .done r⟩) rest results⟩ := by
  induction rest generalizing ready d own left with
  | nil => exact ⟨[], d, own, left, rfl, rfl, h⟩
  | cons n rest ih =>
      have hi : (ready ++ (n :: rest).map (⟨·, .waiting⟩) : List Job)[ready.length]? =
          some ⟨n, .waiting⟩ := by simp
      obtain ⟨r, g, own₁, hfinishes, h₁⟩ := h.finish hi rfl
      rw [← h.rules_eq, ← h.budget_eq] at hfinishes
      obtain ⟨notices, events, hone⟩ := reduceOne_of_finishes (hleft _) hfinishes
      have hjobs : (ready ++ (n :: rest).map (⟨·, .waiting⟩) : List Job).set ready.length
          ⟨n, .done r⟩ = (ready ++ [⟨n, .done r⟩]) ++ rest.map (⟨·, .waiting⟩) := by simp
      simp only [hjobs] at h₁
      obtain ⟨results, d', own', left', hrun, hlen, h'⟩ :=
        ih (ready ++ [⟨n, .done r⟩]) (d := ⟨d.session.record r, g, notices, events⟩) h₁ fun i => by
          by_cases hi : i = ready.length
          · rw [hi, Function.update_self]
            exact Nat.zero_le _
          · rw [Function.update_of_ne hi]
            exact hleft i
      refine ⟨r :: results, d', own', left', ?_, congrArg (· + 1) hlen, ?_⟩
      · rw [List.length_append, List.length_singleton] at hrun
        rw [run_reduceEach_cons, hone]
        simp only [hrun]
      · simpa using h'

/-- All trees have these results. -/
def ended (d : Desk) (tops : List NodeId) (results : List (Result NodeId)) : Pool :=
  ⟨d.session, d.forest, List.zipWith (fun top r => ⟨top, .done r⟩) tops results⟩

theorem isFinished_ended (d : Desk) (tops : List NodeId) (results : List (Result NodeId)) :
    (ended d tops results).IsFinished := by
  intro job hjob
  obtain ⟨i, hi, rfl⟩ := List.getElem_of_mem hjob
  simp only [ended, List.getElem_zipWith]
  rfl

theorem results_ended (d : Desk) {results : List (Result NodeId)}
    (h : results.length = tops.length) : (ended d tops results).results = results := by
  induction tops generalizing results with
  | nil => exact (List.eq_nil_of_length_eq_zero h).symm
  | cons top tops ih =>
      cases results with
      | nil => cases h
      | cons r results => exact congrArg (r :: ·) (ih (Nat.succ.inj h))

theorem Isolated.reduceEach_start (h : (start s f tops).Isolated s rs own left)
    (hleft : ∀ i, left i ≤ turns + 2) (notices : Array Notice) (events : Array Event) :
    ∃ results d, (Session.reduceEach turns 0 tops).run.run ⟨s, f, notices, events⟩ = (.ok results, d) ∧
      results.map (·.read d.forest) = numbered rs ∧ s.totals.Sums d.session.totals rs := by
  obtain ⟨results, d, own', left', hrun, hlen, hlast⟩ :=
    Isolated.reduceEach [] (d := ⟨s, f, notices, events⟩) h hleft
  have hended : (ended d tops results).Isolated s rs own' left' := hlast
  have hdone := isFinished_ended d tops results
  have hread := hended.map_read_results hdone
  rw [results_ended d hlen] at hread
  exact ⟨results, d, hrun, hread, hended.sums_results hdone⟩

end Pool

/-! ## The results of a corpus -/

/-- The results for the trees of a corpus are those for the trees by themselves, in the order of the
trees, and the totals are sums over them, when the trees are reduced one after the other and when
they are shared out to workers, in any order of the workers' steps. Every result has the tree as it
was given, and one for a tree whose surgery has failed has nothing else. -/
theorem corpus_isolated (s : Session) {f : Forest} {tops : List NodeId} {ts : List Tree}
    {rs : List TreeResult} (hstand : List.Forall₂ f.TreeAt tops ts) (hnodup : tops.Nodup)
    (halone : List.Forall₂ (fun t r => ∃ turns, s.GivesAlone turns t r) ts rs) :
    ∃ bound,
      (∀ turns ≥ bound, ∀ notices events, ∃ results d,
        (reduceEach turns 0 tops).run.run ⟨s, f, notices, events⟩ = (.ok results, d) ∧
        results.map (·.read d.forest) = numbered rs ∧ s.totals.Sums d.session.totals rs) ∧
      (∀ turns ≥ bound, (s.reduceCorpus turns ts).1 = .ok (numbered rs) ∧
        s.totals.Sums (s.reduceCorpus turns ts).2.1.totals rs) ∧
      (∀ workers n w, 0 < workers → Pool.Steps workers n (.start s f tops) w →
        n ≤ bound * tops.length ∧ (¬w.IsFinished → ∃ w', Pool.Step workers w w') ∧
        (w.IsFinished → w.results.map (·.read w.forest) = numbered rs ∧
          s.totals.Sums w.session.totals rs)) ∧
      List.Forall₂ (fun t r => r.given = t ∧
        (r.error.isSome → r.tree = some t ∧ r.matched = false)) ts rs := by
  obtain ⟨turns, halone⟩ := exists_givesAlone halone
  obtain ⟨left, hstart, hleft⟩ := Pool.isolated_start hstand hnodup halone
  refine ⟨turns + 2, fun more hmore notices events => ?_, fun more hmore => ?_,
    fun workers n w hworkers hsteps => ?_, halone.imp fun _ _ h => h.given⟩
  · exact hstart.reduceEach_start (fun i => Nat.le_trans (hleft i) (by omega)) notices events
  · obtain ⟨hplanted, hplanted_nodup, _⟩ := Forest.treeAt_plantEach Forest.empty ts
    obtain ⟨left', hstart', hleft'⟩ := Pool.isolated_start hplanted hplanted_nodup halone
    obtain ⟨results, d, hrun, hread, hsums⟩ := hstart'.reduceEach_start
      (fun i => Nat.le_trans (hleft' i) (show turns + 2 ≤ more + 2 by omega)) #[] #[]
    simp only [reduceCorpus, hrun]
    exact ⟨congrArg Except.ok hread, hsums⟩
  · obtain ⟨own', left', hw, _⟩ := hstart.steps hsteps
    refine ⟨?_, hw.exists_step hworkers, fun hdone =>
      ⟨hw.map_read_results hdone, hw.sums_results hdone⟩⟩
    have hle := hstart.steps_le hleft hsteps
    rwa [← halone.length_eq, ← hstand.length_eq, Nat.mul_comm] at hle

/-- The surgery of the first tree fails after an edit, the second tree has no match: the first one is
reported as it was given, and the totals count both. -/
theorem corpus_with_failing_tree :
    let p : CompiledPattern := ⟨"B=n", .node (some ⟨[.literal "B"], false⟩) (some "n") none,
      ⟨HeadFinder.firstChild, id⟩⟩
    let sister : Template := ⟨.node "X" [], [], none, "(X)"⟩
    let rule : Rule := ⟨"mark", p,
      [.relabel "n" (.literal "C"), .insert (.template sister) (.leftOf "n")], none⟩
    let s : Session := ⟨[rule], none, ⟨[("mark", 2)], 3, 1, 0, 0, 0⟩⟩
    let t := Tree.node "B" []
    let u := Tree.node "A" []
    let failure := Diagnostic.within none (.surgery (.sisterOfRoot "n"))
    let rs : List TreeResult :=
      [⟨0, t, some t, 0, [], false, some failure⟩, ⟨0, u, some u, 0, [], false, none⟩]
    let planted := Forest.empty.plantEach [t, u]
    (List.Forall₂ (fun t r => ∃ turns, s.GivesAlone turns t r) [t, u] rs) ∧
    ∃ turns results d,
      (reduceEach turns 0 planted.1).run.run ⟨s, planted.2, #[], #[]⟩ = (.ok results, d) ∧
      results.map (·.read d.forest) = numbered rs ∧ s.totals.Sums d.session.totals rs := by
  intro p sister rule s t u failure rs planted
  have hfirst : s.GivesAlone 1 t ⟨0, t, some t, 0, [], false, some failure⟩ := by
    let q := Progress.start 0 ((Forest.empty.plant t).2.duplicate 0).2 0
    have htop : q.forest.tree 0 = t := by decide +kernel
    have hends : q.forest.endlessBelow 0 = false := by decide +kernel
    have hmatch : rule.pattern.firstMatch? (q.forest.tree 0) = some ⟨.top t, [("n", .top t)]⟩ := by
      rw [htop, CompiledPattern.firstMatch?_eq]
      rfl
    have hturn : ∃ f, Reduction.runFrom q (Reduction.turn none [rule]) =
        (.error (.failed failure), { q with forest := f }) := by
      rw [Reduction.runFrom_turn_cons, Rule.runFrom_turn_of_match rfl hends hmatch (by rintro _ ⟨⟩)]
      exact ⟨_, rfl⟩
    obtain ⟨f, hturn⟩ := hturn
    have hfinishes := Stage.Finishes.next Stage.next_of_waiting
      (.next (Stage.next_of_interrupted hturn) (.next rfl .done))
    have hsound := hfinishes.sound (.waiting (Forest.treeAt_plant Forest.empty t))
    have hgiven := hsound.given.tree_eq
    have htree := (hsound.restored rfl _ rfl).tree_eq
    refine reduceCorpus_singleton.mpr ⟨3, Nat.le_refl 3, _, _, ?_, hfinishes⟩
    exact congrArg₂ (fun a b => ([⟨0, a, some b, 0, [], false, some failure⟩] : List TreeResult))
      hgiven.symm htree.symm
  have hsecond : s.GivesAlone 1 u ⟨0, u, some u, 0, [], false, none⟩ := by
    let q := Progress.start 0 ((Forest.empty.plant u).2.duplicate 0).2 0
    have htop : q.forest.tree 0 = u := by decide +kernel
    have hends : q.forest.endlessBelow 0 = false := by decide +kernel
    have hmatch : rule.pattern.firstMatch? (q.forest.tree 0) = none := by
      rw [htop, CompiledPattern.firstMatch?_eq]
      rfl
    have hturn : Reduction.runFrom q (Reduction.turn none [rule]) = (.ok [], q) := by
      rw [Reduction.runFrom_turn_cons, Rule.runFrom_turn_of_no_match rfl hends hmatch]
      rfl
    have hfinishes : Stage.Finishes [rule] none 0 0 3 .waiting (Forest.empty.plant u).2
        (.ofProgress 1 q) q.forest :=
      .next Stage.next_of_waiting (.next (Stage.next_of_turn hturn) (.next rfl .done))
    exact reduceCorpus_singleton.mpr ⟨3, Nat.le_refl 3, _, _, by decide +kernel, hfinishes⟩
  have halone : List.Forall₂ (fun t r => ∃ turns, s.GivesAlone turns t r) [t, u] rs :=
    .cons ⟨1, hfirst⟩ (.cons ⟨1, hsecond⟩ .nil)
  obtain ⟨hstand, hnodup, _⟩ := Forest.treeAt_plantEach Forest.empty [t, u]
  obtain ⟨bound, hone, _⟩ := corpus_isolated s hstand hnodup halone
  exact ⟨halone, bound, hone bound (Nat.le_refl bound) #[] #[]⟩

end Treebank
