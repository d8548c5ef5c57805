import Treebank.Proofs.Reduction.Budget
import Treebank.Proofs.Session.Totals

/-!
# The trace of a reduction

The events of a reduction lead from the tree at first to the tree that is left, rule by rule. Each
tells what the statements of its rule make of the tree before, at the first match there.
-/

namespace Treebank

open Progress Reduction

variable {budget : Option Nat} {p q : Progress} {r : Rule} {rules rest : List Rule} {c : Point}
  {top : NodeId} {t u : Option Tree} {e : Event} {es : List Event} {s : Surgery.State}

/-! ## Events -/

/-- The event tells what the statements of the rule do at a match, which is the first one in the tree
before. -/
structure Rule.Explains (r : Rule) (m : Match) (e : Event) : Prop where
  rule_eq : e.rule = r.name
  matched : r.pattern.firstMatch? e.before = some m
  anchor_eq : e.anchor = m.anchor.label
  bindings_eq : e.bindings = m.bindings.map fun (n, s) => (n, s.label)
  done : (Surgery.operate r.statements e.before m.bindings).failure = none
  after_eq : (Surgery.operate r.statements e.before m.bindings).state.tree? = e.after

namespace Event

/-- The events lead from one tree to another: the trees before them, and then the last tree, are the
first tree and then the trees after them. -/
def Leads (t : Option Tree) (es : List Event) (u : Option Tree) : Prop :=
  es.map (fun e => some e.before) ++ [u] = t :: es.map Event.after

theorem leads_nil (t : Option Tree) : Leads t [] t := rfl

theorem Leads.cons (h : Leads e.after es u) : Leads (some e.before) (e :: es) u :=
  congrArg (some e.before :: ·) h

/-- The events are some of the first rule, then some of the second one, and so on. -/
def ByRules (rules : List Rule) (es : List Event) : Prop :=
  ∃ runs : List (List Event), runs.flatten = es ∧
    List.Forall₂ (fun r run => ∀ e ∈ run, ∃ m, r.Explains m e) rules runs

theorem ByRules.pass (h : ByRules rest es) (r : Rule) : ByRules (r :: rest) es := by
  obtain ⟨runs, hes, hruns⟩ := h
  exact ⟨[] :: runs, hes, .cons (List.forall_mem_nil _) hruns⟩

theorem byRules_nil (rules : List Rule) : ByRules rules [] := by
  induction rules with
  | nil => exact ⟨[], rfl, .nil⟩
  | cons r rest ih => exact ih.pass r

theorem ByRules.of_nil (h : ByRules [] es) (rules : List Rule) : ByRules rules es := by
  obtain ⟨_, rfl, hruns⟩ := h
  cases hruns
  exact byRules_nil rules

theorem ByRules.cons {m : Match} (h : ByRules (r :: rest) es) (he : r.Explains m e) :
    ByRules (r :: rest) (e :: es) := by
  obtain ⟨_, rfl, hruns⟩ := h
  cases hruns with
  | @cons _ run _ runs hrun hruns =>
      exact ⟨(e :: run) :: runs, rfl, .cons (List.forall_mem_cons.mpr ⟨⟨m, he⟩, hrun⟩) hruns⟩

end Event

/-! ## Counts -/

/-- The event of an application of a rule that has led to a state of surgery. -/
def Progress.event (p : Progress) (rule : String) (before : Tree) (m : Match) (s : Surgery.State) :
    Event where
  rule := rule
  step := p.applications + 1
  index := p.index
  anchor := m.anchor.label
  bindings := m.bindings.map fun (n, s) => (n, s.label)
  before := before
  after := s.tree?

theorem Progress.toList_events_applied (p : Progress) (rule : String) (before : Tree) (m : Match)
    (s : Surgery.State) :
    (p.applied rule before m s).events.toList = p.events.toList ++ [p.event rule before m s] :=
  Array.toList_push

namespace Reduction

/-- The events are numbered from one on. -/
theorem kept_steps : Kept fun q => q.events.toList.map Event.step = List.range' 1 q.applications where
  forest _ _ h := h
  applied p rule before m s h := by
    rw [toList_events_applied, List.map_append, h, Progress.applied, List.range'_1_concat,
      Nat.add_comm 1]
    rfl
  exhausted _ _ _ h := h

theorem kept_index (index : Int) :
    Kept fun q => q.index = index ∧ ∀ e ∈ q.events.toList, e.index = index where
  forest _ _ h := h
  applied p rule before m s h := by
    refine ⟨h.1, fun e he => ?_⟩
    rw [toList_events_applied, List.mem_append, List.mem_singleton] at he
    rcases he with he | rfl
    · exact h.2 e he
    · exact h.1
  exhausted _ _ _ h := h

/-- The number of events of the rules of a name. -/
def eventsOf (name : String) (es : List Event) : Nat := es.countP (·.rule == name)

/-- The numbers of names are the numbers of events. -/
theorem kept_ruleCounts : Kept fun q => ∀ name, q.ruleCounts.lookup name =
    if eventsOf name q.events.toList = 0 then none else some (eventsOf name q.events.toList) where
  forest _ _ h := h
  applied p rule before m s h := by
    intro name
    have hcount : countOf rule p.ruleCounts = eventsOf rule p.events.toList := by
      rw [countOf, h rule]
      split
      · rename_i hnone
        exact hnone.symm
      · rfl
    have hnext : eventsOf name (p.applied rule before m s).events.toList =
        eventsOf name p.events.toList + if rule = name then 1 else 0 := by
      simp [toList_events_applied, eventsOf, event]
    rw [hnext, Progress.applied, lookup_addCount, hcount, h name]
    by_cases hname : name = rule
    · simp [hname]
    · simp [hname, Ne.symm hname]
  exhausted _ _ _ h := h

end Reduction

/-! ## The course of a tree that stands alone -/

/-- Statements have the same outcome on the tree by itself. -/
theorem Progress.Linked.operate_eq {sts : List Statement} {b : Bindings} (h : p.Linked)
    (hroot : p.root = some top)
    (hrun : (Statement.applyAll sts).runFrom (.within p.forest top b) = (.ok (), s)) :
    (Surgery.operate sts (p.forest.tree top) b).failure = none ∧
      (Surgery.operate sts (p.forest.tree top) b).state.tree? = s.tree? := by
  obtain ⟨hlt, htop⟩ := h.root_top top hroot
  have hs := (Surgery.leaves_applyAll sts
    (Surgery.State.linked_within h.linked hlt htop b)).of_ok hrun
  have hhere := h.linked.treeAt hlt htop
  have halone := Forest.treeAt_plant Forest.empty (p.forest.tree top)
  obtain ⟨R, _, hpairs, hsame⟩ : Surgery.Agree _ (.start (p.forest.tree top) b) _ _ _ _ :=
    Statement.applyAll_agree sts
      (Surgery.State.Pairs.within (halone.pairs hhere) (Forest.samePlace_top ..) b)
  rw [hrun] at hpairs hsame
  rcases hrun' : (Statement.applyAll sts).runFrom (.start (p.forest.tree top) b) with ⟨o, s'⟩
  rw [hrun'] at hpairs hsame
  cases hsame
  rw [Surgery.operate, hrun']
  refine ⟨rfl, hpairs.forest.map_tree_eq hpairs.root fun r hr => ?_⟩
  obtain ⟨hlt, htop⟩ := hs.root_top r hr
  exact hs.linked.not_endlessBelow (.top htop) hlt

theorem Progress.Linked.explains_event {m : Match} (h : p.Linked) (hroot : p.root = some top)
    (hmatch : r.pattern.firstMatch? (p.forest.tree top) = some m)
    (hrun : (Statement.applyAll r.statements).runFrom (.within p.forest top m.bindings) = (.ok (), s)) :
    r.Explains m (p.event r.name (p.forest.tree top) m s) := by
  obtain ⟨hdone, hafter⟩ := h.operate_eq hroot hrun
  exact ⟨rfl, hmatch, rfl, rfl, hdone, hafter⟩

namespace Reduction

/-- The events of what is left of a reduction. -/
theorem Passes.exists_events (h : Passes budget c ([], q)) (hp : c.2.Linked) :
    ∃ es, q.events.toList = c.2.events.toList ++ es ∧ Event.Leads c.2.tree? es q.tree? ∧
      Event.ByRules c.1 es := by
  induction h using Relation.ReflTransGen.head_induction_on with
  | refl => exact ⟨[], (List.append_nil _).symm, Event.leads_nil _, Event.byRules_nil _⟩
  | @head c c' hturns hpasses ih =>
      obtain ⟨_ | ⟨r, rest⟩, p⟩ := c
      · cases hturns.of_nil
        exact ih hp
      · cases hturns.step with
        | ended _ =>
            obtain ⟨es, hes, hleads, hrules⟩ := ih hp
            exact ⟨es, hes, hleads, hrules.of_nil (r :: rest)⟩
        | unmatched _ _ _ =>
            obtain ⟨es, hes, hleads, hrules⟩ := ih hp
            exact ⟨es, hes, hleads, hrules.pass r⟩
        | exhausted _ _ _ _ _ =>
            obtain ⟨es, hes, hleads, hrules⟩ := ih ⟨hp.linked, hp.root_top⟩
            exact ⟨es, hes, hleads, hrules.pass r⟩
        | applied _ hroot hmatch _ hrun =>
            obtain ⟨es, hes, hleads, hrules⟩ := ih (hp.applied hroot hrun)
            refine ⟨_ :: es, ?_, ?_, hrules.cons (hp.explains_event hroot hmatch hrun)⟩
            · rw [hes, toList_events_applied, List.append_assoc]
              rfl
            · rw [tree?, hroot]
              exact hleads.cons

end Reduction

/-! ## Whole reductions -/

/-- The events in the progress of a tree tell how it has come about. -/
structure Progress.Traced (rules : List Rule) (index : Int) (t : Tree) (p : Progress) : Prop where
  /-- They are numbered from one on, one for every application. -/
  steps : p.events.toList.map Event.step = List.range' 1 p.applications
  index_eq : ∀ e ∈ p.events.toList, e.index = index
  /-- The numbers of the rules are their numbers of events. -/
  ruleCounts : ∀ name, p.ruleCounts.lookup name =
    if eventsOf name p.events.toList = 0 then none else some (eventsOf name p.events.toList)
  leads : Event.Leads (some t) p.events.toList p.tree?
  byRules : Event.ByRules rules p.events.toList

/-- Where reduction comes to its end, its events tell how. -/
theorem traced_of_reduce {turns : Nat} {index : Int} {f : Forest} {t : Tree} (h : f.TreeAt top t)
    (hdone : (reduce rules budget turns index f top).1 = none) :
    (reduce rules budget turns index f top).2.Traced rules index t := by
  obtain ⟨hsame, _, _, _, hevents, htree⟩ := reduce_echo rules budget turns index h
  obtain ⟨es, hes, hleads, hrules⟩ := (passes_of_byRules (Prod.ext
    (hsame.symm.trans (fst_reduce_eq_none.mp hdone)) rfl)).exists_events (linked_start index t)
  have hes : (reduce rules budget turns index f top).2.events.toList = es :=
    (congrArg Array.toList hevents).trans (hes.trans (List.nil_append es))
  have hfirst : (start index (Forest.ofTree t).2 (Forest.ofTree t).1).tree? = some t :=
    congrArg some (Forest.treeAt_plant Forest.empty t).tree_eq
  refine ⟨?_, ?_, ?_, ?_, hes ▸ hrules⟩
  · rw [snd_reduce]
    exact kept_steps.byRules turns rules rfl
  · rw [snd_reduce]
    exact ((kept_index index).byRules turns rules ⟨rfl, List.forall_mem_nil _⟩).2
  · rw [snd_reduce]
    exact kept_ruleCounts.byRules turns rules fun _ => rfl
  · rw [hes, htree hdone, ← hfirst]
    exact hleads

end Treebank
