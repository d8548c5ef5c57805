import Treebank.Proofs.Reduction.Trace
import Treebank.Reduction.Snapshot

/-!
# Snapshots tell the events

A reduction with snapshots does what reduction does without. The copies stand apart from the tree that
is reduced, and are never edited, so that the same event is read off them at any time.
-/

namespace Treebank

open Recorder

variable {budget : Option Nat} {R R₁ : Pairing} {f f' g g' : Forest} {n top : NodeId} {t : Tree}
  {s : Snapshot} {e : Event} {w : Recording} {p p' q : Progress} {r : Rule} {m : Match}

/-! ## Work beside a tree -/

/-- The second forest comes from the first one by work on other trees than the one with the given top,
and by any changes of nodes that are none of its own. -/
inductive WorkBeside (top : NodeId) (f : Forest) : Forest → Prop where
  | none : WorkBeside top f f
  | change {g : Forest} (n : NodeId) (change : Node → Node) : WorkBeside top f g →
      ¬g.Reaches top n → WorkBeside top f (g.adjust n change)
  | other {g g' : Forest} : WorkBeside top f g → OtherWork top g g' → WorkBeside top f g'

theorem Forest.TreeAt.workBeside (h : f.TreeAt top t) (hwork : WorkBeside top f g) :
    g.TreeAt top t := by
  induction hwork with
  | none => exact h
  | @change g n change _ hn ih =>
      refine ih.congr (Nat.le_of_eq (Forest.size_adjust g n change).symm) fun m hm => ?_
      refine Forest.node_adjust_of_ne ?_ change
      rintro rfl
      exact hn hm
  | other _ hother ih => exact ih.otherWork hother

/-! ## Copies -/

/-- A tree stands at the node, and none of its nodes has a partner. -/
structure Forest.Apart (R : Pairing) (f : Forest) (n : NodeId) (t : Tree) : Prop where
  standing : f.TreeAt n t
  alone : ∀ a, f.Reaches n a → ∀ b, ¬R a b

theorem Forest.Apart.leads (h : f.Apart R n t) (hleads : Forest.Leads R f f' R₁ g g') :
    g.Apart R₁ n t := by
  have hkept : ∀ a, f.Reaches n a → g.node a = f.node a := fun a ha =>
    hleads.kept_left a (h.standing.lt_size_of_reaches ha) (h.alone a ha)
  refine ⟨h.standing.congr hleads.size_le_left hkept, fun a ha b hab => ?_⟩
  have ha : f.Reaches n a := ha.of_closed (.self f n) fun p hp c hc => by
    rw [Forest.children, hkept p hp] at hc
    exact hp.child hc
  rcases hleads.fresh a b hab with hab | ⟨hnew, _⟩
  · exact h.alone a ha b hab
  · exact absurd (h.standing.lt_size_of_reaches ha) (Nat.not_lt_of_le hnew)

theorem Forest.Apart.ne {b : NodeId} (h : f.Apart R n t) (hm : R top b) : n ≠ top := by
  rintro rfl
  exact h.alone n (.self f n) b hm

theorem Forest.leads_duplicate (h : Forest.Pairs R f f') (n : NodeId) :
    Forest.Leads R f f' R (f.duplicate n).2 f' := by
  obtain ⟨_, hadds⟩ := f.plant_adds (f.tree n)
  exact h.leads_left hadds.size_le hadds.node_eq

theorem Forest.apart_duplicate (h : Forest.Pairs R f f') (n : NodeId) :
    (f.duplicate n).2.Apart R (f.duplicate n).1 (f.tree n) where
  standing := treeAt_plant f (f.tree n)
  alone _ ha _ hab := Nat.not_le_of_lt (h.lt_left hab) (f.size_le_of_reaches_plant (f.tree n) ha)

/-- The event is read off the copies, which stand apart. -/
structure Snapshot.Tells (R : Pairing) (f : Forest) (s : Snapshot) (e : Event) : Prop where
  read_eq : s.read f = e
  apart : ∀ c ∈ s.copies, f.Apart R c (f.tree c)

theorem Snapshot.tells {before : NodeId} {after : Option NodeId} (hbefore : f.Apart R before e.before)
    (hread : after.map f.tree = e.after) (hafter : ∀ c ∈ after, f.Apart R c (f.tree c)) :
    Snapshot.Tells R f ⟨e.rule, e.step, e.index, e.anchor, e.bindings, before, after⟩ e where
  read_eq := by rw [read, hbefore.standing.tree_eq, hread]
  apart := List.forall_mem_cons.mpr ⟨hbefore.standing.tree_eq.symm ▸ hbefore,
    fun c hc => hafter c (Option.mem_toList.mp hc)⟩

/-- What is read depends on the trees at the tops of the copies. -/
theorem Snapshot.read_congr (h : ∀ c ∈ s.copies, g.tree c = f.tree c) : s.read g = s.read f := by
  have hbefore : g.tree s.before = f.tree s.before := h s.before List.mem_cons_self
  have hafter : s.after.map g.tree = s.after.map f.tree := Option.map_congr fun c hc =>
    h c (List.mem_cons_of_mem _ (Option.mem_toList.mpr hc))
  rw [read, read, hbefore, hafter]

theorem Snapshot.Tells.leads (h : s.Tells R f e) (hleads : Forest.Leads R f f' R₁ g g') :
    s.Tells R₁ g e := by
  have htree : ∀ c ∈ s.copies, g.tree c = f.tree c := fun c hc =>
    ((h.apart c hc).leads hleads).standing.tree_eq
  refine ⟨(read_congr htree).trans h.read_eq, fun c hc => ?_⟩
  rw [htree c hc]
  exact (h.apart c hc).leads hleads

/-- Work beside the copies does not change what is read. -/
theorem Snapshot.Tells.read_workBeside (h : s.Tells R f e) (hg : ∀ c ∈ s.copies, WorkBeside c f g) :
    s.read g = e :=
  (read_congr fun c hc => ((h.apart c hc).standing.workBeside (hg c hc)).tree_eq).trans h.read_eq

theorem Snapshot.map_read {snapshots : List Snapshot} {es : List Event}
    (h : List.Forall₂ (Snapshot.Tells R f) snapshots es)
    (hg : ∀ s ∈ snapshots, ∀ c ∈ s.copies, WorkBeside c f g) : snapshots.map (·.read g) = es := by
  induction h with
  | nil => rfl
  | cons htells _ ih =>
      obtain ⟨hfirst, hrest⟩ := List.forall_mem_cons.mp hg
      rw [List.map_cons, htells.read_workBeside hfirst, ih hrest]

/-! ## Parts of a recorded reduction -/

/-- The outcome of a part of a recorded reduction and the recording after it. -/
def Recorder.runFrom {α : Type} (w : Recording) (x : Recorder α) :
    Except Interruption α × Recording := x.run.run w

theorem Recorder.runFrom_bind {α β : Type} (w : Recording) (x : Recorder α) (k : α → Recorder β) :
    runFrom w (x >>= k) = match runFrom w x with
      | (.ok a, v) => runFrom v (k a)
      | (.error e, v) => (.error e, v) := by
  rw [runFrom, run_bind, runFrom]
  rcases x.run.run w with ⟨_ | _, _⟩ <;> rfl

theorem Recorder.runFrom_progress_bind {α : Type} (w : Recording) (k : Progress → Recorder α) :
    runFrom w (Recorder.progress >>= k) = runFrom w (k w.progress) := rfl

theorem Recorder.runFrom_perform {α : Type} (w : Recording) (x : Reduction α) :
    runFrom w (perform x) = ((Reduction.runFrom w.progress x).1,
      { w with progress := (Reduction.runFrom w.progress x).2 }) := by
  rw [perform, runFrom_progress_bind, Reduction.runFrom]
  rcases x.run.run w.progress with ⟨_ | _, _⟩ <;> rfl

/-- The progress with a copy of a tree in the forest. -/
def Progress.withCopy (p : Progress) (n : NodeId) : Progress :=
  { p with forest := (p.forest.duplicate n).2 }

theorem Recorder.runFrom_duplicate (w : Recording) (n : NodeId) : runFrom w (duplicate n) =
    (.ok (w.progress.forest.duplicate n).1, { w with progress := w.progress.withCopy n }) := rfl

/-- The recording with a copy of what is left of the tree, and with a snapshot of the last application,
of which the copy before is given. -/
def Recording.kept (w : Recording) (r : Rule) (m : Match) (before : NodeId) : Recording where
  progress := w.progress.root.elim w.progress w.progress.withCopy
  snapshots := w.snapshots.push {
    rule := r.name, step := w.progress.applications, index := w.progress.index,
    anchor := m.anchor.label, bindings := m.bindings.map fun (n, s) => (n, s.label), before,
    after := w.progress.root.map fun n => (w.progress.forest.duplicate n).1 }

theorem Recording.events_kept (w : Recording) (r : Rule) (m : Match) (before : NodeId) :
    (w.kept r m before).progress.events = w.progress.events := by
  rw [kept]
  cases w.progress.root <;> rfl

theorem Recorder.runFrom_keep (w : Recording) (r : Rule) (m : Match) (before : NodeId) :
    runFrom w (do
      let p ← Recorder.progress
      let after ← p.root.mapM duplicate
      keep {
        rule := r.name, step := p.applications, index := p.index, anchor := m.anchor.label,
        bindings := m.bindings.map fun (n, s) => (n, s.label), before, after }) =
      (.ok (), w.kept r m before) := by
  obtain ⟨p, snapshots⟩ := w
  show runFrom ⟨p, snapshots⟩ (p.root.mapM duplicate >>= _) = _
  cases hroot : p.root <;> rw [Recording.kept, hroot] <;> rfl

theorem Rule.runFrom_recordAt (r : Rule) (top : NodeId) (m : Match) (w : Recording) :
    runFrom w (r.recordAt top m) =
      match Reduction.runFrom (w.progress.withCopy top) (r.applyAt top m) with
      | (.ok (), q) => (.ok (),
          (Recording.mk q w.snapshots).kept r m (w.progress.forest.duplicate top).1)
      | (.error e, q) => (.error e, ⟨q, w.snapshots⟩) := by
  rw [recordAt, runFrom_bind, runFrom_duplicate]
  dsimp only
  rw [runFrom_bind, runFrom_perform]
  dsimp only
  rcases Reduction.runFrom (w.progress.withCopy top) (r.applyAt top m) with ⟨_ | _, q⟩
  · rfl
  · exact Recorder.runFrom_keep ⟨q, w.snapshots⟩ r m _

/-- A turn that is recorded is a turn without snapshots, or a match that is recorded. -/
theorem Rule.runFrom_recordTurn (budget : Option Nat) (r : Rule) (w : Recording) :
    (Reduction.runFrom w.progress (r.turn budget)).1 ≠ .ok true ∧
      runFrom w (r.recordTurn budget) = ((Reduction.runFrom w.progress (r.turn budget)).1,
        { w with progress := (Reduction.runFrom w.progress (r.turn budget)).2 }) ∨
    ∃ top m, w.progress.root = some top ∧
      r.pattern.firstMatch? (w.progress.forest.tree top) = some m ∧
      (∀ b, budget = some b → w.progress.applications < b) ∧
      runFrom w (r.recordTurn budget) = match runFrom w (r.recordAt top m) with
        | (.ok (), v) => (.ok true, v)
        | (.error e, v) => (.error e, v) := by
  rw [turn, Reduction.runFrom_get_bind, recordTurn, runFrom_progress_bind]
  cases hroot : w.progress.root with
  | none => exact .inl ⟨by rintro ⟨⟩, rfl⟩
  | some top =>
      simp only
      cases hends : w.progress.forest.endlessBelow top with
      | true => exact .inl ⟨by rintro ⟨⟩, rfl⟩
      | false =>
          simp only [Bool.false_eq_true, if_false]
          cases hmatch : r.pattern.firstMatch? (w.progress.forest.tree top) with
          | none => exact .inl ⟨by rintro ⟨⟩, rfl⟩
          | some m =>
              simp only
              cases hwithin : budget.filter (· ≤ w.progress.applications) with
              | some b => exact .inl ⟨by rintro ⟨⟩, rfl⟩
              | none =>
                  refine .inr ⟨top, m, rfl, hmatch, fun b hb => ?_, ?_⟩
                  · rw [hb, Option.filter_some] at hwithin
                    simpa using hwithin
                  · rw [runFrom_bind]
                    rcases runFrom w (r.recordAt top m) with ⟨_ | _, _⟩ <;> rfl

/-! ## The same reduction -/

/-- The snapshots tell the events. -/
def Recording.Faithful (R : Pairing) (w : Recording) : Prop :=
  List.Forall₂ (Snapshot.Tells R w.progress.forest) w.snapshots.toList w.progress.events.toList

theorem Recording.Faithful.apart (h : w.Faithful R) : ∀ s ∈ w.snapshots.toList, ∀ c ∈ s.copies,
    w.progress.forest.Apart R c (w.progress.forest.tree c) := by
  intro s hs
  obtain ⟨hlen, hget⟩ := List.forall₂_iff_get.mp h
  obtain ⟨i, hi, rfl⟩ := List.getElem_of_mem hs
  exact (hget i hi (hlen ▸ hi)).apart

theorem Recording.Faithful.leads (h : w.Faithful R) (hevents : q.events = w.progress.events)
    (hleads : Forest.Leads R w.progress.forest f' R₁ q.forest g') :
    Recording.Faithful R₁ ⟨q, w.snapshots⟩ := by
  rw [Faithful, hevents]
  exact h.imp fun _ _ htells => htells.leads hleads

theorem Progress.Echoes.withCopy (h : p.Echoes R p') (n : NodeId) : (p.withCopy n).Echoes R p' where
  root := h.root
  applications_eq := h.applications_eq
  ruleCounts_eq := h.ruleCounts_eq
  budgetExhausted_eq := h.budgetExhausted_eq
  forest := (Forest.leads_duplicate h.forest n).pairs
  linked := h.linked
  index_eq := h.index_eq
  events_eq := h.events_eq

theorem Progress.Echoes.tree_withCopy (h : p.Echoes R p') (n : NodeId) (hroot : p.root = some top) :
    (p.withCopy n).forest.tree top = p.forest.tree top := by
  have heq := ((h.withCopy n).tree?_eq h.linked).trans (h.tree?_eq h.linked).symm
  rw [tree?, tree?, show (p.withCopy n).root = some top from hroot, hroot] at heq
  exact Option.some.inj heq

/-- Copying what is left of a tree leaves it as it is. -/
theorem Progress.Echoes.copied (h : q.Echoes R p') :
    let after := q.root.map fun n => (q.forest.duplicate n).1
    let q₁ := q.root.elim q q.withCopy
    q₁.Echoes R p' ∧ Forest.Leads R q.forest p'.forest R q₁.forest p'.forest ∧
      after.map q₁.forest.tree = q.tree? ∧ ∀ c ∈ after, q₁.forest.Apart R c (q₁.forest.tree c) := by
  cases hroot : q.root with
  | none =>
      refine ⟨h, h.forest.leads, ?_, nofun⟩
      rw [tree?, hroot]
      rfl
  | some n =>
      have hcopy := Forest.apart_duplicate h.forest n
      refine ⟨h.withCopy n, Forest.leads_duplicate h.forest n, ?_, ?_⟩
      · rw [tree?, hroot]
        exact congrArg some hcopy.standing.tree_eq
      · rintro c ⟨⟩
        show (q.forest.duplicate n).2.Apart R _ ((q.forest.duplicate n).2.tree _)
        rw [hcopy.standing.tree_eq]
        exact hcopy

/-- A snapshot tells the application that it is taken of. -/
theorem Recording.Faithful.kept {before : Tree} {m : Match} {s : Surgery.State} {c : NodeId}
    {snapshots : Array Snapshot} (hq : (p.applied r.name before m s).Echoes R p')
    (htells : List.Forall₂ (Snapshot.Tells R s.forest) snapshots.toList p.events.toList)
    (hc : s.forest.Apart R c before) :
    (Recording.mk (p.applied r.name before m s) snapshots |>.kept r m c).progress.Echoes R p' ∧
      (Recording.mk (p.applied r.name before m s) snapshots |>.kept r m c).Faithful R := by
  obtain ⟨hechoes, hleads, hafter, hcopies⟩ := hq.copied
  refine ⟨hechoes, ?_⟩
  rw [Faithful, events_kept, Progress.toList_events_applied]
  show List.Forall₂ _ (snapshots.push _).toList _
  rw [Array.toList_push]
  refine List.rel_append (htells.imp fun _ _ htold => htold.leads hleads) (.cons ?_ .nil)
  exact Snapshot.tells (e := p.event r.name before m s) (hc.leads hleads) hafter hcopies

/-- Snapshots and events have been added, if anything. -/
structure Recording.Extends (w v : Recording) : Prop where
  snapshots : w.snapshots.toList <+: v.snapshots.toList
  events : w.progress.events.toList <+: v.progress.events.toList

theorem Recording.Extends.refl (w : Recording) : w.Extends w :=
  ⟨List.prefix_refl _, List.prefix_refl _⟩

theorem Recording.Extends.trans {v u : Recording} (h : w.Extends v) (h' : v.Extends u) :
    w.Extends u :=
  ⟨h.snapshots.trans h'.snapshots, h.events.trans h'.events⟩

theorem Recording.extends_kept (p : Progress) (snapshots : Array Snapshot) (r : Rule) (before : Tree)
    (m : Match) (s : Surgery.State) (c : NodeId) : Extends ⟨p, snapshots⟩
      ((Recording.mk (p.applied r.name before m s) snapshots).kept r m c) where
  snapshots := by
    rw [kept, Array.toList_push]
    exact List.prefix_append _ _
  events := by
    rw [events_kept, Progress.toList_events_applied]
    exact List.prefix_append _ _

/-- A part of a recorded reduction does the same as reduction of a tree that stands alone, and the
snapshots tell the events; those from before are still there. -/
structure Recorder.Mirror {α : Type} (R : Pairing) (w : Recording)
    (out : Except Interruption α × Recording) (out' : Except Interruption α × Progress) : Prop extends
    Reduction.Echo R (out.1, out.2.progress) out' where
  faithful : out.2.Faithful R
  added : w.Extends out.2

/-- The copy before is made, the rule applied, and the copy after made. -/
theorem Rule.recordAt_mirror (h : w.progress.Echoes R p') (hw : w.Faithful R)
    (hroot : w.progress.root = some top)
    (hmatch : r.pattern.firstMatch? (w.progress.forest.tree top) = some m)
    (hbudget : ∀ b, budget = some b → w.progress.applications < b) :
    ∃ R₁, Mirror R₁ w
      (match runFrom w (r.recordAt top m) with
        | (.ok (), v) => (.ok true, v)
        | (.error e, v) => (.error e, v))
      (Reduction.runFrom p' (r.turn budget)) := by
  have hfirst := h.withCopy top
  have hcopied := Forest.leads_duplicate h.forest top
  have hsame := h.tree_withCopy top hroot
  have hbefore := Forest.apart_duplicate h.forest top
  rw [← hsame] at hbefore
  obtain ⟨R₁, hleads, hecho⟩ := r.turn_echo budget hfirst
  have hturn : Reduction.runFrom (w.progress.withCopy top) (r.turn budget) = _ :=
    runFrom_turn_of_match hroot (hfirst.not_endlessBelow hroot) (hsame ▸ hmatch) hbudget
  rw [runFrom_recordAt, runFrom_applyAt]
  rw [hturn] at hleads hecho
  rcases hstatements : (Statement.applyAll r.statements).runFrom
    (.within (w.progress.withCopy top).forest top m.bindings) with ⟨e | _, s⟩
  · rw [hstatements] at hleads hecho
    exact ⟨R₁, hecho, hw.leads rfl (hcopied.trans hleads), List.prefix_refl _, List.prefix_refl _⟩
  · rw [hstatements] at hleads hecho
    have htells := List.Forall₂.imp (fun _ _ htold => htold.leads (hcopied.trans hleads)) hw
    obtain ⟨hechoes, hfaithful⟩ := Recording.Faithful.kept (hecho.echoes true rfl) htells
      (hbefore.leads hleads)
    have hextends := Recording.extends_kept (w.progress.withCopy top) w.snapshots r
      ((w.progress.withCopy top).forest.tree top) m s (w.progress.forest.duplicate top).1
    have hsome := hecho.outcome_eq
    generalize Reduction.runFrom p' (r.turn budget) = out' at hsome hechoes ⊢
    obtain ⟨_, q'⟩ := out'
    cases hsome
    exact ⟨R₁, Reduction.echo_here hechoes true, hfaithful, hextends.snapshots, hextends.events⟩

theorem Rule.recordTurn_mirror (budget : Option Nat) (r : Rule) (h : w.progress.Echoes R p')
    (hw : w.Faithful R) : ∃ R₁,
      Mirror R₁ w (runFrom w (r.recordTurn budget)) (Reduction.runFrom p' (r.turn budget)) := by
  rcases r.runFrom_recordTurn budget w with ⟨hidle, hrun⟩ | ⟨_, _, hroot, hmatch, hbudget, hrun⟩
  · obtain ⟨R₁, hleads, hecho⟩ := r.turn_echo budget h
    obtain ⟨hevents, _⟩ := (r.turned budget w.progress).events_eq hidle
    rw [hrun]
    exact ⟨R₁, hecho, hw.leads hevents hleads, List.prefix_refl _, hevents ▸ List.prefix_refl _⟩
  · rw [hrun]
    exact recordAt_mirror h hw hroot hmatch hbudget

namespace Recorder

theorem mirror_here {α : Type} (h : w.progress.Echoes R p') (hw : w.Faithful R) (a : α) :
    Mirror R w (.ok a, w) (.ok a, p') :=
  ⟨Reduction.echo_here h a, hw, .refl w⟩

theorem runFrom_turn_cons (budget : Option Nat) (r : Rule) (rest : List Rule) (w : Recording) :
    runFrom w (turn budget (r :: rest)) =
      if w.progress.isOver then (.ok [], w)
      else match runFrom w (r.recordTurn budget) with
        | (.ok true, v) => (.ok (r :: rest), v)
        | (.ok false, v) => (.ok rest, v)
        | (.error e, v) => (.error e, v) := by
  rw [turn, runFrom_progress_bind]
  cases w.progress.isOver with
  | true => rfl
  | false =>
      show runFrom w (r.recordTurn budget >>= fun again =>
        if again then pure (r :: rest) else pure rest) = _
      rw [runFrom_bind, if_neg Bool.false_ne_true]
      rcases runFrom w (r.recordTurn budget) with ⟨_ | _ | _, _⟩ <;> rfl

theorem runFrom_byRules_nil (budget : Option Nat) (turns : Nat) (w : Recording) :
    runFrom w (byRules budget turns []) = (.ok (), w) := by
  cases turns <;> rfl

theorem runFrom_byRules_succ (budget : Option Nat) (turns : Nat) (r : Rule) (rest : List Rule)
    (w : Recording) : runFrom w (byRules budget (turns + 1) (r :: rest)) =
      match runFrom w (turn budget (r :: rest)) with
      | (.ok rules, v) => runFrom v (byRules budget turns rules)
      | (.error e, v) => (.error e, v) := by
  rw [byRules, runFrom_bind]
  rcases runFrom w (turn budget (r :: rest)) with ⟨_ | _, _⟩ <;> rfl

theorem turn_mirror (budget : Option Nat) (rules : List Rule) (h : w.progress.Echoes R p')
    (hw : w.Faithful R) : ∃ R₁, Mirror R₁ w (runFrom w (turn budget rules))
      (Reduction.runFrom p' (Reduction.turn budget rules)) := by
  cases rules with
  | nil => exact ⟨R, mirror_here h hw []⟩
  | cons r rest =>
      rw [runFrom_turn_cons, Reduction.runFrom_turn_cons, h.isOver_eq]
      split
      · exact ⟨R, mirror_here h hw []⟩
      · obtain ⟨R₁, ⟨hsame, hsimilar, hevents, hechoes⟩, hfaithful, hadded⟩ :=
          r.recordTurn_mirror budget h hw
        rcases hrun : runFrom w (r.recordTurn budget) with ⟨o, v⟩
        rcases hrun' : Reduction.runFrom p' (r.turn budget) with ⟨o', q'⟩
        rw [hrun, hrun'] at hsame hsimilar hevents hechoes
        rw [hrun] at hfaithful hadded
        cases hsame
        rcases o with e | _ | _
        · exact ⟨R₁, ⟨rfl, hsimilar, hevents, nofun⟩, hfaithful, hadded⟩
        · exact ⟨R₁, Reduction.echo_here (hechoes false rfl) rest, hfaithful, hadded⟩
        · exact ⟨R₁, Reduction.echo_here (hechoes true rfl) (r :: rest), hfaithful, hadded⟩

theorem byRules_mirror (budget : Option Nat) (turns : Nat) (rules : List Rule)
    (h : w.progress.Echoes R p') (hw : w.Faithful R) :
    ∃ R₁, Mirror R₁ w (runFrom w (byRules budget turns rules))
      (Reduction.runFrom p' (Reduction.byRules budget turns rules)) := by
  induction turns generalizing R w p' rules with
  | zero =>
      cases rules with
      | nil => exact ⟨R, mirror_here h hw ()⟩
      | cons r rest =>
          exact ⟨R, ⟨rfl, h.toSimilar, h.events_eq, nofun⟩, hw, .refl w⟩
  | succ turns ih =>
      cases rules with
      | nil => exact ⟨R, mirror_here h hw ()⟩
      | cons r rest =>
          rw [runFrom_byRules_succ, Reduction.runFrom_byRules_succ]
          obtain ⟨R₁, ⟨hsame, hsimilar, hevents, hechoes⟩, hfaithful, hadded⟩ :=
            turn_mirror budget (r :: rest) h hw
          rcases hrun : runFrom w (turn budget (r :: rest)) with ⟨o, v⟩
          rcases hrun' : Reduction.runFrom p' (Reduction.turn budget (r :: rest)) with ⟨o', q'⟩
          rw [hrun, hrun'] at hsame hsimilar hevents hechoes
          rw [hrun] at hfaithful hadded
          cases hsame
          cases o with
          | error e => exact ⟨R₁, ⟨rfl, hsimilar, hevents, nofun⟩, hfaithful, hadded⟩
          | ok rules =>
              obtain ⟨R₂, hrest⟩ := ih rules (hechoes rules rfl) hfaithful
              exact ⟨R₂, hrest.toEcho, hrest.faithful, hadded.trans hrest.added⟩

/-- With more turns, a recorded reduction goes on from where it has come to with fewer. -/
theorem byRules_extends {turns turns' : Nat} (hle : turns ≤ turns') (rules : List Rule)
    (h : w.progress.Echoes R p') (hw : w.Faithful R) :
    (runFrom w (byRules budget turns rules)).2.Extends
      (runFrom w (byRules budget turns' rules)).2 := by
  induction turns generalizing R w p' rules turns' with
  | zero =>
      obtain ⟨_, hmirror⟩ := byRules_mirror budget turns' rules h hw
      cases rules with
      | nil => exact hmirror.added
      | cons r rest => exact hmirror.added
  | succ turns ih =>
      obtain ⟨turns', rfl⟩ := Nat.exists_eq_add_of_le' (Nat.le_trans (Nat.le_add_left 1 turns) hle)
      cases rules with
      | nil => exact .refl w
      | cons r rest =>
          rw [runFrom_byRules_succ, runFrom_byRules_succ]
          obtain ⟨R₁, ⟨hsame, _, _, hechoes⟩, hfaithful, _⟩ := turn_mirror budget (r :: rest) h hw
          rcases hrun : runFrom w (turn budget (r :: rest)) with ⟨e | rules, v⟩
          · exact .refl v
          · rw [hrun] at hsame hechoes hfaithful
            exact ih (Nat.le_of_succ_le_succ hle) rules (hechoes rules rfl) hfaithful

end Recorder

/-! ## Whole reductions -/

theorem record_eq (rules : List Rule) (budget : Option Nat) (turns : Nat) (index : Int) (f : Forest)
    (top : NodeId) : record rules budget turns index f top =
      match runFrom (.start index f top) (byRules budget turns rules) with
      | (.ok (), w) => (none, w)
      | (.error e, w) => (some e, w) := rfl

/-- A recorded reduction does the same as reduction of the tree by itself. -/
theorem record_mirror (rules : List Rule) (budget : Option Nat) (turns : Nat) (index : Int)
    (h : f.TreeAt top t) : ∃ R, Mirror R (.start index f top)
      (runFrom (.start index f top) (byRules budget turns rules))
      (Reduction.runFrom (.start index (Forest.ofTree t).2 (Forest.ofTree t).1)
        (Reduction.byRules budget turns rules)) := by
  obtain ⟨_, hechoes⟩ := Progress.echoes_start h index
  exact byRules_mirror budget turns rules hechoes .nil

theorem snd_record (rules : List Rule) (budget : Option Nat) (turns : Nat) (index : Int) (f : Forest)
    (top : NodeId) : (record rules budget turns index f top).2 =
      (runFrom (.start index f top) (byRules budget turns rules)).2 := by
  rw [record_eq]
  split <;> simp [*]

/-- Snapshots make no difference to reduction. -/
theorem record_agree (rules : List Rule) (budget : Option Nat) (turns : Nat) (index : Int)
    (h : f.TreeAt top t) :
    let run := reduce rules budget turns index f top
    let recorded := record rules budget turns index f top
    recorded.1 = run.1 ∧ recorded.2.progress.applications = run.2.applications ∧
      recorded.2.progress.ruleCounts = run.2.ruleCounts ∧
      recorded.2.progress.budgetExhausted = run.2.budgetExhausted ∧
      recorded.2.progress.events = run.2.events ∧
      (run.1 = none → recorded.2.progress.tree? = run.2.tree?) := by
  intro run recorded
  obtain ⟨houtcome, happlications, hcounts, hflag, hevents, htree⟩ :=
    reduce_echo rules budget turns index h
  obtain ⟨R, hmirror⟩ := record_mirror rules budget turns index h
  have hrecorded : recorded.2 = _ := snd_record rules budget turns index f top
  have hsame := hmirror.outcome_eq.trans houtcome.symm
  rw [hrecorded]
  refine ⟨?_, hmirror.similar.applications_eq.trans happlications.symm,
    hmirror.similar.ruleCounts_eq.trans hcounts.symm,
    hmirror.similar.budgetExhausted_eq.trans hflag.symm, hmirror.events_eq.trans hevents.symm,
    fun hdone => ?_⟩
  · show (record rules budget turns index f top).1 = (reduce rules budget turns index f top).1
    rw [record_eq, reduce_eq]
    generalize runFrom (.start index f top) (byRules budget turns rules) = out at hsame ⊢
    generalize Reduction.runFrom (.start index f top) (Reduction.byRules budget turns rules) = out'
      at hsame ⊢
    obtain ⟨_ | _, _⟩ := out <;> obtain ⟨_ | _, _⟩ := out' <;> cases hsame <;> rfl
  · have hend := hmirror.echoes () (hsame.trans (fst_reduce_eq_none.mp hdone))
    exact (hend.tree?_eq hend.linked).trans (htree hdone).symm

/-- With more turns there are more snapshots and events, if there is a difference. -/
theorem record_extends (rules : List Rule) (budget : Option Nat) {turns turns' : Nat}
    (hle : turns ≤ turns') (index : Int) (h : f.TreeAt top t) :
    (record rules budget turns index f top).2.Extends
      (record rules budget turns' index f top).2 := by
  obtain ⟨_, hechoes⟩ := Progress.echoes_start h index
  rw [snd_record, snd_record]
  exact byRules_extends (w := .start index f top) hle rules hechoes .nil

theorem exists_faithful_record (rules : List Rule) (budget : Option Nat) (turns : Nat) (index : Int)
    (h : f.TreeAt top t) : ∃ R, (record rules budget turns index f top).2.Faithful R := by
  obtain ⟨R, hmirror⟩ := record_mirror rules budget turns index h
  exact ⟨R, snd_record rules budget turns index f top ▸ hmirror.faithful⟩

/-- Where a recorded reduction comes to its end, what is left of the tree is known from the tree by
itself. -/
theorem exists_echoes_record {rules : List Rule} {turns : Nat} {index : Int} (h : f.TreeAt top t)
    (hdone : (record rules budget turns index f top).1 = none) :
    ∃ R, (record rules budget turns index f top).2.progress.Echoes R
        (Reduction.runFrom (.start index (Forest.ofTree t).2 (Forest.ofTree t).1)
          (Reduction.byRules budget turns rules)).2 ∧
      (record rules budget turns index f top).2.Faithful R := by
  obtain ⟨R, hmirror⟩ := record_mirror rules budget turns index h
  rw [snd_record]
  refine ⟨R, hmirror.echoes () ?_, hmirror.faithful⟩
  rw [record_eq] at hdone
  generalize runFrom (.start index f top) (byRules budget turns rules) = out at hdone
  obtain ⟨_ | _, _⟩ := out
  · cases hdone
  · rfl

/-- There is a snapshot of every application. -/
theorem length_snapshots_record (rules : List Rule) (budget : Option Nat) (turns : Nat) (index : Int)
    (h : f.TreeAt top t) : (record rules budget turns index f top).2.snapshots.toList.length =
      (record rules budget turns index f top).2.progress.applications := by
  obtain ⟨_, happlications, _, _, hevents, _⟩ := record_agree rules budget turns index h
  obtain ⟨R, hfaithful⟩ := exists_faithful_record rules budget turns index h
  rw [List.Forall₂.length_eq hfaithful, hevents, happlications, Array.length_toList, snd_reduce]
  exact Reduction.size_events_byRules budget turns rules _ rfl

/-- From the snapshots taken up to some time, the events up to then are read also later on, and after
work beside the copies. -/
theorem map_read_record (rules : List Rule) (budget : Option Nat) (index : Int) (h : f.TreeAt top t)
    {k k' turns : Nat} (hk : k ≤ k') (hk' : k' ≤ turns)
    (hg : ∀ s ∈ (record rules budget k index f top).2.snapshots.toList, ∀ c ∈ s.copies,
      WorkBeside c (record rules budget k' index f top).2.progress.forest g) :
    (record rules budget k index f top).2.snapshots.toList.map (·.read g) =
      (reduce rules budget turns index f top).2.events.toList.take
        (record rules budget k index f top).2.progress.applications := by
  obtain ⟨_, _, _, _, hevents, _⟩ := record_agree rules budget turns index h
  obtain ⟨R, hfaithful⟩ := exists_faithful_record rules budget k' index h
  obtain ⟨more, hmore⟩ := (record_extends rules budget hk index h).snapshots
  obtain ⟨rest, hrest⟩ := (record_extends rules budget hk' index h).events
  rw [Recording.Faithful, ← hmore] at hfaithful
  have hle := hfaithful.length_eq
  rw [List.length_append] at hle
  have htells := List.forall₂_take (record rules budget k index f top).2.snapshots.toList.length
    hfaithful
  rw [List.take_left] at htells
  rw [← length_snapshots_record rules budget k index h, ← hevents, ← hrest,
    List.take_append_of_le_length (by omega)]
  exact Snapshot.map_read htells hg

/-- The events of a reduction tell how it has come about, where it comes to its end:

- there is one for every application, with its number, and as many for every rule as are counted;
- the trees before and after them lead from the tree at first to the tree that is left, if any;
- they are told by the rules in their order: each tells the first match of its rule in the tree before,
  and what the statements of the rule make of that tree there.

With copies in place of the trees reduction is the same, and the events told by the copies are those of
the reduction, whether they are read off at once, later on in the reduction, or after work beside the
copies; this may be any work on the tree that is left, which has no node in common with them. -/
theorem reduce_trace (rules : List Rule) (budget : Option Nat) (turns : Nat) (index : Int)
    (h : f.TreeAt top t) :
    let run := reduce rules budget turns index f top
    let recorded := fun k => record rules budget k index f top
    (run.1 = none → run.2.Traced rules index t) ∧
    (recorded turns).1 = run.1 ∧
    (recorded turns).2.progress.applications = run.2.applications ∧
    (recorded turns).2.progress.ruleCounts = run.2.ruleCounts ∧
    (recorded turns).2.progress.budgetExhausted = run.2.budgetExhausted ∧
    (run.1 = none → (recorded turns).2.progress.tree? = run.2.tree?) ∧
    (∀ k k' g, k ≤ k' → k' ≤ turns →
      (∀ s ∈ (recorded k).2.snapshots.toList, ∀ c ∈ s.copies,
        WorkBeside c (recorded k').2.progress.forest g) →
      (recorded k).2.snapshots.toList.map (·.read g) =
        run.2.events.toList.take (recorded k).2.progress.applications) ∧
    (run.1 = none → ∀ root, (recorded turns).2.progress.root = some root →
      (∃ u, (recorded turns).2.progress.forest.TreeAt root u) ∧
        ∀ s ∈ (recorded turns).2.snapshots.toList, ∀ c ∈ s.copies, ∀ n,
          (recorded turns).2.progress.forest.Reaches root n →
            ¬(recorded turns).2.progress.forest.Reaches c n) := by
  intro run recorded
  obtain ⟨houtcome, happlications, hcounts, hflag, _, htree⟩ :=
    record_agree rules budget turns index h
  refine ⟨traced_of_reduce h, houtcome, happlications, hcounts, hflag, htree,
    fun k k' g hk hk' hg => map_read_record rules budget index h hk hk' hg, fun hdone root hroot => ?_⟩
  obtain ⟨R, hechoes, hfaithful⟩ := exists_echoes_record h (houtcome.trans hdone)
  have hrel := hechoes.root
  rw [hroot] at hrel
  obtain ⟨b, hb, hrb⟩ := Option.Rel.exists_eq_some hrel
  obtain ⟨hlt, htop⟩ := hechoes.linked.root_top b hb
  have hleft := (hechoes.linked.linked.treeAt hlt htop).transfer hechoes.forest.symm hrb
  refine ⟨⟨_, hleft⟩, fun s hs c hc n hn => ?_⟩
  have hcopy := hfaithful.apart s hs c hc
  exact hleft.disjoint hcopy.standing (hcopy.ne hrb).symm hn

/-- One of two children is deleted: there is one event, and its copies tell it. -/
theorem reduce_trace_of_one_deletion :
    let t := Tree.node "S" [.node "NP" [], .node "VP" []]
    let p : CompiledPattern := ⟨"NP=n", .node (some ⟨[.literal "NP"], false⟩) (some "n") none,
      ⟨HeadFinder.firstChild, id⟩⟩
    let rule : Rule := ⟨"cut", p, [.delete ["n"]], none⟩
    let root := Forest.empty.plant t
    ∃ q, reduce [rule] none 2 0 root.2 root.1 = (none, q) ∧ q.events.size = 1 ∧
      q.Traced [rule] 0 t ∧
      (record [rule] none 2 0 root.2 root.1).2.snapshots.toList.map
        (·.read (record [rule] none 2 0 root.2 root.1).2.progress.forest) = q.events.toList := by
  intro t p rule root
  obtain ⟨q, hreduce, happlications, _, _⟩ := exists_reduce_of_one_deletion
  have hstands : root.2.TreeAt root.1 t := Forest.treeAt_plant Forest.empty t
  obtain ⟨htraced, _, hsame, _, _, _, hread, _⟩ := reduce_trace [rule] none 2 0 hstands
  rw [hreduce] at htraced hsame hread
  dsimp only at hsame hread
  have hsteps := congrArg List.length (htraced rfl).steps
  rw [List.length_map, List.length_range', Array.length_toList, happlications] at hsteps
  refine ⟨q, hreduce, hsteps, htraced rfl, ?_⟩
  have htake := hread 2 2 _ (Nat.le_refl 2) (Nat.le_refl 2) fun _ _ _ _ => .none
  rw [hsame, happlications, List.take_of_length_le (Nat.le_of_eq hsteps)] at htake
  exact htake

end Treebank
