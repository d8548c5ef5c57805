import Treebank.Proofs.Session.Stages

/-!
# Isolation

While the trees of a corpus are reduced in one forest, every tree has nodes of its own: those that it
had at first, and those that are made during the work on it. The work on a tree touches no others. It
takes the course that it takes with the tree by itself, whatever is done in between with other trees.
-/

namespace Treebank

open Forest

variable {rules : List Rule} {budget : Option Nat} {index turns k : Nat} {top : NodeId}
  {f g : Forest} {t : Tree} {r : TreeResult} {own : NodeId → Prop} {job : Job} {stage stage' : Stage}

/-! ## A tree by itself -/

/-- The work on a tree by itself, with so many stages left before the result. -/
structure Solo (rules : List Rule) (budget : Option Nat) (k : Nat) (r : TreeResult) where
  tree : Tree
  top : NodeId
  stage : Stage
  forest : Forest
  result : Result NodeId
  final : Forest
  sound : stage.Sound tree top forest
  finishes : stage.Finishes rules budget 0 top k forest result final
  read_eq : result.read final = r

theorem Solo.next (solo : Solo rules budget k r)
    (hnext : solo.stage.next rules budget 0 solo.top solo.forest = some (stage', g)) :
    ∃ j, k = j + 1 ∧ ∃ solo' : Solo rules budget j r,
      solo'.top = solo.top ∧ solo'.stage = stage' ∧ solo'.forest = g := by
  obtain ⟨j, rfl, hrest⟩ := solo.finishes.of_next hnext
  exact ⟨j, rfl, ⟨solo.tree, solo.top, stage', g, solo.result, solo.final, solo.sound.next hnext,
    hrest, solo.read_eq⟩, rfl, rfl, rfl⟩

/-- With the rules and the budget of a session, a corpus of one tree has this result, within so many
turns. -/
def Session.GivesAlone (s : Session) (turns : Nat) (t : Tree) (r : TreeResult) : Prop :=
  ((⟨s.rules, s.budget, .zero⟩ : Session).reduceCorpus turns [t]).1 = .ok [r]

theorem Session.GivesAlone.mono {s : Session} {turns' : Nat} (h : s.GivesAlone turns t r)
    (hle : turns ≤ turns') : s.GivesAlone turns' t r := by
  obtain ⟨k, hk, hrest⟩ := reduceCorpus_singleton.mp h
  exact reduceCorpus_singleton.mpr ⟨k, by omega, hrest⟩

/-- The result has the tree as it was given, and no other one if surgery has failed. -/
theorem Session.GivesAlone.given {s : Session} (h : s.GivesAlone turns t r) :
    r.given = t ∧ (r.error.isSome → r.tree = some t ∧ r.matched = false) := by
  obtain ⟨k, _, r₀, g₀, hr, hfinishes⟩ := reduceCorpus_singleton.mp h
  have hsound := hfinishes.sound (.waiting (treeAt_plant Forest.empty t))
  rw [List.singleton_inj.mp hr]
  refine ⟨hsound.given.tree_eq, fun hfailed => ?_⟩
  obtain ⟨htree, happlied, _⟩ := hsound.of_failed hfailed
  obtain ⟨n, hn⟩ := Option.isSome_iff_exists.mp htree
  refine ⟨?_, ?_⟩
  · show r₀.tree.map g₀.tree = some t
    rw [hn, Option.map_some, (hsound.restored hfailed n hn).tree_eq]
  · show (r₀.applications != 0) = false
    rw [happlied]
    rfl

/-- One number of turns is enough for all trees of a list. -/
theorem exists_givesAlone {s : Session} {ts : List Tree} {rs : List TreeResult}
    (h : List.Forall₂ (fun t r => ∃ turns, s.GivesAlone turns t r) ts rs) :
    ∃ turns, List.Forall₂ (s.GivesAlone turns) ts rs := by
  induction h with
  | nil => exact ⟨0, .nil⟩
  | cons hone _ ih =>
      obtain ⟨m, hm⟩ := hone
      obtain ⟨n, hn⟩ := ih
      exact ⟨max m n, .cons (hm.mono (Nat.le_max_left m n))
        (hn.imp fun _ _ h => h.mono (Nat.le_max_right m n))⟩

/-! ## A tree among others -/

/-- The work on a tree of a corpus, with the nodes that it has, is where the work on it by itself is
with so many stages left. -/
structure Job.Follows (rules : List Rule) (budget : Option Nat) (index : Nat) (own : NodeId → Prop)
    (k : Nat) (f : Forest) (job : Job) (r : TreeResult) : Prop where
  alone : ∃ (solo : Solo rules budget k r) (R : Pairing), Pairs R f solo.forest ∧
    (∀ a b, R a b → own a) ∧ R job.top solo.top ∧ job.stage.Pairs R index 0 solo.stage

theorem Job.follows_start {s : Session} (h : f.TreeAt top t)
    (halone : s.GivesAlone turns t r)
    (hown : ∀ n, f.Reaches top n → own n) (index : Nat) :
    ∃ k ≤ turns + 2, Job.Follows s.rules s.budget index own k f ⟨top, .waiting⟩ r := by
  obtain ⟨k, hk, r₀, g₀, hread, hfinishes⟩ := Session.reduceCorpus_singleton.mp halone
  have hplant := treeAt_plant Forest.empty t
  let solo : Solo s.rules s.budget k r :=
    ⟨t, _, .waiting, _, r₀, g₀, .waiting hplant, hfinishes, (List.singleton_inj.mp hread).symm⟩
  refine ⟨k, hk, solo, _, h.pairs hplant, ?_, samePlace_top _ _ _ _, .waiting⟩
  rintro a b ⟨path, ha, _⟩
  exact hown a ⟨path, ha⟩

namespace Job.Follows

/-- What is done without touching the nodes of the tree. -/
theorem elsewhere (h : job.Follows rules budget index own k f r) (hsize : f.size ≤ g.size)
    (hkept : ∀ n, own n → g.node n = f.node n) : job.Follows rules budget index own k g r := by
  obtain ⟨solo, R, hpairs, hown, htop, hstage⟩ := h.alone
  exact ⟨solo, R, hpairs.congr_left hsize fun a b hab => hkept a (hown a b hab), hown, htop, hstage⟩

/-- A step of the work on the tree, in which it gets all new nodes. -/
theorem next (h : job.Follows rules budget index own k f r)
    (hnext : job.stage.next rules budget index job.top f = some (stage', g)) :
    (∃ j, k = j + 1 ∧ Follows rules budget index (fun n => own n ∨ f.size ≤ n ∧ n < g.size) j g
      ⟨job.top, stage'⟩ r) ∧
    f.size ≤ g.size ∧ ∀ n < f.size, ¬own n → g.node n = f.node n := by
  obtain ⟨solo, R, hpairs, hown, htop, hstage⟩ := h.alone
  obtain ⟨R₁, stage₁, g₁, hsolo, hleads, hstage₁⟩ := hstage.next hpairs htop solo.sound hnext
  refine ⟨?_, hleads.size_le_left, fun n hn halone => ?_⟩
  · obtain ⟨j, rfl, solo', htop', rfl, rfl⟩ := solo.next hsolo
    refine ⟨j, rfl, solo', R₁, hleads.pairs, fun a b hab => ?_, ?_, hstage₁⟩
    · rcases hleads.fresh a b hab with hold | ⟨hnew, _⟩
      · exact Or.inl (hown a b hold)
      · exact Or.inr ⟨hnew, hleads.pairs.lt_left hab⟩
    · rw [htop']
      exact hleads.le _ _ htop
  · exact hleads.kept_left n hn fun b hab => halone (hown n b hab)

/-- There is a next stage unless there is a result. -/
theorem exists_next (h : job.Follows rules budget index own k f r) (hopen : job.stage.result? = none) :
    ∃ stage' g, job.stage.next rules budget index job.top f = some (stage', g) := by
  obtain ⟨⟨_, _, stage₀, _, _, _, _, hfinishes, _⟩, _, _, _, _, hstage⟩ := h.alone
  obtain ⟨top, stage⟩ := job
  cases hstage with
  | waiting => exact ⟨_, _, rfl⟩
  | @active copy _ p _ left =>
      cases left with
      | nil => exact ⟨_, _, rfl⟩
      | cons rule rest =>
          rcases hturn : Reduction.runFrom { p with forest := f }
            (Reduction.turn budget (rule :: rest)) with ⟨e | left, q⟩
          · exact ⟨_, _, Stage.next_of_interrupted hturn⟩
          · exact ⟨_, _, Stage.next_of_turn hturn⟩
  | failing => exact ⟨_, _, rfl⟩
  | done => cases hopen
  | broken => exact absurd hfinishes Stage.Finishes.not_broken

/-- The result is that of the tree by itself, but for the number. -/
theorem of_done {res : Result NodeId} (h : job.Follows rules budget index own k f r)
    (hdone : job.stage.result? = some res) :
    k = 0 ∧ res.Proper ∧ res.read f = { r with index := (index : Int) } := by
  obtain ⟨⟨_, _, stage₀, _, _, _, hsound, hfinishes, rfl⟩, R, hpairs, _, _, hstage⟩ := h.alone
  obtain ⟨top, stage⟩ := job
  cases hstage with
  | done hres hi _ =>
      cases hdone
      obtain ⟨rfl, rfl, rfl⟩ := hfinishes.of_done
      cases hsound with
      | done hr =>
          refine ⟨rfl, hres.proper hr.toProper, ?_⟩
          rw [hres.read_eq hpairs hr, hi]
  | _ => cases hdone

end Job.Follows

end Treebank
