import Mathlib.Algebra.BigOperators.Group.Finset.Basic
import Treebank.Proofs.Session.Isolation

/-!
# Pools at work

Whatever the order of the steps of a pool, the work on every tree goes on as the work on it by itself.
So every run of a pool comes to an end, and then there are the results of the trees by themselves, and
totals that are sums over them.
-/

namespace Treebank

variable {s : Session} {rs : List TreeResult} {own : Nat → NodeId → Prop} {left : Nat → Nat}
  {workers i n : Nat} {w w' : Pool} {top : NodeId} {stage stage' : Stage} {f : Forest}

theorem perm_filterMap_set {α β : Type} {f : α → Option β} {l : List α} {a b : α}
    (hi : l[i]? = some a) (ha : f a = none) :
    ((l.set i b).filterMap f).Perm ((f b).toList ++ l.filterMap f) := by
  induction l generalizing i with
  | nil => cases hi
  | cons c l ih =>
      cases i with
      | zero =>
          cases hi
          rw [List.set_cons_zero, List.filterMap_cons, List.filterMap_cons_none ha]
          cases f b <;> exact .rfl
      | succ i =>
          rw [List.set_cons_succ, List.filterMap_cons, List.filterMap_cons]
          cases f c with
          | none => exact ih hi
          | some d => exact ((ih hi).cons d).trans List.perm_middle.symm

theorem getElem?_filterMap_of_isSome {α β : Type} {f : α → Option β} {l : List α}
    (h : ∀ a ∈ l, (f a).isSome) (i : Nat) : (l.filterMap f)[i]? = l[i]?.bind f := by
  induction l generalizing i with
  | nil => rfl
  | cons a l ih =>
      obtain ⟨ha, hl⟩ := List.forall_mem_cons.mp h
      obtain ⟨b, hb⟩ := Option.isSome_iff_exists.mp ha
      rw [List.filterMap_cons_some hb]
      cases i with
      | zero => exact hb.symm
      | succ i => exact ih hl i

/-- Results of trees by themselves, numbered from zero. -/
def numbered (rs : List TreeResult) : List TreeResult :=
  rs.mapIdx fun i r => { r with index := (i : Int) }

/-! ## A step -/

/-- Nodes of a forest of the given size are shared out: no node belongs to two trees. -/
structure Apart (own : Nat → NodeId → Prop) (size : Nat) : Prop where
  lt : ∀ i n, own i n → n < size
  unique : ∀ i j n, own i n → own j n → i = j

/-- All new nodes may belong to one of the trees. -/
theorem Apart.grow {size size' : Nat} (h : Apart own size) (hle : size ≤ size') (i : Nat) :
    Apart (Function.update own i fun n => own i n ∨ size ≤ n ∧ n < size') size' := by
  have hold : ∀ a n, Function.update own i (fun n => own i n ∨ size ≤ n ∧ n < size') a n →
      own a n ∨ a = i ∧ size ≤ n ∧ n < size' := by
    intro a n hn
    by_cases hai : a = i
    · subst hai
      rw [Function.update_self] at hn
      exact hn.imp_right fun hn => ⟨rfl, hn⟩
    · rw [Function.update_of_ne hai] at hn
      exact Or.inl hn
  constructor
  · intro a n hn
    rcases hold a n hn with hn | ⟨_, _, hn⟩
    · exact Nat.lt_of_lt_of_le (h.lt a n hn) hle
    · exact hn
  · intro a b n ha hb
    rcases hold a n ha with hao | ⟨hai, hnew, _⟩ <;> rcases hold b n hb with hbo | ⟨hbi, hnew', _⟩
    · exact h.unique a b n hao hbo
    · exact absurd (h.lt a n hao) (Nat.not_lt_of_le hnew')
    · exact absurd (h.lt b n hbo) (Nat.not_lt_of_le hnew)
    · exact hai.trans hbi.symm

namespace Pool

/-- Every tree has nodes of its own, and the work on it is where the work on it by itself is with so
many stages left. -/
structure Isolated (s : Session) (rs : List TreeResult) (own : Nat → NodeId → Prop)
    (left : Nat → Nat) (w : Pool) : Prop where
  rules_eq : w.session.rules = s.rules
  budget_eq : w.session.budget = s.budget
  length_eq : w.jobs.length = rs.length
  apart : Apart own w.forest.size
  follows : ∀ i (job : Job) r, w.jobs[i]? = some job → rs[i]? = some r →
    job.Follows s.rules s.budget i (own i) (left i) w.forest r
  sums : s.totals.Sums w.session.totals w.results

theorem Isolated.exists_result (h : w.Isolated s rs own left) {job : Job}
    (hi : w.jobs[i]? = some job) :
    ∃ r, rs[i]? = some r ∧ job.Follows s.rules s.budget i (own i) (left i) w.forest r := by
  obtain ⟨hlt, _⟩ := List.getElem?_eq_some_iff.mp hi
  have hr := List.getElem?_eq_getElem (h.length_eq ▸ hlt)
  exact ⟨_, hr, h.follows i job _ hi hr⟩

/-- The sums over the results when a tree has come to a further stage. -/
theorem sums_advance (h : s.totals.Sums w.session.totals w.results)
    (hi : w.jobs[i]? = some ⟨top, stage⟩) (hopen : stage.result? = none)
    (hproper : ∀ r, stage'.result? = some r → r.Proper) :
    s.totals.Sums (w.advance i top stage' f).session.totals (w.advance i top stage' f).results := by
  have hperm : (w.advance i top stage' f).results.Perm (stage'.result?.toList ++ w.results) :=
    perm_filterMap_set hi hopen
  refine Totals.Sums.perm ?_ hperm.symm
  rw [advance]
  cases hres : stage'.result? with
  | none => exact h
  | some r => exact h.add (hproper r hres)

theorem Isolated.advance (h : w.Isolated s rs own left) (hi : w.jobs[i]? = some ⟨top, stage⟩)
    (hnext : stage.next w.session.rules w.session.budget i top w.forest = some (stage', f)) :
    ∃ j, left i = j + 1 ∧ (w.advance i top stage' f).Isolated s rs
      (Function.update own i fun n => own i n ∨ w.forest.size ≤ n ∧ n < f.size)
      (Function.update left i j) := by
  obtain ⟨r, hr, hjob⟩ := h.exists_result hi
  have hopen : stage.result? = none := by
    cases stage with
    | done => cases hnext
    | _ => rfl
  rw [h.rules_eq, h.budget_eq] at hnext
  obtain ⟨⟨j, hj, hjob'⟩, hsize, hkept⟩ := hjob.next hnext
  have hsums := sums_advance (f := f) h.sums hi hopen fun res hres => (hjob'.of_done hres).2.1
  refine ⟨j, hj, ?_, ?_, List.length_set.trans h.length_eq, h.apart.grow hsize i,
    fun a job r' ha hr' => ?_, hsums⟩
  · rw [← h.rules_eq, Pool.advance]
    cases stage'.result? <;> rfl
  · rw [← h.budget_eq, Pool.advance]
    cases stage'.result? <;> rfl
  · by_cases hai : a = i
    · subst hai
      rw [Function.update_self, Function.update_self]
      obtain ⟨hlt, _⟩ := List.getElem?_eq_some_iff.mp hi
      have hset : (w.advance a top stage' f).jobs[a]? = some ⟨top, stage'⟩ :=
        List.getElem?_set_self hlt
      rw [hset] at ha
      rw [hr] at hr'
      cases ha
      cases hr'
      exact hjob'
    · rw [Function.update_of_ne hai, Function.update_of_ne hai]
      have hset : (w.advance i top stage' f).jobs[a]? = w.jobs[a]? :=
        List.getElem?_set_ne (Ne.symm hai)
      rw [hset] at ha
      -- the work on another tree does not see the step
      refine (h.follows a job r' ha hr').elsewhere hsize fun n hn => ?_
      exact hkept n (h.apart.lt a n hn) fun hown => hai (h.apart.unique a i n hn hown)

/-! ## A run -/

theorem sum_update_add_one {k : Nat → Nat} {size j : Nat} (hi : i < size) (hj : k i = j + 1) :
    ∑ a ∈ Finset.range size, Function.update k i j a + 1 = ∑ a ∈ Finset.range size, k a := by
  have hmem := Finset.mem_range.mpr hi
  rw [Finset.sum_update_of_mem hmem, Finset.sum_eq_add_sum_sdiff_singleton_of_mem hmem k, hj]
  omega

/-- Every step of the work leaves one stage less. -/
theorem Isolated.steps (h : w.Isolated s rs own left) (hsteps : Steps workers n w w') :
    ∃ own' left', w'.Isolated s rs own' left' ∧
      n + ∑ i ∈ Finset.range rs.length, left' i = ∑ i ∈ Finset.range rs.length, left i := by
  induction hsteps with
  | refl => exact ⟨own, left, h, Nat.zero_add _⟩
  | tail _ hstep ih =>
      obtain ⟨own', left', h', hsum⟩ := ih h
      cases hstep with
      | advance hi _ hnext =>
          obtain ⟨j, hj, hadvance⟩ := h'.advance hi hnext
          obtain ⟨hlt, _⟩ := List.getElem?_eq_some_iff.mp hi
          refine ⟨_, _, hadvance, ?_⟩
          rw [← hsum, ← sum_update_add_one (h'.length_eq ▸ hlt) hj]
          omega

theorem Isolated.steps_le {most : Nat} (h : w.Isolated s rs own left) (hleft : ∀ i, left i ≤ most)
    (hsteps : Steps workers n w w') : n ≤ rs.length * most := by
  obtain ⟨_, left', _, hsum⟩ := h.steps hsteps
  have hall : ∑ i ∈ Finset.range rs.length, left i ≤ rs.length * most := by
    simpa using Finset.sum_le_card_nsmul (Finset.range rs.length) left most fun i _ => hleft i
  omega

/-- While there is a tree without result, some tree can be taken or can come a step further. -/
theorem Isolated.exists_step (h : w.Isolated s rs own left) (hworkers : 0 < workers)
    (hopen : ¬w.IsFinished) : ∃ w', Step workers w w' := by
  have hnext : ∀ i (job : Job), w.jobs[i]? = some job → job.stage.result? = none → ∃ stage' f,
      job.stage.next w.session.rules w.session.budget i job.top w.forest = some (stage', f) := by
    intro i job hi hnone
    obtain ⟨r, _, hjob⟩ := h.exists_result hi
    rw [h.rules_eq, h.budget_eq]
    exact hjob.exists_next hnone
  -- a worker at work can go on; without one, the first tree left can be taken
  by_cases hbusy : ∃ job ∈ w.jobs, job.stage.isBusy = true
  · obtain ⟨job, hmem, hbusy⟩ := hbusy
    obtain ⟨i, hi⟩ := List.getElem?_of_mem hmem
    have hactive : job.stage.result? = none ∧ job.stage.isWaiting = false := by
      cases hstage : job.stage <;> rw [hstage] at hbusy <;> first | exact ⟨rfl, rfl⟩ | cases hbusy
    obtain ⟨stage', f, hstep⟩ := hnext i job hi hactive.1
    refine ⟨_, .advance hi (fun hwaiting => ?_) hstep⟩
    rw [hactive.2] at hwaiting
    cases hwaiting
  · have hnone : w.jobs.findIdx (·.stage.result?.isNone) < w.jobs.length := by
      rw [List.findIdx_lt_length]
      simpa [IsFinished] using hopen
    obtain ⟨stage', f, hstep⟩ := hnext _ _ (List.getElem?_eq_getElem hnone)
      (Option.isNone_iff_eq_none.mp (List.findIdx_getElem (w := hnone)))
    refine ⟨_, .advance (List.getElem?_eq_getElem hnone) (fun _ => ⟨?_, ?_⟩) hstep⟩
    · intro job hjob
      obtain ⟨j, hj, rfl⟩ := List.mem_take_iff_getElem.mp hjob
      have hearlier := List.not_of_lt_findIdx (Nat.lt_of_lt_of_le hj (Nat.min_le_left _ _))
      cases hstage : w.jobs[j].stage with
      | waiting =>
          rw [hstage] at hearlier
          cases hearlier
      | _ => rfl
    · have hidle : w.busy = 0 :=
        List.countP_eq_zero.mpr fun job hmem hb => hbusy ⟨job, hmem, hb⟩
      exact hidle ▸ hworkers

/-! ## The results -/

theorem getElem?_results (hdone : w.IsFinished) (i : Nat) :
    w.results[i]? = w.jobs[i]?.bind (·.stage.result?) := getElem?_filterMap_of_isSome hdone i

theorem Isolated.map_read_results (h : w.Isolated s rs own left) (hdone : w.IsFinished) :
    w.results.map (·.read w.forest) = numbered rs := by
  refine List.ext_getElem? fun i => ?_
  rw [numbered, List.getElem?_map, List.getElem?_mapIdx, getElem?_results hdone]
  cases hi : w.jobs[i]? with
  | none =>
      rw [List.getElem?_eq_none_iff, h.length_eq, ← List.getElem?_eq_none_iff] at hi
      rw [hi]
      rfl
  | some job =>
      obtain ⟨r, hr, hjob⟩ := h.exists_result hi
      obtain ⟨res, hres⟩ := Option.isSome_iff_exists.mp (hdone job (List.mem_of_getElem? hi))
      rw [hr, Option.bind_some, hres]
      exact congrArg some (hjob.of_done hres).2.2

theorem Isolated.sums_results (h : w.Isolated s rs own left) (hdone : w.IsFinished) :
    s.totals.Sums w.session.totals rs := by
  have hread : List.Forall₂ Result.SameAccount w.results (w.results.map (·.read w.forest)) := by
    rw [List.forall₂_map_right_iff, List.forall₂_same]
    intro r _
    exact ⟨rfl, rfl, Option.isNone_map.symm, rfl, rfl⟩
  have hindex : List.Forall₂ Result.SameAccount (numbered rs) rs := by
    refine List.forall₂_iff_get.mpr ⟨List.length_mapIdx, fun i hi hi' => ?_⟩
    simp only [numbered, List.get_eq_getElem, List.getElem_mapIdx]
    exact ⟨rfl, rfl, rfl, rfl, rfl⟩
  rw [h.map_read_results hdone] at hread
  exact (h.sums.of_sameAccount hread).of_sameAccount hindex

end Pool

end Treebank
