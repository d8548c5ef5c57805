import Treebank.Proofs.Session.Job

/-!
# The stages of a tree

At every stage of the work on a tree, the tree as it was given stands by itself, apart from the nodes
that the rules are at work on. The work goes through the same stages in every forest where the tree
has the same structure.
-/

namespace Treebank

open Forest Reduction

variable {rules : List Rule} {budget : Option Nat} {index index' : Nat} {top top' : NodeId}
  {f f' g : Forest} {t : Tree} {stage stage' stage₁ : Stage} {R R₁ : Pairing}

/-! ## The tree as it was given -/

/-- The given tree is there as it was, what is left of the reduced tree ends, and a tree whose surgery
has failed is told as it was given. -/
structure Result.Sound (t : Tree) (f : Forest) (r : Result NodeId) : Prop extends r.Proper where
  given : f.TreeAt r.given t
  ends : ∀ n, r.tree = some n → f.endlessBelow n = false
  restored : r.error.isSome → ∀ n, r.tree = some n → f.TreeAt n t

/-- The nodes of the copy are none of those that reduction is at work on. -/
structure Progress.Sound (t : Tree) (copy : NodeId) (rules : List Rule) (p : Progress) : Prop where
  given : p.forest.TreeAt copy t
  apart : ∃ Q, p.Pairs Q p ∧ ∀ n, p.forest.Reaches copy n → ∀ m, ¬Q n m
  settled : Settled rules p
  nodup : (p.ruleCounts.map (·.1)).Nodup

theorem kept_nodup : Kept fun p => (p.ruleCounts.map (·.1)).Nodup where
  forest _ _ h := h
  applied _ _ _ _ _ h := nodup_addCount h
  exhausted _ _ _ h := h

theorem kept_index (i : Int) : Kept fun p => p.index = i where
  forest _ _ h := h
  applied _ _ _ _ _ h := h
  exhausted _ _ _ h := h

theorem Forest.Reaches.of_kept {n : NodeId} (h : g.Reaches top n)
    (hkept : ∀ m, f.Reaches top m → g.node m = f.node m) : f.Reaches top n :=
  h.of_closed (.self f top) fun p hp c hc => hp.child (by rwa [children, hkept p hp] at hc)

namespace Stage

inductive Sound (t : Tree) (top : NodeId) : Stage → Forest → Prop where
  | waiting {f : Forest} : f.TreeAt top t → Sound t top .waiting f
  | active {f : Forest} {copy : NodeId} {p : Progress} {rules : List Rule} :
      Progress.Sound t copy rules { p with forest := f } → Sound t top (.active copy p rules) f
  | failing {f : Forest} {copy : NodeId} {d : Diagnostic} :
      f.TreeAt copy t → Sound t top (.failing copy d) f
  | done {f : Forest} {r : Result NodeId} : r.Sound t f → Sound t top (.done r) f
  | broken {f : Forest} {i : Interruption} : Sound t top (.broken i) f

theorem sound_start (h : f.TreeAt top t) (index : Nat) :
    Progress.Sound t (f.duplicate top).1 rules (.start index (f.duplicate top).2 top) := by
  have hcopy := h.duplicate
  have htop : (f.duplicate top).2.TreeAt top t := h.adds (f.plant_adds (f.tree top)).2
  have hne : (f.duplicate top).1 ≠ top := by
    rw [duplicate, (f.plant_adds (f.tree top)).1]
    exact (Nat.ne_of_lt h.lt_size).symm
  refine ⟨hcopy, ⟨_, .start (htop.pairs htop) (samePlace_top _ _ top top) _ _, ?_⟩, ?_,
    List.nodup_nil⟩
  · rintro n hn m ⟨path, hpath, _⟩
    exact hcopy.disjoint htop hne hn ⟨path, hpath⟩
  · rintro _ _ ⟨⟩
    exact htop.not_endlessBelow

theorem sound_turn {copy : NodeId} {p q : Progress}
    {o : Except Interruption (List Rule)} (h : Progress.Sound t copy rules p)
    (hrun : runFrom p (turn budget rules) = (o, q)) :
    q.forest.TreeAt copy t ∧ ∀ left, o = .ok left → Progress.Sound t copy left q := by
  -- paired with itself, a turn touches no nodes but those in the pairing
  obtain ⟨Q, hpairs, hapart⟩ := h.apart
  obtain ⟨Q₁, hleads, hpairs₁, _⟩ := turn_agree budget rules hpairs
  rw [hrun] at hleads hpairs₁
  have hkept : ∀ n, p.forest.Reaches copy n → q.forest.node n = p.forest.node n :=
    fun n hn => hleads.kept_left n (h.given.lt_size_of_reaches hn) (hapart n hn)
  have hcopy := h.given.congr hleads.size_le_left hkept
  refine ⟨hcopy, ?_⟩
  rintro left rfl
  refine ⟨hcopy, ⟨Q₁, hpairs₁, fun n hn m hm => ?_⟩, h.settled.turn hrun, ?_⟩
  · have hn := hn.of_kept hkept
    rcases hleads.fresh n m hm with hold | ⟨hnew, _⟩
    · exact hapart n hn m hold
    · exact absurd (h.given.lt_size_of_reaches hn) (Nat.not_lt_of_le hnew)
  · have hnodup := kept_nodup.turn budget rules h.nodup
    rwa [hrun] at hnodup

theorem sound_interrupted {copy : NodeId} (h : f.TreeAt copy t) (e : Interruption) :
    (interrupted copy e).Sound t top f := by
  cases e with
  | unfinished => exact .broken
  | failed d =>
      rw [interrupted]
      split
      · exact .failing h
      · exact .broken

theorem Sound.next (h : stage.Sound t top f)
    (hnext : stage.next rules budget index top f = some (stage', g)) : stage'.Sound t top g := by
  cases h with
  | waiting h =>
      cases hnext
      exact .active (sound_start h index)
  | @active _ copy p left h =>
      cases left with
      | nil =>
          cases hnext
          exact .done ⟨⟨h.nodup, nofun⟩, h.given, h.settled (Or.inl rfl), nofun⟩
      | cons r rest =>
          rcases hturn : runFrom { p with forest := f } (turn budget (r :: rest)) with ⟨e | left, q⟩
          · rw [next_of_interrupted hturn] at hnext
            cases hnext
            exact sound_interrupted (sound_turn h hturn).1 e
          · rw [next_of_turn hturn] at hnext
            cases hnext
            exact .active ((sound_turn h hturn).2 left rfl)
  | @failing _ copy d h =>
      cases hnext
      have hagain := h.duplicate
      refine .done ⟨⟨List.nodup_nil, fun _ => ⟨rfl, rfl, rfl⟩⟩,
        h.adds (f.plant_adds (f.tree copy)).2, ?_, ?_⟩
      · rintro _ ⟨⟩
        exact hagain.not_endlessBelow
      · rintro _ _ ⟨⟩
        exact hagain
  | done => cases hnext
  | broken => cases hnext

theorem Finishes.sound {k : Nat} {r : Result NodeId}
    (h : Finishes rules budget index top k stage f r g) (hsound : stage.Sound t top f) :
    r.Sound t g := by
  induction h with
  | done => cases hsound with | done hr => exact hr
  | next hnext _ ih => exact ih (hsound.next hnext)

end Stage

/-! ## The same stages -/

/-- The results are told by corresponding nodes. -/
structure Result.Pairs (R : Pairing) (r r' : Result NodeId) : Prop where
  given : R r.given r'.given
  tree : Option.Rel R r.tree r'.tree
  applications_eq : r.applications = r'.applications
  ruleCounts_eq : r.ruleCounts = r'.ruleCounts
  budgetExhausted_eq : r.budgetExhausted = r'.budgetExhausted
  error_eq : r.error = r'.error

theorem Result.Pairs.proper {r r' : Result NodeId} (h : r.Pairs R r') (hr : r'.Proper) :
    r.Proper where
  nodup := h.ruleCounts_eq ▸ hr.nodup
  of_failed hfailed := by
    obtain ⟨htree, happlied, hbudget⟩ := hr.of_failed (h.error_eq ▸ hfailed)
    exact ⟨(Option.Rel.isSome_eq h.tree).trans htree, h.applications_eq.trans happlied,
      h.budgetExhausted_eq.trans hbudget⟩

/-- Results told by corresponding nodes are read off alike, their numbers apart. -/
theorem Result.Pairs.read_eq {r r' : Result NodeId} (h : r.Pairs R r') (hpairs : Forest.Pairs R f f')
    (hr : r'.Sound t f') : r.read f = { r'.read f' with index := r.index } := by
  have htree : ∀ n n', R n n' → f'.endlessBelow n' = false → f.tree n = f'.tree n' :=
    fun n n' hn hends => hpairs.tree_eq hn ((hpairs.endlessBelow_eq hn).trans hends)
  have hleft : r.tree.map f.tree = r'.tree.map f'.tree := by
    have hrel := h.tree
    cases hn : r.tree <;> cases hn' : r'.tree <;> rw [hn, hn'] at hrel <;> cases hrel
    · rfl
    · rename_i hnn
      exact congrArg some (htree _ _ hnn (hr.ends _ hn'))
  have hgiven := htree _ _ h.given hr.given.not_endlessBelow
  simp only [read, hleft, hgiven, h.applications_eq, h.ruleCounts_eq, h.budgetExhausted_eq,
    h.error_eq]

namespace Stage

/-- The same stages of the work on two trees with given numbers, told by corresponding nodes. -/
inductive Pairs (R : Pairing) (i i' : Int) : Stage → Stage → Prop where
  | waiting : Pairs R i i' .waiting .waiting
  | active {copy copy' : NodeId} {p p' : Progress} {rules : List Rule} :
      R copy copy' → p.Similar R p' → p.index = i → p'.index = i' →
      Pairs R i i' (.active copy p rules) (.active copy' p' rules)
  | failing {copy copy' : NodeId} {d : Diagnostic} :
      R copy copy' → Pairs R i i' (.failing copy d) (.failing copy' d)
  | done {r r' : Result NodeId} : r.Pairs R r' → r.index = i → r'.index = i' →
      Pairs R i i' (.done r) (.done r')
  | broken {e : Interruption} : Pairs R i i' (.broken e) (.broken e)

theorem pairs_interrupted {copy copy' : NodeId} {i i' : Int} (h : R copy copy') (e : Interruption) :
    (interrupted copy e).Pairs R i i' (interrupted copy' e) := by
  cases e with
  | unfinished => exact .broken
  | failed d =>
      rw [interrupted, interrupted]
      split
      · exact .failing h
      · exact .broken

/-- A copy of the same tree in both forests. -/
theorem duplicate_agree {n n' : NodeId} (h : Forest.Pairs R f f') (hn : R n n')
    (hends : f'.endlessBelow n' = false) :
    ∃ R₁, Leads R f f' R₁ (f.duplicate n).2 (f'.duplicate n').2 ∧
      R₁ (f.duplicate n).1 (f'.duplicate n').1 := by
  rw [duplicate, duplicate, h.tree_eq hn ((h.endlessBelow_eq hn).trans hends)]
  exact h.plant _

theorem pairs_turn {copy copy' : NodeId} {p p' : Progress} {rule : Rule} {rest : List Rule}
    (h : Forest.Pairs R f f') (hcopy : R copy copy') (hp : p.Similar R p') (hi : p.index = index)
    (hi' : p'.index = index')
    (hnext : (active copy p (rule :: rest)).next rules budget index top f = some (stage₁, g)) :
    ∃ R₁ stage₁' g', (active copy' p' (rule :: rest)).next rules budget index' top' f' =
        some (stage₁', g') ∧
      Leads R f f' R₁ g g' ∧ stage₁.Pairs R₁ index index' stage₁' := by
  -- other trees may have been worked on since the last turn, so the forests are not those of `p`, `p'`
  let now : Progress := { p with forest := f }
  let now' : Progress := { p' with forest := f' }
  have hpairs : now.Pairs R now' :=
    ⟨⟨hp.root, hp.applications_eq, hp.ruleCounts_eq, hp.budgetExhausted_eq⟩, h⟩
  obtain ⟨R₁, hleads, hpairs₁, hsame⟩ := turn_agree budget (rule :: rest) hpairs
  have hindex := (kept_index index).turn (p := now) budget (rule :: rest) hi
  have hindex' := (kept_index index').turn (p := now') budget (rule :: rest) hi'
  rcases hturn : runFrom now (turn budget (rule :: rest)) with ⟨o, q⟩
  rcases hturn' : runFrom now' (turn budget (rule :: rest)) with ⟨o', q'⟩
  rw [hturn] at hleads hpairs₁ hsame hindex
  rw [hturn'] at hleads hpairs₁ hsame hindex'
  cases hsame
  cases o with
  | error e =>
      rw [next_of_interrupted hturn] at hnext
      cases hnext
      exact ⟨R₁, _, _, next_of_interrupted hturn', hleads, pairs_interrupted (hleads.le _ _ hcopy) e⟩
  | ok left =>
      rw [next_of_turn hturn] at hnext
      cases hnext
      exact ⟨R₁, _, _, next_of_turn hturn', hleads,
        .active (hleads.le _ _ hcopy) hpairs₁.toSimilar hindex hindex'⟩

/-- From corresponding stages the work comes to corresponding stages. -/
theorem Pairs.next (hst : stage.Pairs R index index' stage') (h : Forest.Pairs R f f')
    (htop : R top top') (hsound : stage'.Sound t top' f')
    (hnext : stage.next rules budget index top f = some (stage₁, g)) :
    ∃ R₁ stage₁' g', stage'.next rules budget index' top' f' = some (stage₁', g') ∧
      Leads R f f' R₁ g g' ∧ stage₁.Pairs R₁ index index' stage₁' := by
  cases hst with
  | waiting =>
      cases hsound with
      | waiting htree =>
          cases hnext
          obtain ⟨R₁, hleads, hcopy⟩ := duplicate_agree h htop htree.not_endlessBelow
          exact ⟨R₁, _, _, rfl, hleads,
            .active hcopy ⟨.some (hleads.le _ _ htop), rfl, rfl, rfl⟩ rfl rfl⟩
  | @active copy copy' p p' left hcopy hp hi hi' =>
      cases left with
      | nil =>
          cases hnext
          exact ⟨R, _, _, rfl, h.leads, .done ⟨hcopy, hp.root, hp.applications_eq,
            hp.ruleCounts_eq, hp.budgetExhausted_eq, rfl⟩ hi hi'⟩
      | cons rule rest => exact pairs_turn h hcopy hp hi hi' hnext
  | @failing copy copy' d hcopy =>
      cases hsound with
      | failing htree =>
          cases hnext
          obtain ⟨R₁, hleads, hagain⟩ := duplicate_agree h hcopy htree.not_endlessBelow
          exact ⟨R₁, _, _, rfl, hleads,
            .done ⟨hleads.le _ _ hcopy, .some hagain, rfl, rfl, rfl, rfl⟩ rfl rfl⟩
  | done => cases hnext
  | broken => cases hnext

end Stage

end Treebank
