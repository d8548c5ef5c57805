import Mathlib.Data.Finset.Card
import Treebank.Proofs.Forest.PairedEdit
import Treebank.Proofs.Forest.Ways
import Treebank.Proofs.Surgery.Failures

/-!
# The same surgery on corresponding nodes

Two states of surgery correspond if their nodes do, with the roots and the nodes that names stand for.
Every statement has the same outcome in both, failures included, and leaves them corresponding. A
statement thus touches no node outside of the tree it works on.
-/

namespace Treebank.Surgery

variable {α β γ δ : Type} {R R₁ : Pairing} {s s' t t' : State} {n n' : NodeId} {name : String}
  {Q : Pairing → α → β → Prop} {S : Pairing → γ → δ → Prop}

/-- The same name with corresponding nodes. -/
def SameEntry (R : Pairing) (e e' : String × NodeId) : Prop := e.1 = e'.1 ∧ R e.2 e'.2

structure State.Pairs (R : Pairing) (s s' : State) : Prop where
  forest : Forest.Pairs R s.forest s'.forest
  root : Option.Rel R s.root s'.root
  names : List.Forall₂ (SameEntry R) s.names s'.names

/-- The steps have the same outcome, up to what corresponds, and the states after them correspond. -/
def Agree (R : Pairing) (s s' : State) (x : Surgery α) (x' : Surgery β)
    (Q : Pairing → α → β → Prop) : Prop :=
  ∃ R₁, Forest.Leads R s.forest s'.forest R₁ (runFrom s x).2.forest (runFrom s' x').2.forest ∧
    State.Pairs R₁ (runFrom s x).2 (runFrom s' x').2 ∧
    SameOutcome (Q R₁) (runFrom s x).1 (runFrom s' x').1

/-! ## Rules -/

theorem agree_pure {a : α} {b : β} (h : s.Pairs R s') (hQ : Q R a b) :
    Agree R s s' (pure a) (pure b) Q := ⟨R, h.forest.leads, h, .ok hQ⟩

theorem agree_throw (h : s.Pairs R s') (e : Error) :
    Agree R s s' (throw e : Surgery α) (throw e : Surgery β) Q := ⟨R, h.forest.leads, h, .error⟩

theorem agree_throw_bind {k : α → Surgery γ} {k' : β → Surgery δ} (h : s.Pairs R s') (e : Error) :
    Agree R s s' ((throw e : Surgery α) >>= k) ((throw e : Surgery β) >>= k') S :=
  ⟨R, h.forest.leads, h, .error⟩

theorem agree_forest_bind {k : Forest → Surgery γ} {k' : Forest → Surgery δ}
    (h : Agree R s s' (k s.forest) (k' s'.forest) S) :
    Agree R s s' (forest >>= k) (forest >>= k') S := h

theorem agree_root_bind {k : Option NodeId → Surgery γ} {k' : Option NodeId → Surgery δ}
    (h : Agree R s s' (k s.root) (k' s'.root) S) :
    Agree R s s' (root >>= k) (root >>= k') S := h

theorem agree_modify {m m' : State → State} {Q : Pairing → PUnit → PUnit → Prop}
    (hleads : Forest.Leads R s.forest s'.forest R₁ (m s).forest (m' s').forest)
    (hpairs : State.Pairs R₁ (m s) (m' s')) (hQ : Q R₁ ⟨⟩ ⟨⟩) :
    Agree R s s' (modify m : Surgery PUnit) (modify m' : Surgery PUnit) Q :=
  ⟨R₁, hleads, hpairs, .ok hQ⟩

theorem Agree.bind {x : Surgery α} {x' : Surgery β} {k : α → Surgery γ} {k' : β → Surgery δ}
    (hx : Agree R s s' x x' Q)
    (hk : ∀ R₁ t t' a b, (∀ a b, R a b → R₁ a b) → t.Pairs R₁ t' → Q R₁ a b →
      Agree R₁ t t' (k a) (k' b) S) : Agree R s s' (x >>= k) (x' >>= k') S := by
  obtain ⟨R₁, hleads, hpairs, houtcome⟩ := hx
  rw [Agree, runFrom_bind, runFrom_bind]
  rcases hrun : runFrom s x with ⟨r, t⟩
  rcases hrun' : runFrom s' x' with ⟨r', t'⟩
  rw [hrun, hrun'] at hleads hpairs houtcome
  cases houtcome with
  | error => exact ⟨R₁, hleads, hpairs, .error⟩
  | ok hQ =>
      obtain ⟨R₂, hmore, hrest⟩ := hk R₁ t t' _ _ hleads.le hpairs hQ
      exact ⟨R₂, hleads.trans hmore, hrest⟩

theorem Agree.ite {b b' : Prop} [Decidable b] [Decidable b'] {x y : Surgery α} {x' y' : Surgery β}
    (hb : b ↔ b') (hx : b → Agree R s s' x x' Q) (hy : ¬b → Agree R s s' y y' Q) :
    Agree R s s' (if b then x else y) (if b' then x' else y') Q := by
  by_cases h : b
  · rw [if_pos h, if_pos (hb.mp h)]
    exact hx h
  · rw [if_neg h, if_neg fun h' => h (hb.mpr h')]
    exact hy h

/-- A node and its counterpart have no parents, or corresponding ones. -/
theorem agree_parent {f f' : Forest} (hrel : Option.Rel R (f.parent? n) (f'.parent? n'))
    {x : Surgery α} {x' : Surgery β} {k : NodeId → Surgery α} {k' : NodeId → Surgery β}
    (hnone : Agree R s s' x x' Q) (hsome : ∀ p p', R p p' → Agree R s s' (k p) (k' p') Q) :
    Agree R s s' (match f.parent? n with | none => x | some p => k p)
      (match f'.parent? n' with | none => x' | some p => k' p) Q := by
  cases hp : f.parent? n <;> cases hp' : f'.parent? n' <;> rw [hp, hp'] at hrel <;> cases hrel
  · exact hnone
  · rename_i hpp
    exact hsome _ _ hpp

theorem lookup_rel {names names' : List (String × NodeId)}
    (h : List.Forall₂ (SameEntry R) names names') (name : String) :
    Option.Rel R (names.lookup name) (names'.lookup name) := by
  induction h with
  | nil => exact .none
  | cons he _ ih =>
      rw [List.lookup_cons, List.lookup_cons, ← he.1]
      split
      · exact .some he.2
      · exact ih

theorem agree_node_bind {k : NodeId → Surgery γ} {k' : NodeId → Surgery δ} (h : s.Pairs R s')
    (hk : ∀ n n', R n n' → Agree R s s' (k n) (k' n') S) :
    Agree R s s' (node name >>= k) (node name >>= k') S := by
  have hrel := lookup_rel h.names name
  rw [Agree, runFrom_bind, runFrom_bind, runFrom_node, runFrom_node]
  cases hn : s.names.lookup name <;> cases hn' : s'.names.lookup name <;> rw [hn, hn'] at hrel <;>
    cases hrel
  · exact ⟨R, h.forest.leads, h, .error⟩
  · rename_i hnn
    exact hk _ _ hnn

theorem agree_edit {e : Forest.Edit α} {e' : Forest.Edit β} {Q : α → β → Prop} (h : s.Pairs R s')
    (he : Forest.EditAgree R s.forest s'.forest e e' Q) :
    Agree R s s' (edit e) (edit e') fun _ => Q := by
  obtain ⟨hleads, houtcome⟩ := he
  rw [Agree, runFrom_edit, runFrom_edit]
  rcases hrun : s.forest.runEdit e with ⟨r, f⟩
  rcases hrun' : s'.forest.runEdit e' with ⟨r', f'⟩
  rw [hrun, hrun'] at hleads houtcome
  cases houtcome with
  | error => exact ⟨R, hleads, ⟨hleads.pairs, h.root, h.names⟩, .error⟩
  | ok hQ => exact ⟨R, hleads, ⟨hleads.pairs, h.root, h.names⟩, .ok hQ⟩

theorem agree_setRoot {r r' : Option NodeId} (h : s.Pairs R s') (hr : Option.Rel R r r') :
    Agree R s s' (setRoot r) (setRoot r') fun _ _ _ => True :=
  agree_modify h.forest.leads ⟨h.forest, hr, h.names⟩ trivial

theorem agree_setLabel (h : s.Pairs R s') (hn : R n n') (label : String) :
    Agree R s s' (setLabel n label) (setLabel n' label) fun _ _ _ => True :=
  have hleads := h.forest.setLabel hn label
  agree_modify hleads ⟨hleads.pairs, h.root, h.names⟩ trivial

/-! ## Names -/

theorem State.Pairs.names_mono (h : s.Pairs R s') (hle : ∀ a b, R a b → R₁ a b) :
    List.Forall₂ (SameEntry R₁) s.names s'.names :=
  h.names.imp fun _ _ he => ⟨he.1, hle _ _ he.2⟩

theorem State.Pairs.bind (h : s.Pairs R s') (hn : R n n') :
    (s.bind name n).Pairs R (s'.bind name n') where
  forest := by simpa using h.forest
  root := by simpa using h.root
  names := by
    rw [State.bind, State.bind, ← Option.Rel.isSome_eq (lookup_rel h.names name)]
    split
    · refine List.rel_map ?_ h.names
      rintro ⟨other, k⟩ ⟨_, k'⟩ ⟨rfl, hk⟩
      show SameEntry R (if other == name then (other, n) else (other, k))
        (if other == name then (other, n') else (other, k'))
      split
      · exact ⟨rfl, hn⟩
      · exact ⟨rfl, hk⟩
    · exact List.rel_append h.names (.cons ⟨rfl, hn⟩ .nil)

theorem State.Pairs.bindAll {named named' : List (String × NodeId)} (h : s.Pairs R s')
    (hnamed : List.Forall₂ (SameEntry R) named named') :
    (s.bindAll named).Pairs R (s'.bindAll named') := by
  induction hnamed generalizing s s' with
  | nil => exact h
  | @cons e e' _ _ he _ ih =>
      obtain ⟨name, n⟩ := e
      obtain ⟨_, n'⟩ := e'
      obtain ⟨rfl, hn⟩ := he
      exact ih (h.bind hn)

theorem agree_bindAll {named named' : List (String × NodeId)} (h : s.Pairs R s')
    (hnamed : List.Forall₂ (SameEntry R) named named') :
    Agree R s s' (modify fun s => s.bindAll named) (modify fun s => s.bindAll named')
      fun _ _ _ => True := by
  refine agree_modify ?_ (h.bindAll hnamed) trivial
  rw [State.forest_bindAll, State.forest_bindAll]
  exact h.forest.leads

/-! ## Taking nodes out -/

theorem remove_agree (h : s.Pairs R s') (hn : R n n') :
    Agree R s s' (remove n) (remove n') Option.Rel := by
  simp only [remove]
  refine agree_root_bind ?_
  rw [h.forest.beq_some_eq h.root hn]
  refine .ite Iff.rfl (fun _ => ?_) fun _ => ?_
  · exact (agree_setRoot h .none).bind fun _ _ _ _ _ _ h _ => agree_pure h .none
  · refine agree_forest_bind ?_
    refine agree_parent (h.forest.parent_rel hn) (agree_pure h .none) fun p p' hp => ?_
    refine (agree_edit h (Forest.removeChild_agree h.forest hp hn)).bind ?_
    exact fun _ _ _ _ _ hle h _ => agree_pure h (.some (hle _ _ hp))

theorem removeEmptied_agree_of_eq (fuel : Nat) (h : s.Pairs R s') (hn : R n n') :
    Agree R s s' (removeEmptied fuel n) (removeEmptied fuel n') fun _ _ _ => True := by
  induction fuel generalizing R s s' n n' with
  | zero => exact agree_pure h trivial
  | succ fuel ih =>
      simp only [removeEmptied]
      refine agree_root_bind (agree_forest_bind ?_)
      rw [h.forest.beq_some_eq h.root hn, h.forest.isLeaf_eq hn]
      refine .ite Iff.rfl (fun _ => agree_pure h trivial) fun _ => ?_
      refine (remove_agree h hn).bind fun _ t t' above above' _ ht habove => ?_
      cases habove with
      | none => exact agree_pure ht trivial
      | some hp => exact ih ht hp

/-- The nodes that have a parent. -/
def parented (f : Forest) : Finset NodeId :=
  (Finset.range f.size).filter fun n => (f.parent? n).isSome

theorem mem_parented {f : Forest} : n ∈ parented f ↔ (f.parent? n).isSome := by
  rw [parented, Finset.mem_filter, Finset.mem_range]
  refine ⟨And.right, fun hn => ⟨?_, hn⟩⟩
  obtain ⟨p, hp⟩ := Option.isSome_iff_exists.mp hn
  exact Forest.lt_size_of_parent? hp

theorem card_parented_le (f : Forest) : (parented f).card ≤ f.size := by
  have hle := Finset.card_filter_le (Finset.range f.size) fun n => (f.parent? n).isSome
  rwa [Finset.card_range] at hle

/-- A node that is taken out from under another one has no parent any more. -/
theorem card_parented_remove {p : NodeId} (h : runFrom s (remove n) = (.ok (some p), t)) :
    (parented t.forest).card < (parented s.forest).card := by
  rw [runFrom_remove] at h
  split at h
  · cases h
  · split at h
    · cases h
    · rename_i q hq
      split at h
      · rename_i i f hrun
        cases h
        have hf := Forest.parent?_of_runEdit_removeChild hrun (Forest.lt_size_of_parent? hq)
        refine Finset.card_lt_card (Finset.ssubset_iff_of_subset ?_ |>.mpr ⟨n, ?_, ?_⟩)
        · intro m hm
          rw [mem_parented] at hm ⊢
          rw [hf] at hm
          split at hm
          · cases hm
          · exact hm
        · rw [mem_parented, hq]
          rfl
        · rw [mem_parented, hf, if_pos rfl]
          exact Bool.false_ne_true
      · cases h

theorem runFrom_removeEmptied (s : State) (fuel : Nat) (n : NodeId) :
    runFrom s (removeEmptied (fuel + 1) n) =
      if s.root == some n || !s.forest.isLeaf n then (.ok (), s)
      else match runFrom s (remove n) with
        | (.ok none, t) => (.ok (), t)
        | (.ok (some p), t) => runFrom t (removeEmptied fuel p)
        | (.error e, t) => (.error e, t) := by
  rw [removeEmptied, runFrom_root_bind]
  show runFrom s (forest >>= fun f => if s.root == some n || !f.isLeaf n then pure ()
    else remove n >>= fun above => match above with
      | none => pure ()
      | some p => removeEmptied fuel p) = _
  rw [runFrom_forest_bind]
  cases s.root == some n || !s.forest.isLeaf n with
  | true => rfl
  | false =>
      show runFrom s (remove n >>= _) = _
      rw [runFrom_bind]
      rcases runFrom s (remove n) with ⟨_ | _ | _, _⟩ <;> rfl

/-- Taking out emptied nodes comes to its end at the latest when no node has a parent any more. -/
theorem runFrom_removeEmptied_succ {fuel : Nat} (h : (parented s.forest).card ≤ fuel) :
    runFrom s (removeEmptied (fuel + 1) n) = runFrom s (removeEmptied fuel n) := by
  induction fuel generalizing s n with
  | zero =>
      rw [runFrom_removeEmptied]
      split
      · rfl
      · have hnone : s.forest.parent? n = none := by
          have hempty := Finset.card_eq_zero.mp (Nat.le_zero.mp h)
          rw [← Option.not_isSome_iff_eq_none, ← mem_parented, hempty]
          exact Finset.notMem_empty n
        rename_i hcond
        simp only [Bool.or_eq_true, not_or] at hcond
        rw [runFrom_remove, if_neg hcond.1, hnone]
        rfl
  | succ fuel ih =>
      rw [runFrom_removeEmptied, runFrom_removeEmptied]
      split
      · rfl
      · split
        · rfl
        · rename_i hrun
          have hless := card_parented_remove hrun
          exact ih (by omega)
        · rfl

theorem removeEmptied_agree (h : s.Pairs R s') (hn : R n n') :
    Agree R s s' (removeEmptied s.forest.size n) (removeEmptied s'.forest.size n')
      fun _ _ _ => True := by
  have hmore : ∀ (s : State) (n : NodeId) (k : Nat), runFrom s (removeEmptied s.forest.size n) =
      runFrom s (removeEmptied (s.forest.size + k) n) := by
    intro s n k
    induction k with
    | zero => rfl
    | succ k ih =>
        have hle := card_parented_le s.forest
        rw [ih, ← Nat.add_assoc, runFrom_removeEmptied_succ (by omega)]
  rw [Agree, hmore s n s'.forest.size, hmore s' n' s.forest.size, Nat.add_comm s'.forest.size]
  exact removeEmptied_agree_of_eq _ h hn

end Treebank.Surgery
