import Mathlib.Combinatorics.Pigeonhole
import Mathlib.Data.Fintype.Basic
import Treebank.Proofs.Forest.Descent
import Treebank.Proofs.Forest.Pairing

/-!
# Ways through forests

A walk through the nodes of a forest is cut off after as many steps as there are nodes. Cut off or not,
it finds the same in two forests whose nodes correspond, however many further nodes they have: a way
up that is longer than the forest has nodes comes back to where it has been, and then goes on for ever.
-/

namespace Treebank.Forest

variable {f f' : Forest} {n n' p a : NodeId} {R : Pairing} {S : NodeId → Prop}

/-! ## Steps up -/

/-- The node so many steps above a node. -/
def up? (f : Forest) : Nat → NodeId → Option NodeId
  | 0, n => some n
  | k + 1, n => (f.parent? n).bind (f.up? k)

theorem up?_add (f : Forest) (j k : Nat) (n : NodeId) :
    f.up? (j + k) n = (f.up? j n).bind (f.up? k) := by
  induction j generalizing n with
  | zero => rw [Nat.zero_add, up?, Option.bind_some]
  | succ j ih =>
      rw [Nat.succ_add, up?, up?, Option.bind_assoc]
      exact congrArg _ (funext ih)

theorem up?_isSome_of_le {j k : Nat} (h : (f.up? k n).isSome) (hjk : j ≤ k) :
    (f.up? j n).isSome := by
  obtain ⟨i, rfl⟩ := Nat.exists_eq_add_of_le hjk
  rw [up?_add] at h
  exact Option.isSome_of_isSome_bind h

theorem mem_ancestorsUpTo_iff {fuel : Nat} :
    a ∈ f.ancestorsUpTo fuel n ↔ ∃ k < fuel, f.up? (k + 1) n = some a := by
  induction fuel generalizing n with
  | zero => simp [ancestorsUpTo]
  | succ fuel ih =>
      rw [ancestorsUpTo]
      cases hp : f.parent? n with
      | none => simp [up?, hp]
      | some p =>
          rw [List.mem_cons, ih]
          constructor
          · rintro (rfl | ⟨k, hk, hup⟩)
            · exact ⟨0, Nat.succ_pos _, by simp [up?, hp]⟩
            · exact ⟨k + 1, Nat.succ_lt_succ hk, by rw [up?, hp]; exact hup⟩
          · rintro ⟨k, hk, hup⟩
            rw [up?, hp, Option.bind_some] at hup
            cases k with
            | zero => exact Or.inl (Option.some.inj hup).symm
            | succ k => exact Or.inr ⟨k, Nat.lt_of_succ_lt_succ hk, hup⟩

theorem le_length_ancestorsUpTo_iff {fuel : Nat} :
    fuel ≤ (f.ancestorsUpTo fuel n).length ↔ (f.up? fuel n).isSome := by
  induction fuel generalizing n with
  | zero => simp [up?]
  | succ fuel ih =>
      rw [ancestorsUpTo, up?]
      cases hp : f.parent? n with
      | none => simp
      | some p => simpa using ih

/-- The nodes are nodes of the forest, and so are those above them. -/
def ClosedUp (f : Forest) (S : NodeId → Prop) : Prop :=
  ∀ n, S n → n < f.size ∧ ∀ p, f.parent? n = some p → S p

theorem ClosedUp.of_up? (hS : f.ClosedUp S) (hn : S n) {k : Nat} (h : f.up? k n = some a) : S a := by
  induction k generalizing n with
  | zero => exact Option.some.inj h ▸ hn
  | succ k ih =>
      obtain ⟨p, hp, hup⟩ := Option.bind_eq_some_iff.mp h
      exact ih ((hS n hn).2 p hp) hup

/-- A way up with as many steps as the forest has nodes comes to some node twice. -/
theorem ClosedUp.exists_repeat (hS : f.ClosedUp S) (hn : S n) (h : (f.up? f.size n).isSome) :
    ∃ i j, i < j ∧ j ≤ f.size ∧ f.up? i n = f.up? j n := by
  have hsome : ∀ i ≤ f.size, ∃ a, f.up? i n = some a ∧ a < f.size := by
    intro i hi
    obtain ⟨a, ha⟩ := Option.isSome_iff_exists.mp (up?_isSome_of_le h hi)
    exact ⟨a, ha, (hS a (hS.of_up? hn ha)).1⟩
  have hcard : (Finset.range f.size).card < (Finset.range (f.size + 1)).card := by simp
  obtain ⟨i, hi, j, hj, hne, heq⟩ := Finset.exists_ne_map_eq_of_card_lt_of_maps_to hcard
    (f := fun i => (f.up? i n).getD 0) (fun i hi => by
      obtain ⟨a, ha, hlt⟩ := hsome i (by simpa [Nat.lt_succ_iff] using hi)
      simpa [ha] using hlt)
  have hi' : i ≤ f.size := Nat.lt_succ_iff.mp (Finset.mem_range.mp hi)
  have hj' : j ≤ f.size := Nat.lt_succ_iff.mp (Finset.mem_range.mp hj)
  obtain ⟨a, ha, _⟩ := hsome i hi'
  obtain ⟨b, hb, _⟩ := hsome j hj'
  have hab : f.up? i n = f.up? j n := by
    simp only [ha, hb, Option.getD_some] at heq
    rw [ha, hb, heq]
  rcases Nat.lt_or_gt_of_ne hne with hlt | hlt
  · exact ⟨i, j, hlt, hj', hab⟩
  · exact ⟨j, i, hlt, hi', hab.symm⟩

/-- What comes after a repetition has come after the first time already. -/
theorem up?_eq_earlier {i j k : Nat} (h : f.up? i n = f.up? j n) (hij : i < j) (hjk : j ≤ k) :
    f.up? k n = f.up? (k - (j - i)) n := by
  obtain ⟨m, rfl⟩ := Nat.exists_eq_add_of_le hjk
  have hk : j + m - (j - i) = i + m := by omega
  rw [hk, up?_add, ← h, ← up?_add]

/-- A way up with as many steps as the forest has nodes goes on for ever. -/
theorem ClosedUp.up?_isSome (hS : f.ClosedUp S) (hn : S n) (h : (f.up? f.size n).isSome) (k : Nat) :
    (f.up? k n).isSome := by
  obtain ⟨i, j, hij, hj, hrepeat⟩ := hS.exists_repeat hn h
  induction k using Nat.strongRecOn with
  | ind k ih =>
      by_cases hjk : j ≤ k
      · rw [up?_eq_earlier hrepeat hij hjk]
        exact ih _ (by omega)
      · exact up?_isSome_of_le h (by omega)

/-- A node on the way up is met within as many steps as the forest has nodes. -/
theorem ClosedUp.exists_short (hS : f.ClosedUp S) (hn : S n) {k : Nat}
    (h : f.up? k n = some a) : ∃ j < f.size, f.up? j n = some a := by
  induction k using Nat.strongRecOn with
  | ind k ih =>
      by_cases hk : k < f.size
      · exact ⟨k, hk, h⟩
      · have hlong := up?_isSome_of_le (Option.isSome_of_eq_some h) (Nat.le_of_not_lt hk)
        obtain ⟨i, j, hij, hj, hrepeat⟩ := hS.exists_repeat hn hlong
        rw [up?_eq_earlier hrepeat hij (by omega)] at h
        exact ih _ (by omega) h

theorem ClosedUp.dominates_iff (hS : f.ClosedUp S) (hn : S n) :
    f.dominates a n = true ↔ ∃ k, f.up? (k + 1) n = some a := by
  rw [dominates, List.contains_iff_mem, ancestors, mem_ancestorsUpTo_iff]
  constructor
  · rintro ⟨k, _, hup⟩
    exact ⟨k, hup⟩
  · rintro ⟨k, hup⟩
    obtain ⟨p, hp, hup⟩ := Option.bind_eq_some_iff.mp hup
    obtain ⟨j, hj, hshort⟩ := hS.exists_short ((hS n hn).2 p hp) hup
    exact ⟨j, hj, by rw [up?, hp]; exact hshort⟩

theorem ClosedUp.endlessAbove_iff (hS : f.ClosedUp S) (hn : S n) :
    f.endlessAbove n = true ↔ ∀ k, (f.up? k n).isSome := by
  rw [endlessAbove, decide_eq_true_iff, ancestors, le_length_ancestorsUpTo_iff]
  exact ⟨hS.up?_isSome hn, fun h => h _⟩

/-! ## Ways down -/

/-- The nodes are nodes of the forest, and so are those below them. -/
def ClosedDown (f : Forest) (S : NodeId → Prop) : Prop :=
  ∀ n, S n → n < f.size ∧ ∀ c ∈ f.children n, S c

/-- No way down meets a node twice, so a tree that hangs from a node is no higher than the forest has
nodes. -/
theorem ClosedDown.height_le (hS : f.ClosedDown S) (hn : S n) {t : Tree} (h : f.Hangs n t) :
    t.height ≤ f.size := by
  have hspine : ∀ k (t : Tree) n, t.height ≤ k → S n → f.Hangs n t → ∃ l : List NodeId,
      l.length = t.height ∧ l.Nodup ∧ ∀ m ∈ l, m < f.size ∧ ∃ u, f.Hangs m u ∧ u.height ≤ t.height := by
    intro k
    induction k with
    | zero => exact fun t n ht => absurd ht (Nat.not_le_of_lt t.height_pos)
    | succ k ih =>
        rintro ⟨l, cs⟩ n ht hn h
        have hhangs := h
        simp only [Hangs, hangAll_iff] at h
        simp only [Tree.height] at ht ⊢
        by_cases hcs : cs = []
        · subst hcs
          refine ⟨[n], by simp [Tree.heights], List.nodup_singleton n, ?_⟩
          intro m hm
          rw [List.mem_singleton.mp hm]
          exact ⟨(hS n hn).1, _, hhangs, by simp [Tree.height]⟩
        · obtain ⟨u, hu, hheight⟩ := Tree.exists_height_eq_heights hcs
          obtain ⟨c, hc, hhc⟩ : ∃ c ∈ f.children n, f.Hangs c u := by
            obtain ⟨i, hi, rfl⟩ := List.getElem_of_mem hu
            obtain ⟨hlen, hget⟩ := List.forall₂_iff_get.mp h.2
            exact ⟨_, List.get_mem _ ⟨i, hlen ▸ hi⟩, hget i (hlen ▸ hi) hi⟩
          obtain ⟨l, hlen, hnodup, hl⟩ := ih u c (by omega) ((hS n hn).2 c hc) hhc
          refine ⟨n :: l, by simp only [List.length_cons, hlen]; omega, ?_, ?_⟩
          · refine List.nodup_cons.mpr ⟨fun hmem => ?_, hnodup⟩
            -- a node has one tree below it, which is higher than those further down
            obtain ⟨_, v, hv, hle⟩ := hl n hmem
            rw [hv.unique hhangs, Tree.height] at hle
            omega
          · refine List.forall_mem_cons.mpr ⟨⟨(hS n hn).1, _, hhangs, by simp [Tree.height]⟩, ?_⟩
            intro m hm
            obtain ⟨hlt, v, hv, hle⟩ := hl m hm
            exact ⟨hlt, v, hv, by omega⟩
  obtain ⟨l, hlen, hnodup, hl⟩ := hspine t.height t n (Nat.le_refl _) hn h
  have hsub : l ⊆ List.range f.size := fun m hm => List.mem_range.mpr (hl m hm).1
  have hle := hnodup.length_le_of_subset hsub
  rwa [hlen, List.length_range] at hle

theorem Hangs.tree_eq {t : Tree} (h : f.Hangs n t) (hle : t.height ≤ f.size) : f.tree n = t :=
  h.treeUpTo_eq (Nat.le_succ_of_le hle)

theorem hangs_tree (h : f.endlessBelow n = false) : f.Hangs n (f.tree n) := by
  rw [endlessBelow, decide_eq_false_iff_not, Nat.not_lt] at h
  exact hangs_treeUpTo h

/-- A walk down a tree that ends is the same when more steps are allowed. -/
theorem Hangs.preorderUpTo_add {t : Tree} (h : f.Hangs n t) {fuel : Nat}
    (hfuel : t.height ≤ fuel + 1) (k : Nat) :
    f.preorderUpTo (fuel + k) n = f.preorderUpTo fuel n := by
  induction fuel generalizing n t with
  | zero =>
      obtain ⟨l, cs⟩ := t
      simp only [Hangs, hangAll_iff] at h
      have hleaf : f.children n = [] := by
        cases cs with
        | nil => exact List.forall₂_nil_right_iff.mp h.2
        | cons c cs =>
            have := c.height_pos
            simp only [Tree.height, Tree.heights] at hfuel
            omega
      cases k with
      | zero => rfl
      | succ k => simp [preorderUpTo, hleaf]
  | succ fuel ih =>
      obtain ⟨l, cs⟩ := t
      simp only [Hangs, hangAll_iff] at h
      simp only [Tree.height] at hfuel
      obtain ⟨hlen, hget⟩ := List.forall₂_iff_get.mp h.2
      rw [Nat.succ_add, preorderUpTo, preorderUpTo]
      refine congrArg (n :: ·) (List.flatMap_congr fun c hc => ?_)
      obtain ⟨i, hi, rfl⟩ := List.getElem_of_mem hc
      have hle := Tree.height_le_heights (List.get_mem cs ⟨i, hlen ▸ hi⟩)
      exact ih (hget i hi (hlen ▸ hi)) (by omega)

theorem ClosedDown.endlessBelow_iff (hS : f.ClosedDown S) (hn : S n) :
    f.endlessBelow n = false ↔ ∃ t, f.Hangs n t := by
  constructor
  · exact fun h => ⟨_, hangs_tree h⟩
  · rintro ⟨t, ht⟩
    have hle := hS.height_le hn ht
    rw [endlessBelow, decide_eq_false_iff_not, Nat.not_lt, ht.tree_eq hle]
    exact hle

/-! ## Ways in forests whose nodes correspond -/

namespace Pairs

theorem closedUp_left (h : Pairs R f f') : f.ClosedUp fun a => ∃ b, R a b := by
  rintro n ⟨n', hn⟩
  refine ⟨h.lt_left hn, fun p hp => ?_⟩
  have hrel := h.parent_rel hn
  rw [hp] at hrel
  cases hp' : f'.parent? n' with
  | none => rw [hp'] at hrel; cases hrel
  | some q => rw [hp'] at hrel; cases hrel with | some hpq => exact ⟨q, hpq⟩

theorem closedDown_left (h : Pairs R f f') : f.ClosedDown fun a => ∃ b, R a b := by
  rintro n ⟨n', hn⟩
  refine ⟨h.lt_left hn, fun c hc => ?_⟩
  obtain ⟨i, hi, rfl⟩ := List.getElem_of_mem hc
  obtain ⟨hlen, hget⟩ := List.forall₂_iff_get.mp (h.children_rel hn)
  exact ⟨_, hget i hi (hlen ▸ hi)⟩

/-- The pairing read the other way round. -/
theorem symm (h : Pairs R f f') : Pairs (flip R) f' f where
  unique := ⟨fun _ _ _ hab hcb => h.unique.2 hab hcb, fun _ _ _ hab hac => h.unique.1 hab hac⟩
  lt_left ha := h.lt_right ha
  lt_right ha := h.lt_left ha
  alike {b a} hn := by
    obtain ⟨hlabel, hparent, hchildren⟩ := h.alike hn
    refine ⟨hlabel.symm, ?_, hchildren.flip⟩
    cases hp : (f.node a).parent <;> cases hp' : (f'.node b).parent <;> rw [hp, hp'] at hparent <;>
      cases hparent
    · exact .none
    · rename_i hpq
      exact .some hpq

theorem up?_rel (h : Pairs R f f') (hn : R n n') (k : Nat) :
    Option.Rel R (f.up? k n) (f'.up? k n') := by
  induction k generalizing n n' with
  | zero => exact .some hn
  | succ k ih =>
      have hrel := h.parent_rel hn
      rw [up?, up?]
      cases hp : f.parent? n <;> cases hp' : f'.parent? n' <;> rw [hp, hp'] at hrel <;> cases hrel
      · exact .none
      · rename_i hpq
        exact ih hpq

theorem dominates_eq {a' : NodeId} (h : Pairs R f f') (ha : R a a') (hn : R n n') :
    f.dominates a n = f'.dominates a' n' := by
  rw [Bool.eq_iff_iff, h.closedUp_left.dominates_iff ⟨n', hn⟩,
    h.symm.closedUp_left.dominates_iff ⟨n, hn⟩]
  exact exists_congr fun k => h.eq_some_iff (h.up?_rel hn (k + 1)) ha

theorem endlessAbove_eq (h : Pairs R f f') (hn : R n n') :
    f.endlessAbove n = f'.endlessAbove n' := by
  rw [Bool.eq_iff_iff, h.closedUp_left.endlessAbove_iff ⟨n', hn⟩,
    h.symm.closedUp_left.endlessAbove_iff ⟨n, hn⟩]
  exact forall_congr' fun k => by rw [Option.Rel.isSome_eq (h.up?_rel hn k)]

theorem hangs (h : Pairs R f f') (hn : R n n') {t : Tree} (ht : f.Hangs n t) : f'.Hangs n' t :=
  ht.transfer (fun _ _ hm => ⟨(h.label_eq hm).symm, h.children_rel hm⟩) hn

theorem endlessBelow_eq (h : Pairs R f f') (hn : R n n') :
    f.endlessBelow n = f'.endlessBelow n' := by
  rw [← Bool.not_inj_iff, Bool.eq_iff_iff, Bool.not_eq_true', Bool.not_eq_true',
    h.closedDown_left.endlessBelow_iff ⟨n', hn⟩, h.symm.closedDown_left.endlessBelow_iff ⟨n, hn⟩]
  exact exists_congr fun t => ⟨h.hangs hn, h.symm.hangs hn⟩

/-- Trees that end are read off alike. -/
theorem tree_eq (h : Pairs R f f') (hn : R n n') (hends : f.endlessBelow n = false) :
    f.tree n = f'.tree n' := by
  rw [(h.hangs hn (hangs_tree hends)).unique (hangs_tree (h.endlessBelow_eq hn ▸ hends))]

theorem follow?_rel (h : Pairs R f f') (hn : R n n') (path : List Nat) :
    Option.Rel R (f.follow? n path) (f'.follow? n' path) := by
  induction path generalizing n n' with
  | nil => exact .some hn
  | cons i path ih =>
      obtain ⟨hlen, hget⟩ := List.forall₂_iff_get.mp (h.children_rel hn)
      rw [follow?, follow?]
      by_cases hi : i < (f.children n).length
      · rw [List.getElem?_eq_getElem hi, List.getElem?_eq_getElem (hlen ▸ hi)]
        exact ih (hget i hi (hlen ▸ hi))
      · rw [List.getElem?_eq_none (Nat.le_of_not_lt hi),
          List.getElem?_eq_none (hlen ▸ Nat.le_of_not_lt hi)]
        exact .none

theorem preorderUpTo_rel (h : Pairs R f f') (hn : R n n') (fuel : Nat) :
    List.Forall₂ R (f.preorderUpTo fuel n) (f'.preorderUpTo fuel n') := by
  induction fuel generalizing n n' with
  | zero => exact .cons hn .nil
  | succ fuel ih =>
      exact .cons hn (List.rel_flatMap (h.children_rel hn) fun _ _ hc => ih hc)

/-- Walks down trees that end meet corresponding nodes. -/
theorem preorder_rel (h : Pairs R f f') (hn : R n n') (hends : f.endlessBelow n = false) :
    List.Forall₂ R (f.preorder n) (f'.preorder n') := by
  have ht := hangs_tree hends
  have hle := h.closedDown_left.height_le ⟨n', hn⟩ ht
  have hle' := h.symm.closedDown_left.height_le ⟨n, hn⟩ (h.hangs hn ht)
  rw [preorder, preorder, ← ht.preorderUpTo_add (Nat.le_succ_of_le hle) f'.size,
    ← (h.hangs hn ht).preorderUpTo_add (Nat.le_succ_of_le hle') f.size, Nat.add_comm f'.size]
  exact h.preorderUpTo_rel hn _

end Pairs

end Treebank.Forest
