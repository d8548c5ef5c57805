import Mathlib.Data.List.Basic
import Treebank.Forest.Edit
import Treebank.Proofs.Forest.Shape

/-!
# Edits keep a forest well formed

A child is taken from its parent, and a topmost node is put under one that it does not cover. On a
well-formed forest, every edit made of such steps is carried out to its end and leaves a well-formed
forest behind.
-/

namespace Treebank.Forest

variable {f f' f'' : Forest} {a c n m p : Nat} {i : Nat} {cs ds l l' : List Nat} {q : Option Nat}
  {α β : Type}

/-! ## Taking away and putting under -/

/-- The forest with a child taken from its parent. -/
def unlink (f : Forest) (p c : Nat) : Forest :=
  (f.setChildren p ((f.children p).erase c)).setParent c none

/-- The forest with a node put among the children of another. -/
def link (f : Forest) (p c : Nat) (i : Nat) : Forest :=
  (f.setChildren p ((f.children p).insertIdx i c)).setParent c (some p)

@[simp]
theorem size_unlink (f : Forest) (p c : Nat) : (f.unlink p c).size = f.size := by
  simp [unlink]

@[simp]
theorem size_link (f : Forest) (p c : Nat) (i : Nat) : (f.link p c i).size = f.size := by
  simp [link]

theorem parent?_unlink (hc : c < f.size) (p m : Nat) :
    (f.unlink p c).parent? m = if m = c then none else f.parent? m := by
  rw [unlink, parent?_setParent (by simpa using hc), parent?_setChildren]

theorem children_unlink (hp : p < f.size) (c m : Nat) :
    (f.unlink p c).children m = if m = p then (f.children p).erase c else f.children m := by
  rw [unlink, children_setParent, children_setChildren hp]

theorem parent?_link (hc : c < f.size) (p : Nat) (i : Nat) (m : Nat) :
    (f.link p c i).parent? m = if m = c then some p else f.parent? m := by
  rw [link, parent?_setParent (by simpa using hc), parent?_setChildren]

theorem children_link (hp : p < f.size) (c : Nat) (i : Nat) (m : Nat) :
    (f.link p c i).children m =
      if m = p then (f.children p).insertIdx i c else f.children m := by
  rw [link, children_setParent, children_setChildren hp]

theorem Linked.unlink (h : f.Linked) (hp : f.parent? c = some p) : (f.unlink p c).Linked where
  count_children q d := by
    have hc := lt_size_of_parent? hp
    rw [children_unlink (h.parent_lt_size hp), parent?_unlink hc]
    by_cases hd : d = c
    · subst hd
      simp only [if_true, reduceCtorEq, if_false]
      split
      · rw [List.count_erase_self, h.count_children, if_pos hp]
      · rename_i hq
        rw [h.count_children, hp, if_neg (by simpa using Ne.symm hq)]
    · rw [if_neg hd]
      split
      · rename_i hq
        rw [List.count_erase_of_ne hd, h.count_children, hq]
      · exact h.count_children q d

theorem WellFormed.unlink (h : f.WellFormed) (hp : f.parent? c = some p) :
    (f.unlink p c).WellFormed where
  count_children := (h.linked.unlink hp).count_children
  grounded n := by
    have hc := lt_size_of_parent? hp
    induction h.grounded n with
    | @top n hn =>
        refine .top ?_
        rw [parent?_unlink hc, hn]
        split <;> rfl
    | @under n q hq _ ih =>
        by_cases hnc : n = c
        · exact .top (by rw [parent?_unlink hc, if_pos hnc])
        · exact .under (by rw [parent?_unlink hc, if_neg hnc, hq]) ih

theorem Linked.link (h : f.Linked) (hc : c < f.size) (hp : p < f.size) (htop : f.parent? c = none)
    (hi : i ≤ (f.children p).length) : (f.link p c i).Linked where
  count_children q d := by
    rw [children_link hp, parent?_link hc]
    have hold := h.count_children q d
    by_cases hd : d = c
    · subst hd
      rw [htop, if_neg (by simp)] at hold
      split
      · rename_i hq
        subst hq
        rw [if_pos rfl, if_pos rfl, (List.perm_insertIdx _ _ hi).count_eq, List.count_cons_self, hold]
      · rename_i hq
        rw [if_pos rfl, if_neg (by simpa using Ne.symm hq), hold]
    · rw [if_neg hd]
      split
      · rename_i hq
        subst hq
        rw [(List.perm_insertIdx _ _ hi).count_eq, List.count_cons_of_ne (Ne.symm hd), hold]
      · exact hold

theorem WellFormed.link (h : f.WellFormed) (hc : c < f.size) (hp : p < f.size)
    (htop : f.parent? c = none) (hcov : ¬f.Covers c p) (hi : i ≤ (f.children p).length) :
    (f.link p c i).WellFormed where
  count_children := (h.linked.link hc hp htop hi).count_children
  grounded n := by
    -- first the nodes that the new child does not cover, the new parent among them
    have hfree : ∀ n, f.Grounded n → ¬f.Covers c n → (f.link p c i).Grounded n := by
      intro n hn
      induction hn with
      | @top n hn =>
          intro hcn
          have hnc : n ≠ c := by
            rintro rfl
            exact hcn .self
          exact .top (by rw [parent?_link hc, if_neg hnc, hn])
      | @under n q hq _ ih =>
          intro hcn
          have hnc : n ≠ c := by
            rintro rfl
            exact hcn .self
          refine .under (p := q) ?_ (ih fun hcq => hcn (.under hq hcq))
          rw [parent?_link hc, if_neg hnc, hq]
    induction h.grounded n with
    | @top n hn =>
        by_cases hnc : n = c
        · exact .under (by rw [parent?_link hc, if_pos hnc]) (hfree p (h.grounded p) hcov)
        · exact .top (by rw [parent?_link hc, if_neg hnc, hn])
    | @under n q hq _ ih =>
        have hnc : n ≠ c := by
          rintro rfl
          simp [htop] at hq
        exact .under (by rw [parent?_link hc, if_neg hnc, hq]) ih

/-! ## Moved nodes -/

/-- The second forest is well formed and comes from the first one by moving nodes under another, or
to the top. -/
structure Moves (f f' : Forest) (cs : List Nat) (q : Option Nat) : Prop where
  wellFormed : f'.WellFormed
  size_eq : f'.size = f.size
  parent?_eq : ∀ m, f'.parent? m = if m ∈ cs then q else f.parent? m

theorem WellFormed.moves_unlink (h : f.WellFormed) (hp : f.parent? c = some p) :
    f.Moves (f.unlink p c) [c] none where
  wellFormed := h.unlink hp
  size_eq := size_unlink f p c
  parent?_eq m := by simp [parent?_unlink (lt_size_of_parent? hp)]

theorem WellFormed.moves_link (h : f.WellFormed) (hc : c < f.size) (hp : p < f.size)
    (htop : f.parent? c = none) (hcov : ¬f.Covers c p) (hi : i ≤ (f.children p).length) :
    f.Moves (f.link p c i) [c] (some p) where
  wellFormed := h.link hc hp htop hcov hi
  size_eq := size_link f p c i
  parent?_eq m := by simp [parent?_link hc]

theorem WellFormed.moves_nil (h : f.WellFormed) (q : Option Nat) : f.Moves f [] q where
  wellFormed := h
  size_eq := rfl
  parent?_eq m := by simp

theorem Moves.append (h : f.Moves f' cs q) (h' : f'.Moves f'' ds q) : f.Moves f'' (cs ++ ds) q where
  wellFormed := h'.wellFormed
  size_eq := h'.size_eq.trans h.size_eq
  parent?_eq m := by
    rw [h'.parent?_eq, h.parent?_eq]
    by_cases hm : m ∈ ds
    · simp [hm]
    · simp [hm]

/-- A node that is moved twice is where it was moved last. -/
theorem Moves.again {r : Option Nat} (h : f.Moves f' cs q) (h' : f'.Moves f'' cs r) :
    f.Moves f'' cs r where
  wellFormed := h'.wellFormed
  size_eq := h'.size_eq.trans h.size_eq
  parent?_eq m := by
    rw [h'.parent?_eq, h.parent?_eq]
    split <;> rfl

theorem Moves.parent?_of_mem (h : f.Moves f' cs q) (hm : m ∈ cs) : f'.parent? m = q := by
  rw [h.parent?_eq, if_pos hm]

theorem Moves.parent?_of_not_mem (h : f.Moves f' cs q) (hm : m ∉ cs) :
    f'.parent? m = f.parent? m := by
  rw [h.parent?_eq, if_neg hm]

theorem Moves.covers_iff (h : f.Moves f' cs q) (hn : ∀ c ∈ cs, ¬f.Covers c n) :
    f'.Covers a n ↔ f.Covers a n :=
  covers_congr (fun _ hm => h.parent?_of_not_mem hm) hn

/-- Moving nodes to the top adds nothing to what a node covers. -/
theorem Moves.covers (h : f.Moves f' cs none) (hcov : f'.Covers a n) : f.Covers a n := by
  refine hcov.of_parents fun m p hp => ?_
  rw [h.parent?_eq] at hp
  split at hp
  · cases hp
  · exact .under hp .self

/-! ## Children of one node -/

/-- The node has these children in the second forest. The other nodes have the children that they have
in the first one, and all nodes their labels. -/
structure Regroups (f f' : Forest) (p : NodeId) (l : List NodeId) : Prop where
  children_at : f'.children p = l
  children_ne : ∀ n, n ≠ p → f'.children n = f.children n
  label_eq : ∀ n, f'.label n = f.label n

theorem Regroups.refl (f : Forest) (p : NodeId) : f.Regroups f p (f.children p) where
  children_at := rfl
  children_ne _ _ := rfl
  label_eq _ := rfl

theorem Regroups.trans (h : f.Regroups f' p l) (h' : f'.Regroups f'' p l') :
    f.Regroups f'' p l' where
  children_at := h'.children_at
  children_ne n hn := (h'.children_ne n hn).trans (h.children_ne n hn)
  label_eq n := (h'.label_eq n).trans (h.label_eq n)

theorem regroups_unlink (hp : p < f.size) (c : NodeId) :
    f.Regroups (f.unlink p c) p ((f.children p).erase c) where
  children_at := by rw [children_unlink hp, if_pos rfl]
  children_ne n hn := by rw [children_unlink hp, if_neg hn]
  label_eq n := by simp [unlink]

theorem regroups_link (hp : p < f.size) (c : NodeId) (i : Nat) :
    f.Regroups (f.link p c i) p ((f.children p).insertIdx i c) where
  children_at := by rw [children_link hp, if_pos rfl]
  children_ne n hn := by rw [children_link hp, if_neg hn]
  label_eq n := by simp [link]

/-! ## Released nodes -/

theorem filter_not_mem_append (l cs ds : List Nat) :
    (l.filter (· ∉ cs)).filter (· ∉ ds) = l.filter (· ∉ cs ++ ds) := by
  rw [List.filter_filter]
  apply List.filter_congr
  intro d _
  by_cases hdc : d ∈ cs <;> simp [hdc]

theorem filter_not_mem_eq_self (h : ∀ c ∈ l, c ∉ cs) : l.filter (· ∉ cs) = l :=
  List.filter_eq_self.mpr fun c hc => decide_eq_true (h c hc)

/-- Only the parent of some nodes has them among its children. -/
theorem WellFormed.filter_children_of_ne (h : f.WellFormed) (hcs : ∀ c ∈ cs, f.parent? c = some p)
    (hn : n ≠ p) : (f.children n).filter (· ∉ cs) = f.children n := by
  refine filter_not_mem_eq_self fun c hc hmem => ?_
  rw [h.mem_children, hcs c hmem, Option.some.injEq] at hc
  exact hn hc.symm

/-- The second forest comes from the first one by taking nodes to the top. -/
structure Released (f f' : Forest) (cs : List NodeId) : Prop where
  moves : f.Moves f' cs none
  label_eq : ∀ n, f'.label n = f.label n
  children_eq : ∀ n, f'.children n = (f.children n).filter (· ∉ cs)

theorem WellFormed.released_nil (h : f.WellFormed) : f.Released f [] where
  moves := h.moves_nil none
  label_eq _ := rfl
  children_eq n := by simp

theorem WellFormed.released_unlink (h : f.WellFormed) (hp : f.parent? c = some p) :
    f.Released (f.unlink p c) [c] where
  moves := h.moves_unlink hp
  label_eq := (regroups_unlink (h.parent_lt_size hp) c).label_eq
  children_eq n := by
    rw [children_unlink (h.parent_lt_size hp)]
    split
    · rename_i hn
      rw [hn, (h.nodup_children p).erase_eq_filter]
      apply List.filter_congr
      intro d _
      by_cases hdc : d = c <;> simp [hdc]
    · rename_i hn
      exact (h.filter_children_of_ne (by simpa using hp) hn).symm

theorem Released.append (h : f.Released f' cs) (h' : f'.Released f'' ds) :
    f.Released f'' (cs ++ ds) where
  moves := h.moves.append h'.moves
  label_eq n := (h'.label_eq n).trans (h.label_eq n)
  children_eq n := by
    rw [h'.children_eq, h.children_eq, filter_not_mem_append]

/-! ## Transferred nodes -/

/-- The second forest comes from the first one by putting nodes after the children of another. -/
structure Transfers (f f' : Forest) (cs : List NodeId) (p : NodeId) : Prop where
  moves : f.Moves f' cs (some p)
  label_eq : ∀ n, f'.label n = f.label n
  children_at : f'.children p = f.children p ++ cs
  children_ne : ∀ n, n ≠ p → f'.children n = (f.children n).filter (· ∉ cs)

theorem WellFormed.transfers_nil (h : f.WellFormed) (p : NodeId) : f.Transfers f [] p where
  moves := h.moves_nil _
  label_eq _ := rfl
  children_at := (List.append_nil _).symm
  children_ne n _ := by simp

/-- A released node is put under another one. -/
theorem Released.transfers_link (h : f.Released f' [c]) (hp : p < f.size) (hc : c < f.size)
    (hcov : ¬f.Covers c p) (hmem : c ∉ f.children p) :
    f.Transfers (f'.link p c (f'.children p).length) [c] p := by
  have hsize := h.moves.size_eq
  have hin := h.moves.wellFormed.moves_link (hsize ▸ hc) (hsize ▸ hp)
    (h.moves.parent?_of_mem (List.mem_singleton_self c)) (fun hcov' => hcov (h.moves.covers hcov'))
    (Nat.le_refl _)
  have hgroup := regroups_link (hsize ▸ hp : p < f'.size) c (f'.children p).length
  refine ⟨h.moves.again hin, fun n => (hgroup.label_eq n).trans (h.label_eq n), ?_, fun n hn => ?_⟩
  · have hsame : (f.children p).filter (· ∉ [c]) = f.children p :=
      filter_not_mem_eq_self fun d hd hdc => hmem (List.mem_singleton.mp hdc ▸ hd)
    rw [hgroup.children_at, List.insertIdx_length_self, h.children_eq, hsame]
  · rw [hgroup.children_ne n hn, h.children_eq]

theorem Transfers.append (h : f.Transfers f' cs p) (h' : f'.Transfers f'' ds p) :
    f.Transfers f'' (cs ++ ds) p where
  moves := h.moves.append h'.moves
  label_eq n := (h'.label_eq n).trans (h.label_eq n)
  children_at := by rw [h'.children_at, h.children_at, List.append_assoc]
  children_ne n hn := by
    rw [h'.children_ne n hn, h.children_ne n hn, filter_not_mem_append]

/-! ## Edits that are carried out -/

/-- On this forest the edit is not refused, and its outcome is as told. -/
def Achieves (f : Forest) (x : Edit α) (Q : α → Forest → Prop) : Prop :=
  ∃ a f', runEdit f x = (.ok a, f') ∧ Q a f'

section
variable {Q : α → Forest → Prop} {R : β → Forest → Prop}

theorem achieves_pure {a : α} (h : Q a f) : Achieves f (pure a) Q := ⟨a, f, rfl, h⟩

theorem achieves_set {Q : PUnit → Forest → Prop} (h : Q ⟨⟩ f') : Achieves f (set f') Q :=
  ⟨⟨⟩, f', rfl, h⟩

theorem achieves_modify {Q : PUnit → Forest → Prop} {g : Forest → Forest} (h : Q ⟨⟩ (g f)) :
    Achieves f (modify g) Q := ⟨⟨⟩, g f, rfl, h⟩

theorem Achieves.bind {x : Edit α} {g : α → Edit β} (hx : Achieves f x Q)
    (hg : ∀ a f', Q a f' → Achieves f' (g a) R) : Achieves f (x >>= g) R := by
  obtain ⟨a, f', hrun, hQ⟩ := hx
  obtain ⟨b, f'', hrun', hR⟩ := hg a f' hQ
  refine ⟨b, f'', ?_, hR⟩
  simp only [runEdit, ExceptT.run_bind, StateT.run_bind] at hrun hrun' ⊢
  rw [hrun]
  exact hrun'

theorem Achieves.get_bind {g : Forest → Edit β} (h : Achieves f (g f) R) :
    Achieves f (get >>= g) R := by
  obtain ⟨b, f', hrun, hR⟩ := h
  exact ⟨b, f', hrun, hR⟩

theorem Achieves.mono {Q' : α → Forest → Prop} {x : Edit α} (h : Achieves f x Q)
    (hQ : ∀ a f', Q a f' → Q' a f') : Achieves f x Q' := by
  obtain ⟨a, f', hrun, ha⟩ := h
  exact ⟨a, f', hrun, hQ a f' ha⟩

end

theorem achieves_childIndex (h : f.WellFormed) (hp : f.parent? c = some p) :
    Achieves f (childIndex p c) fun i f' => f' = f ∧ i = (f.children p).idxOf c := by
  simp only [childIndex]
  refine Achieves.get_bind ?_
  cases hidx : (f.children p).idxOf? c with
  | none => exact absurd (h.mem_children.mpr hp) (List.idxOf?_eq_none_iff.mp hidx)
  | some i =>
      apply achieves_pure
      rw [List.idxOf_eq_getD_idxOf?, hidx]
      exact ⟨rfl, rfl⟩

theorem achieves_removeChild (h : f.WellFormed) (hp : f.parent? c = some p) :
    Achieves f (removeChild p c) fun i f' =>
      i = (f.children p).idxOf c ∧ f' = f.unlink p c := by
  simp only [removeChild]
  refine (achieves_childIndex h hp).bind ?_
  rintro i _ ⟨rfl, rfl⟩
  refine (achieves_modify (Q := fun _ f' => f' = _) rfl).bind ?_
  rintro _ _ rfl
  apply achieves_pure
  rw [unlink, ← List.erase_eq_eraseIdx_of_idxOf rfl]
  exact ⟨rfl, rfl⟩

theorem achieves_addChild {slot : Option Int} (htop : f.parent? c = none)
    (hlow : 0 ≤ slot.getD (f.children p).length)
    (hhigh : slot.getD (f.children p).length ≤ (f.children p).length) :
    Achieves f (addChild p c slot) fun _ f' =>
      f' = f.link p c (slot.getD (f.children p).length).toNat := by
  simp only [addChild]
  refine Achieves.get_bind ?_
  rw [if_neg (by simp [htop]), if_neg (by simp; omega)]
  exact achieves_set rfl

theorem achieves_detach (h : f.WellFormed) (hp : f.parent? n = some p) :
    Achieves f (detach n) fun _ f' => f' = f.unlink p n := by
  simp only [detach]
  refine Achieves.get_bind ?_
  simp only [hp, map_eq_pure_bind]
  refine (achieves_removeChild h hp).bind ?_
  rintro i _ ⟨_, rfl⟩
  exact achieves_pure rfl

/-! ## Several nodes at once -/

theorem take_insertIdx_append_drop (hi : i ≤ l.length) (c : Nat) (cs : List Nat) :
    (l.insertIdx i c).take (i + 1) ++ cs ++ (l.insertIdx i c).drop (i + 1) =
      l.take i ++ (c :: cs) ++ l.drop i := by
  induction l generalizing i with
  | nil =>
      have hzero : i = 0 := by simpa using hi
      subst hzero
      simp
  | cons d l ih =>
      cases i with
      | zero => simp
      | succ i =>
          have hle : i ≤ l.length := by simpa using hi
          simpa using ih hle

/-- Filling the slot of a member of a list, which has been taken out, puts the others in its place. -/
theorem take_erase_append_drop (hnodup : l.Nodup) (hn : n ∈ l) (others : List Nat) :
    (l.erase n).take (l.idxOf n) ++ others ++ (l.erase n).drop (l.idxOf n) =
      l.flatMap fun c => if c = n then others else [c] := by
  induction l with
  | nil => cases hn
  | cons d l ih =>
      obtain ⟨hd, hnodup⟩ := List.nodup_cons.mp hnodup
      by_cases hdn : d = n
      · subst hdn
        have hrest : l.flatMap (fun c => if c = d then others else [c]) = l.flatMap fun c => [c] := by
          apply List.flatMap_congr
          intro c hc
          rw [if_neg]
          rintro rfl
          exact hd hc
        rw [List.flatMap_cons, hrest, List.flatMap_singleton']
        simp
      · have hmem : n ∈ l := (List.mem_cons.mp hn).resolve_left (Ne.symm hdn)
        have hrest := ih hnodup hmem
        rw [List.flatMap_cons, ← hrest, if_neg hdn,
          List.erase_cons_tail (by simpa using hdn), List.idxOf_cons_ne l hdn]
        simp

theorem achieves_addChildren (cs : List Nat) (h : f.WellFormed) (hp : p < f.size)
    (hi : i ≤ (f.children p).length) (hnodup : cs.Nodup) (hsize : ∀ c ∈ cs, c < f.size)
    (htop : ∀ c ∈ cs, f.parent? c = none) (hcov : ∀ c ∈ cs, ¬f.Covers c p) :
    Achieves f (addChildren p i cs) fun _ f' => f.Moves f' cs (some p) ∧
      f.Regroups f' p ((f.children p).take i ++ cs ++ (f.children p).drop i) := by
  induction cs generalizing f i with
  | nil =>
      have hwhole := Regroups.refl f p
      rw [← List.take_append_drop i (f.children p)] at hwhole
      apply achieves_pure
      exact ⟨h.moves_nil _, by simpa using hwhole⟩
  | cons c cs ih =>
      obtain ⟨hc, hcs⟩ := List.nodup_cons.mp hnodup
      obtain ⟨hcsize, hcssize⟩ := List.forall_mem_cons.mp hsize
      obtain ⟨hctop, hcstop⟩ := List.forall_mem_cons.mp htop
      obtain ⟨hccov, hcscov⟩ := List.forall_mem_cons.mp hcov
      have hmoves := h.moves_link hcsize hp hctop hccov hi
      have hgroup := regroups_link hp c i
      have hlength : i + 1 ≤ ((f.link p c i).children p).length := by
        rw [hgroup.children_at, List.length_insertIdx_of_le_length hi]
        omega
      have hsize' : ∀ d ∈ cs, d < (f.link p c i).size := by simpa using hcssize
      have htop' : ∀ d ∈ cs, (f.link p c i).parent? d = none := by
        intro d hd
        have hdc : d ∉ [c] := fun hdc => hc (List.mem_singleton.mp hdc ▸ hd)
        rw [hmoves.parent?_of_not_mem hdc]
        exact hcstop d hd
      have hcov' : ∀ d ∈ cs, ¬(f.link p c i).Covers d p := by
        intro d hd
        rw [hmoves.covers_iff (by simpa using hccov)]
        exact hcscov d hd
      simp only [addChildren]
      refine (achieves_addChild hctop (by simp) (by simpa using hi)).bind ?_
      rintro _ _ rfl
      simp only [Option.getD_some, Int.toNat_natCast]
      have hrest := ih hmoves.wellFormed (by simpa using hp) hlength hcs hsize' htop' hcov'
      rw [hgroup.children_at, take_insertIdx_append_drop hi] at hrest
      exact hrest.mono fun _ _ hrest => ⟨hmoves.append hrest.1, hgroup.trans hrest.2⟩

/-- Topmost nodes take the slot of a node that has a parent, and its sisters stay where they are. -/
theorem achieves_replaceWith (others : List Nat) (h : f.WellFormed)
    (hp : f.parent? n = some p) (hnodup : others.Nodup) (hsize : ∀ c ∈ others, c < f.size)
    (htop : ∀ c ∈ others, f.parent? c = none) (hcov : ∀ c ∈ others, ¬f.Covers c p) :
    Achieves f (replaceWith n others) fun _ f'' =>
      (∃ f', f.Moves f' [n] none ∧ f'.Moves f'' others (some p)) ∧
      f.Regroups f'' p ((f.children p).flatMap fun c => if c = n then others else [c]) := by
  have hmem := h.mem_children.mpr hp
  have hpsize := h.parent_lt_size hp
  have hmoves := h.moves_unlink hp
  have hgroup := regroups_unlink hpsize n
  have hlength : (f.children p).idxOf n ≤ ((f.unlink p n).children p).length := by
    have hlt := List.idxOf_lt_length_of_mem hmem
    rw [hgroup.children_at, List.length_erase_of_mem hmem]
    omega
  have htop' : ∀ c ∈ others, (f.unlink p n).parent? c = none := by
    intro c hc
    rw [hmoves.parent?_eq, htop c hc]
    split <;> rfl
  have hcov' : ∀ c ∈ others, ¬(f.unlink p n).Covers c p :=
    fun c hc hcovers => hcov c hc (hmoves.covers hcovers)
  simp only [replaceWith]
  refine Achieves.get_bind ?_
  simp only [hp]
  refine (achieves_removeChild h hp).bind ?_
  rintro _ _ ⟨rfl, rfl⟩
  have hin := achieves_addChildren others hmoves.wellFormed (by simpa using hpsize)
    hlength hnodup (by simpa using hsize) htop' hcov'
  rw [hgroup.children_at, take_erase_append_drop (h.nodup_children p) hmem] at hin
  refine hin.bind ?_
  intro _ f'' hin
  exact achieves_pure ⟨⟨_, hmoves, hin.1⟩, hgroup.trans hin.2⟩

end Treebank.Forest
