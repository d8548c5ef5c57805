import Treebank.Proofs.Forest.Shape

/-!
# Planting a tree

Planting leaves the nodes of a forest as they are. The new nodes are numbered after them, parents
before their children, and stand only among one another.
-/

namespace Treebank.Forest

variable {f f' f'' : Forest} {a c n m p : Nat} {parent : Option Nat} {tops : List Nat}

theorem node_alloc (f : Forest) (label : String) (parent : Option Nat) (m : Nat) :
    (f.alloc label parent).2.node m = if m = f.size then ⟨label, parent, []⟩ else f.node m := by
  simp only [node, alloc, size, Array.getD_eq_getD_getElem?, Array.getElem?_push]
  split <;> rfl

@[simp]
theorem fst_alloc (f : Forest) (label : String) (parent : Option Nat) :
    (f.alloc label parent).1 = f.size := rfl

@[simp]
theorem size_alloc (f : Forest) (label : String) (parent : Option Nat) :
    (f.alloc label parent).2.size = f.size + 1 := Array.size_push ..

/-- The second forest is the first one with further nodes, of which some are under the given parent
and the others under new ones. -/
structure Adds (parent : Option Nat) (tops : List Nat) (f f' : Forest) : Prop where
  size_le : f.size ≤ f'.size
  node_eq : ∀ m < f.size, f'.node m = f.node m
  tops_nodup : tops.Nodup
  tops_new : ∀ n ∈ tops, f.size ≤ n ∧ n < f'.size
  parent?_top : ∀ n ∈ tops, f'.parent? n = parent
  parent?_new : ∀ n ∉ tops, f.size ≤ n → n < f'.size →
    ∃ p : Nat, f.size ≤ p ∧ p < n ∧ f'.parent? n = some p
  count_children : ∀ p : Nat, f.size ≤ p → ∀ c : Nat,
    (f'.children p).count c = if f.size ≤ c ∧ f'.parent? c = some p then 1 else 0

theorem Adds.parent?_old (h : Adds parent tops f f') (hm : m < f.size) :
    f'.parent? m = f.parent? m := by rw [parent?, parent?, h.node_eq m hm]

theorem Adds.children_old (h : Adds parent tops f f') (hm : m < f.size) :
    f'.children m = f.children m := by rw [children, children, h.node_eq m hm]

theorem adds_nil (parent : Option Nat) (f : Forest) : Adds parent [] f f where
  size_le := Nat.le_refl _
  node_eq _ _ := rfl
  tops_nodup := List.nodup_nil
  tops_new := nofun
  parent?_top := nofun
  parent?_new n _ hle hlt := absurd hlt (Nat.not_lt_of_le hle)
  count_children p hp c := by
    rw [children, node_eq_default hp]
    split
    · rename_i hc
      rw [parent?, node_eq_default hc.1] at hc
      exact absurd hc.2.symm (Option.some_ne_none p)
    · rfl

/-- Nodes added under a parent that is there already, and then further ones under it. -/
theorem Adds.append {tops' : List Nat} (h : Adds parent tops f f')
    (h' : Adds parent tops' f' f'') (hparent : ∀ q, parent = some q → q < f.size) :
    Adds parent (tops ++ tops') f f'' where
  size_le := Nat.le_trans h.size_le h'.size_le
  node_eq m hm := by rw [h'.node_eq m (Nat.lt_of_lt_of_le hm h.size_le), h.node_eq m hm]
  tops_nodup := by
    refine List.nodup_append.mpr ⟨h.tops_nodup, h'.tops_nodup, ?_⟩
    rintro n hn _ hn' rfl
    exact absurd (h.tops_new n hn).2 (Nat.not_lt_of_le (h'.tops_new n hn').1)
  tops_new n hn := by
    have hle := h.size_le
    have hle' := h'.size_le
    rcases List.mem_append.mp hn with hn | hn
    · have hnew := h.tops_new n hn
      omega
    · have hnew := h'.tops_new n hn
      omega
  parent?_top n hn := by
    rcases List.mem_append.mp hn with hn | hn
    · rw [h'.parent?_old (h.tops_new n hn).2, h.parent?_top n hn]
    · exact h'.parent?_top n hn
  parent?_new n hn hle hlt := by
    rw [List.mem_append, not_or] at hn
    by_cases hn' : n < f'.size
    · rw [h'.parent?_old hn']
      exact h.parent?_new n hn.1 hle hn'
    · obtain ⟨p, hp, hpn, heq⟩ := h'.parent?_new n hn.2 (Nat.le_of_not_lt hn') hlt
      exact ⟨p, Nat.le_trans h.size_le hp, hpn, heq⟩
  count_children p hp c := by
    by_cases hpnew : f'.size ≤ p
    · rw [h'.count_children p hpnew]
      by_cases hc : f'.size ≤ c
      · simp [hc, Nat.le_trans h.size_le hc]
      · -- an earlier node has no parent among the later ones
        have hother : ¬(f.size ≤ c ∧ f''.parent? c = some p) := by
          rintro ⟨hcnew, hcp⟩
          rw [h'.parent?_old (Nat.lt_of_not_le hc)] at hcp
          by_cases hctop : c ∈ tops
          · rw [h.parent?_top c hctop] at hcp
            have := hparent p hcp
            omega
          · obtain ⟨q, _, hqc, hq⟩ := h.parent?_new c hctop hcnew (Nat.lt_of_not_le hc)
            rw [hq, Option.some.injEq] at hcp
            omega
        rw [if_neg (by simp [hc]), if_neg hother]
    · rw [h'.children_old (Nat.lt_of_not_le hpnew), h.count_children p hp]
      by_cases hc : c < f'.size
      · rw [h'.parent?_old hc]
      · -- a later node has its parent among the later ones, or outside
        have hother : ¬f''.parent? c = some p := by
          intro hcp
          have hclt := lt_size_of_parent? hcp
          by_cases hctop : c ∈ tops'
          · rw [h'.parent?_top c hctop] at hcp
            have := hparent p hcp
            omega
          · obtain ⟨q, hqnew, _, hq⟩ := h'.parent?_new c hctop (Nat.le_of_not_lt hc) hclt
            rw [hq, Option.some.injEq] at hcp
            omega
        have hnone : f'.parent? c = none := by
          rw [Forest.parent?, node_eq_default (Nat.le_of_not_lt hc)]
          rfl
        simp [hother, hnone]

/-- A new node, then its children under it. -/
theorem Adds.node {label : String} {ids : List Nat}
    (h : Adds (some f.size) ids (f.alloc label parent).2 f')
    (hparent : ∀ q, parent = some q → q < f.size) :
    Adds parent [f.size] f (f'.setChildren f.size ids) := by
  have hsize : f.size < f'.size := by
    have := h.size_le
    rw [size_alloc] at this
    omega
  have hold : ∀ m, m ≤ f.size → f'.node m = (f.alloc label parent).2.node m :=
    fun m hm => h.node_eq m (by rw [size_alloc]; omega)
  have hroot : f'.parent? f.size = parent := by
    rw [parent?, hold f.size (Nat.le_refl _), node_alloc, if_pos rfl]
  refine ⟨by simpa using Nat.le_of_lt hsize, fun m hm => ?_, by simp, ?_, ?_, ?_, ?_⟩
  · have hne : m ≠ f.size := Nat.ne_of_lt hm
    rw [setChildren, node_adjust hsize, if_neg hne, hold m (Nat.le_of_lt hm), node_alloc,
      if_neg hne]
  · intro n hn
    rw [List.mem_singleton.mp hn, size_setChildren]
    exact ⟨Nat.le_refl _, hsize⟩
  · intro n hn
    rw [List.mem_singleton.mp hn, parent?_setChildren, hroot]
  · intro n hn hle hlt
    rw [size_setChildren] at hlt
    rw [List.mem_singleton] at hn
    rw [parent?_setChildren]
    by_cases hids : n ∈ ids
    · exact ⟨f.size, Nat.le_refl _, by omega, h.parent?_top n hids⟩
    · obtain ⟨p, hp, hpn, heq⟩ := h.parent?_new n hids (by rw [size_alloc]; omega) hlt
      rw [size_alloc] at hp
      exact ⟨p, by omega, hpn, heq⟩
  · intro p hp c
    rw [children_setChildren hsize, parent?_setChildren]
    split
    · rename_i hpn
      subst hpn
      rw [h.tops_nodup.count]
      by_cases hids : c ∈ ids
      · have hnew := (h.tops_new c hids).1
        rw [size_alloc] at hnew
        rw [if_pos hids, if_pos ⟨by omega, h.parent?_top c hids⟩]
      · rw [if_neg hids, if_neg]
        rintro ⟨hc, hcp⟩
        by_cases hcn : c = f.size
        · rw [hcn, hroot] at hcp
          exact absurd (hparent _ hcp) (Nat.lt_irrefl _)
        · obtain ⟨p, hpnew, _, hpc⟩ :=
            h.parent?_new c hids (by rw [size_alloc]; omega) (lt_size_of_parent? hcp)
          rw [hpc, Option.some.injEq] at hcp
          rw [size_alloc] at hpnew
          omega
    · rename_i hpn
      rw [h.count_children p (by rw [size_alloc]; omega), size_alloc]
      by_cases hcn : c = f.size
      · have hother : ¬f'.parent? c = some p := by
          rw [hcn, hroot]
          intro hcp
          have := hparent p hcp
          omega
        simp [hother]
      · have hiff : f.size + 1 ≤ c ↔ f.size ≤ c := by omega
        simp only [hiff]

mutual
theorem plantUnder_adds (parent : Option Nat) : (t : Tree) → (f : Forest) →
    (∀ q, parent = some q → q < f.size) →
    (plantUnder parent t f).1 = f.size ∧
      Adds parent [(plantUnder parent t f).1] f (plantUnder parent t f).2
  | .node l cs, f, hparent => by
      have hchildren := plantAllUnder_adds f.size cs (f.alloc l parent).2 (by simp)
      simp only [plantUnder]
      exact ⟨rfl, hchildren.node hparent⟩
theorem plantAllUnder_adds (parent : Nat) : (cs : List Tree) → (f : Forest) → parent < f.size →
    Adds (some parent) (plantAllUnder parent cs f).1 f (plantAllUnder parent cs f).2
  | [], f, _ => by
      simp only [plantAllUnder]
      exact adds_nil _ f
  | c :: cs, f, hparent => by
      have hin : ∀ q, some parent = some q → q < f.size := by
        rintro q hq
        cases hq
        exact hparent
      obtain ⟨_, hfirst⟩ := plantUnder_adds (some parent) c f hin
      have hothers := plantAllUnder_adds parent cs (plantUnder (some parent) c f).2
        (Nat.lt_of_lt_of_le hparent hfirst.size_le)
      simp only [plantAllUnder]
      exact hfirst.append hothers hin
end

/-! ## A further tree -/

theorem Linked.adds (h : f.Linked) (hadds : Adds none tops f f') : f'.Linked where
  count_children p c := by
    by_cases hp : f.size ≤ p
    · rw [hadds.count_children p hp]
      by_cases hc : f.size ≤ c
      · simp [hc]
      · have hother : ¬f'.parent? c = some p := by
          rw [hadds.parent?_old (Nat.lt_of_not_le hc)]
          intro hcp
          have := h.parent_lt_size hcp
          omega
        simp [hother]
    · rw [hadds.children_old (Nat.lt_of_not_le hp), h.count_children]
      by_cases hc : c < f.size
      · rw [hadds.parent?_old hc]
      · have hnone : f.parent? c = none := by
          rw [Forest.parent?, node_eq_default (Nat.le_of_not_lt hc)]
          rfl
        have hother : ¬f'.parent? c = some p := by
          intro hcp
          by_cases hctop : c ∈ tops
          · simp [hadds.parent?_top c hctop] at hcp
          · obtain ⟨q, hq, _, hcq⟩ :=
              hadds.parent?_new c hctop (Nat.le_of_not_lt hc) (lt_size_of_parent? hcp)
            rw [hcq, Option.some.injEq] at hcp
            omega
        rw [hnone, if_neg hother, if_neg (by simp)]

theorem WellFormed.adds (h : f.WellFormed) (hadds : Adds none tops f f') : f'.WellFormed where
  count_children := (h.linked.adds hadds).count_children
  grounded n := by
    -- first the earlier nodes, then the later ones, whose parents come before them
    have hold : ∀ n, f.Grounded n → n < f.size → f'.Grounded n := by
      intro n hn
      induction hn with
      | @top n hn => exact fun hlt => .top ((hadds.parent?_old hlt).trans hn)
      | @under n p hp _ ih =>
          exact fun hlt => .under ((hadds.parent?_old hlt).trans hp) (ih (h.parent_lt_size hp))
    induction n using Nat.strongRecOn with
    | ind n ih =>
        by_cases hn : n < f.size
        · exact hold n (h.grounded n) hn
        · cases hp : f'.parent? n with
          | none => exact .top hp
          | some p =>
              by_cases hntop : n ∈ tops
              · simp [hadds.parent?_top n hntop] at hp
              · obtain ⟨q, _, hqn, hq⟩ :=
                  hadds.parent?_new n hntop (Nat.le_of_not_lt hn) (lt_size_of_parent? hp)
                rw [hq, Option.some.injEq] at hp
                exact .under hq (ih q hqn)

/-- A new node does not cover an earlier one. -/
theorem Adds.lt_size_of_covers (h : Adds none tops f f') (hf : f.WellFormed)
    (hcov : f'.Covers a n) (hn : n < f.size) : a < f.size := by
  induction hcov with
  | self => exact hn
  | under hp _ ih =>
      rw [h.parent?_old hn] at hp
      exact ih (hf.parent_lt_size hp)

/-- An earlier node covers nothing of a tree added. -/
theorem Adds.not_covers {top : Nat} (h : Adds none [top] f f') (hf : f.WellFormed) (ha : a < f.size)
    (hn : f'.Covers top n) : ¬f'.Covers a n := by
  have hmem := List.mem_singleton_self top
  have hnew := (h.tops_new top hmem).1
  intro hcov
  rcases hcov.linear hn with hat | hta
  · exact absurd (hat.of_top (h.parent?_top top hmem) ▸ hnew) (Nat.not_le_of_lt ha)
  · exact absurd (h.lt_size_of_covers hf hta ha) (Nat.not_lt_of_le hnew)

theorem Adds.size_le_of_covers {top : Nat} (h : Adds none [top] f f') (hf : f.WellFormed)
    (hn : f'.Covers top n) : f.size ≤ n :=
  Nat.le_of_not_lt fun hlt => h.not_covers hf hlt hn .self

theorem plant_adds (f : Forest) (t : Tree) : (f.plant t).1 = f.size ∧
    Adds none [(f.plant t).1] f (f.plant t).2 :=
  plantUnder_adds none t f nofun

mutual
theorem size_plantUnder (parent : Option NodeId) : (t : Tree) → (f : Forest) →
    (plantUnder parent t f).2.size = f.size + t.size
  | .node l cs, f => by
      rw [plantUnder, size_setChildren, size_plantAllUnder, size_alloc, Tree.size, Nat.add_assoc]
theorem size_plantAllUnder (parent : NodeId) : (cs : List Tree) → (f : Forest) →
    (plantAllUnder parent cs f).2.size = f.size + Tree.sizes cs
  | [], f => rfl
  | c :: cs, f => by
      rw [plantAllUnder, size_plantAllUnder, size_plantUnder, Tree.sizes, Nat.add_assoc]
end

/-- The forest of a tree has the nodes of the tree. -/
theorem size_ofTree (t : Tree) : (ofTree t).2.size = t.size :=
  (size_plantUnder none t empty).trans (Nat.zero_add t.size)

theorem wellFormed_ofTree (t : Tree) : (ofTree t).2.WellFormed :=
  wellFormed_empty.adds (plant_adds empty t).2

/-! ## Steps down -/

theorem Linked.covers_follow? (h : f.Linked) (path : List Nat) (hm : f.follow? n path = some m) :
    f.Covers n m := by
  induction path generalizing n with
  | nil =>
      rw [follow?, Option.some.injEq] at hm
      exact hm ▸ .self
  | cons i path ih =>
      simp only [follow?, Option.bind_eq_some_iff] at hm
      obtain ⟨c, hc, hm⟩ := hm
      have hparent := h.mem_children.mp (List.mem_of_getElem? hc)
      exact .trans (.under hparent .self) (ih hm)

theorem WellFormed.covers_follow? (h : f.WellFormed) (path : List Nat)
    (hm : f.follow? n path = some m) : f.Covers n m := h.linked.covers_follow? path hm

/-- What an existing node covers exists. -/
theorem Covers.lt_size (h : f.Covers n m) (hn : n < f.size) : m < f.size := by
  cases h with
  | self => exact hn
  | under hp _ => exact lt_size_of_parent? hp

end Treebank.Forest
