import Mathlib.Data.List.Forall2
import Treebank.Proofs.Forest.Planting

/-!
# What hangs from a node

A tree hangs from a node if it is found from the node downwards, to the last leaf. At most one tree
hangs from a node, and none if some way down goes on for ever.
-/

namespace Treebank

/-! ## Heights -/

theorem Tree.height_pos (t : Tree) : 0 < t.height := by
  cases t with
  | node l cs =>
      simp only [height]
      omega

theorem Tree.height_le_heights {t : Tree} {ts : List Tree} (h : t ∈ ts) :
    t.height ≤ Tree.heights ts := by
  induction ts with
  | nil => simp at h
  | cons u ts ih =>
      simp only [heights]
      rcases List.mem_cons.mp h with rfl | h
      · exact Nat.le_max_left ..
      · exact Nat.le_trans (ih h) (Nat.le_max_right ..)

theorem Tree.exists_height_eq_heights {ts : List Tree} (h : ts ≠ []) :
    ∃ t ∈ ts, t.height = Tree.heights ts := by
  induction ts with
  | nil => exact absurd rfl h
  | cons u ts ih =>
      simp only [heights]
      cases ts with
      | nil => exact ⟨u, List.mem_cons_self, by simp [heights]⟩
      | cons v vs =>
          obtain ⟨t, ht, heq⟩ := ih (List.cons_ne_nil v vs)
          rcases Nat.le_total u.height (Tree.heights (v :: vs)) with hle | hle
          · exact ⟨t, List.mem_cons_of_mem u ht, by rw [heq, Nat.max_eq_right hle]⟩
          · exact ⟨u, List.mem_cons_self, by rw [Nat.max_eq_left hle]⟩

namespace Forest

variable {f f' : Forest} {n m : Nat} {t u : Tree} {ns : List Nat} {ts : List Tree}

mutual
/-- The tree is found from the node downwards. -/
def Hangs (f : Forest) : Nat → Tree → Prop
  | n, .node l cs => f.label n = l ∧ HangAll f (f.children n) cs
def HangAll (f : Forest) : List Nat → List Tree → Prop
  | [], [] => True
  | n :: ns, t :: ts => Hangs f n t ∧ HangAll f ns ts
  | [], _ :: _ => False
  | _ :: _, [] => False
end

theorem hangAll_iff : f.HangAll ns ts ↔ List.Forall₂ f.Hangs ns ts := by
  induction ts generalizing ns with
  | nil => cases ns <;> simp [HangAll]
  | cons t ts ih => cases ns <;> simp [HangAll, ih]

theorem hangs_iff : f.Hangs n t ↔ f.label n = t.label ∧
    List.Forall₂ f.Hangs (f.children n) t.children := by
  cases t with
  | node l cs =>
      rw [Hangs, hangAll_iff]
      rfl

/-! ## Reading the tree off -/

mutual
theorem Hangs.treeUpTo_eq : {n : Nat} → {t : Tree} → {fuel : Nat} → f.Hangs n t →
    t.height ≤ fuel + 1 → f.treeUpTo fuel n = t
  | n, .node l [], fuel, h, _ => by
      simp only [Hangs] at h
      obtain ⟨hlabel, hchildren⟩ := h
      cases hc : f.children n with
      | nil => cases fuel <;> simp [treeUpTo, hlabel, hc]
      | cons c cs =>
          rw [hc, HangAll] at hchildren
          exact hchildren.elim
  | n, .node l (c :: cs), 0, _, hfuel => by
      have := c.height_pos
      simp only [Tree.height, Tree.heights] at hfuel
      omega
  | n, .node l (c :: cs), fuel + 1, h, hfuel => by
      simp only [Hangs] at h
      simp only [Tree.height] at hfuel
      rw [treeUpTo, h.1, HangAll.map_treeUpTo_eq h.2 (by omega)]
theorem HangAll.map_treeUpTo_eq : {ns : List Nat} → {ts : List Tree} → {fuel : Nat} →
    f.HangAll ns ts → Tree.heights ts ≤ fuel + 1 → ns.map (f.treeUpTo fuel) = ts
  | [], [], _, _, _ => rfl
  | n :: ns, t :: ts, fuel, h, hfuel => by
      simp only [HangAll] at h
      simp only [Tree.heights] at hfuel
      rw [List.map_cons, Hangs.treeUpTo_eq h.1 (by omega),
        HangAll.map_treeUpTo_eq h.2 (by omega)]
  | [], _ :: _, _, h, _ => by
      rw [HangAll] at h
      exact h.elim
  | _ :: _, [], _, h, _ => by
      rw [HangAll] at h
      exact h.elim
end

/-- What is not cut short hangs from the node. -/
theorem hangs_treeUpTo {fuel : Nat} (h : (f.treeUpTo fuel n).height ≤ fuel) :
    f.Hangs n (f.treeUpTo fuel n) := by
  induction fuel generalizing n with
  | zero => exact absurd h (Nat.not_le_of_lt (Tree.height_pos _))
  | succ fuel ih =>
      simp only [treeUpTo, Tree.height] at h
      simp only [treeUpTo, Hangs, hangAll_iff, true_and]
      rw [List.forall₂_map_right_iff, List.forall₂_same]
      intro c hc
      have hle := Tree.height_le_heights (List.mem_map_of_mem (f := f.treeUpTo fuel) hc)
      exact ih (by omega)

theorem Hangs.unique (ht : f.Hangs n t) (hu : f.Hangs n u) : t = u := by
  have hlarge : f.treeUpTo (t.height + u.height) n = t := ht.treeUpTo_eq (by omega)
  rw [← hlarge, hu.treeUpTo_eq (by omega)]

/-- Labels and children that correspond to those of the nodes of a tree make up the same tree. -/
theorem Hangs.transfer {R : Nat → Nat → Prop}
    (hR : ∀ n n', R n n' → f'.label n' = f.label n ∧ List.Forall₂ R (f.children n) (f'.children n'))
    {n' : Nat} (h : f.Hangs n t) (hn : R n n') : f'.Hangs n' t := by
  have hboth : ∀ (k : Nat) (t : Tree), t.height ≤ k → ∀ n n', f.Hangs n t → R n n' →
      f'.Hangs n' t := by
    intro k
    induction k with
    | zero => exact fun t ht => absurd ht (Nat.not_le_of_lt t.height_pos)
    | succ k ih =>
        intro t ht n n' h hn
        cases t with
        | node l cs =>
            simp only [Tree.height] at ht
            simp only [Hangs, hangAll_iff] at h ⊢
            obtain ⟨hlabel, hchildren⟩ := hR n n' hn
            refine ⟨hlabel.trans h.1, List.forall₂_iff_get.mpr ?_⟩
            obtain ⟨hlen, hget⟩ := List.forall₂_iff_get.mp h.2
            obtain ⟨hlen', hget'⟩ := List.forall₂_iff_get.mp hchildren
            refine ⟨hlen'.symm.trans hlen, fun i hi hi' => ?_⟩
            have hle := Tree.height_le_heights (cs.get_mem ⟨i, hi'⟩)
            exact ih _ (by omega) _ _ (hget i (hlen ▸ hi') hi') (hget' i (hlen ▸ hi') hi)
  exact hboth t.height t (Nat.le_refl _) n n' h hn

/-- Where no way down leads out of some nodes, what hangs from them depends on them only. -/
theorem Hangs.congr {S : Nat → Prop} (hclosed : ∀ p, S p → ∀ c ∈ f.children p, S c)
    (hsame : ∀ p, S p → f'.node p = f.node p) (h : f.Hangs n t) (hn : S n) : f'.Hangs n t := by
  refine h.transfer (R := fun n n' => n = n' ∧ S n) ?_ ⟨rfl, hn⟩
  rintro n _ ⟨rfl, hn⟩
  rw [label, label, children, children, hsame n hn]
  exact ⟨rfl, List.forall₂_same.mpr fun c hc => ⟨rfl, hclosed n hn c hc⟩⟩

theorem HangAll.congr {S : Nat → Prop} (h : f.HangAll ns ts)
    (hclosed : ∀ p, S p → ∀ c ∈ f.children p, S c) (hsame : ∀ p, S p → f'.node p = f.node p)
    (hns : ∀ n ∈ ns, S n) : f'.HangAll ns ts := by
  rw [hangAll_iff, List.forall₂_iff_get] at h ⊢
  exact ⟨h.1, fun i hi hi' => (h.2 i hi hi').congr hclosed hsame (hns _ (List.get_mem ..))⟩

/-! ## Steps down -/

theorem Hangs.follow?_rel (h : f.Hangs n t) (path : List Nat) :
    Option.Rel f.Hangs (f.follow? n path) (t.get? path) := by
  induction path generalizing n t with
  | nil =>
      cases t with
      | node l cs => exact .some h
  | cons i path ih =>
      obtain ⟨hlen, hget⟩ := List.forall₂_iff_get.mp (hangs_iff.mp h).2
      rw [follow?, Tree.get?]
      by_cases hi : i < t.children.length
      · rw [List.getElem?_eq_getElem hi, List.getElem?_eq_getElem (hlen ▸ hi)]
        exact ih (hget i (hlen ▸ hi) hi)
      · rw [List.getElem?_eq_none (Nat.le_of_not_lt hi),
          List.getElem?_eq_none (hlen ▸ Nat.le_of_not_lt hi)]
        exact .none

/-- The steps that can be taken down a tree can be taken from the node that it hangs from. -/
theorem Hangs.exists_follow? (h : f.Hangs n t) {path : List Nat} (hpath : t.get? path = some u) :
    ∃ m, f.follow? n path = some m ∧ f.Hangs m u := by
  have hrel := h.follow?_rel path
  rw [hpath] at hrel
  cases hm : f.follow? n path with
  | none =>
      rw [hm] at hrel
      cases hrel
  | some m =>
      rw [hm] at hrel
      cases hrel with
      | some hangs => exact ⟨m, rfl, hangs⟩

/-! ## Planted trees -/

/-- The children of a new node are new ones. -/
theorem Adds.closed {parent : Option Nat} {tops : List Nat} (h : Adds parent tops f f') {p c : Nat}
    (hp : f.size ≤ p) (hc : c ∈ f'.children p) : f.size ≤ c ∧ c < f'.size := by
  have hpos := List.count_pos_iff.mpr hc
  rw [h.count_children p hp] at hpos
  split at hpos
  · rename_i hcond
    exact ⟨hcond.1, lt_size_of_parent? hcond.2⟩
  · exact absurd hpos (Nat.lt_irrefl 0)

/-- What hangs from a new node goes on to do so when further nodes are added. -/
theorem Hangs.adds {parent parent' : Option Nat} {tops tops' : List Nat} {f'' : Forest}
    (h : f'.Hangs n t) (hnew : Adds parent tops f f') (hn : f.size ≤ n) (hlt : n < f'.size)
    (hadds : Adds parent' tops' f' f'') : f''.Hangs n t :=
  h.congr (S := fun p => f.size ≤ p ∧ p < f'.size) (fun _ hp _ hc => hnew.closed hp.1 hc)
    (fun _ hp => hadds.node_eq _ hp.2) ⟨hn, hlt⟩

mutual
theorem hangs_plantUnder (parent : Option Nat) : (t : Tree) → (f : Forest) →
    (∀ q, parent = some q → q < f.size) →
    (plantUnder parent t f).2.Hangs (plantUnder parent t f).1 t
  | .node l cs, f, _ => by
      have hadds := plantAllUnder_adds f.size cs (f.alloc l parent).2 (by simp)
      have hbelow := hangAll_plantAllUnder f.size cs (f.alloc l parent).2 (by simp)
      have hsize := hadds.size_le
      rw [size_alloc] at hsize
      simp only [plantUnder, Hangs, fst_alloc, label_setChildren]
      constructor
      · rw [label, hadds.node_eq f.size (by simp), node_alloc, if_pos rfl]
      · rw [children_setChildren hsize, if_pos rfl]
        -- the top of the tree is none of the nodes below it
        refine hbelow.congr (S := fun p => f.size + 1 ≤ p) (fun p hp c hc => ?_) (fun p hp => ?_) ?_
        · have hnew := (hadds.closed (by simpa using hp) hc).1
          simpa using hnew
        · rw [setChildren, node_adjust hsize, if_neg (Nat.ne_of_gt hp)]
        · intro n hn
          simpa using (hadds.tops_new n hn).1
theorem hangAll_plantAllUnder (parent : Nat) : (ts : List Tree) → (f : Forest) → parent < f.size →
    (plantAllUnder parent ts f).2.HangAll (plantAllUnder parent ts f).1 ts
  | [], f, _ => by simp only [plantAllUnder, HangAll]
  | t :: ts, f, hparent => by
      have hin : ∀ q, some parent = some q → q < f.size := fun q hq => Option.some.inj hq ▸ hparent
      obtain ⟨_, hfirst⟩ := plantUnder_adds (some parent) t f hin
      have hlater : parent < (plantUnder (some parent) t f).2.size :=
        Nat.lt_of_lt_of_le hparent hfirst.size_le
      obtain ⟨hnew, hlt⟩ := hfirst.tops_new _ (List.mem_singleton_self _)
      have hhangs := hangs_plantUnder (some parent) t f hin
      simp only [plantAllUnder, HangAll]
      exact ⟨hhangs.adds hfirst hnew hlt (plantAllUnder_adds parent ts _ hlater),
        hangAll_plantAllUnder parent ts _ hlater⟩
end

theorem hangs_plant (f : Forest) (t : Tree) : (f.plant t).2.Hangs (f.plant t).1 t :=
  hangs_plantUnder none t f nofun

end Forest

end Treebank
