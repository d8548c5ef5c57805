import Treebank.Proofs.Forest.Ancestors
import Treebank.Proofs.Forest.Ways

/-!
# Trees that stand by themselves

A tree stands at a node if it hangs from it, and the nodes found on the way down have no other parents
than those they are found under. The nodes of a tree are then told apart by their addresses, and two
such trees of one structure correspond address by address.
-/

namespace Treebank.Forest

variable {f f' g : Forest} {top top' n c i : NodeId} {t u : Tree} {path path' : List Nat}

/-- The node is reached from the top. -/
def Reaches (f : Forest) (top n : NodeId) : Prop := ∃ path, f.follow? top path = some n

/-- The tree hangs from the topmost node, with proper parents throughout. -/
structure TreeAt (f : Forest) (top : NodeId) (t : Tree) : Prop where
  hangs : f.Hangs top t
  lt_size : top < f.size
  parent_top : f.parent? top = none
  nodup : ∀ n, f.Reaches top n → (f.children n).Nodup
  parent_child : ∀ n, f.Reaches top n → ∀ c ∈ f.children n, f.parent? c = some n

/-- In a linked forest a tree stands at every node without parent. -/
theorem Linked.treeAt (h : f.Linked) (hlt : top < f.size) (htop : f.parent? top = none) :
    f.TreeAt top (f.tree top) where
  hangs := hangs_tree (h.not_endlessBelow (.top htop) hlt)
  lt_size := hlt
  parent_top := htop
  nodup n _ := h.nodup_children n
  parent_child _ _ _ hc := h.mem_children.mp hc

theorem follow?_append (f : Forest) (n : NodeId) (path rest : List Nat) :
    f.follow? n (path ++ rest) = (f.follow? n path).bind (f.follow? · rest) := by
  induction path generalizing n with
  | nil => rfl
  | cons i path ih =>
      rw [List.cons_append, follow?, follow?, Option.bind_assoc]
      exact congrArg _ (funext fun m => ih m)

theorem follow?_concat (f : Forest) (n : NodeId) (path : List Nat) (i : Nat) :
    f.follow? n (path ++ [i]) = (f.follow? n path).bind fun m => (f.children m)[i]? := by
  rw [follow?_append]
  refine congrArg _ (funext fun m => ?_)
  rw [follow?]
  cases (f.children m)[i]? <;> rfl

theorem Reaches.self (f : Forest) (top : NodeId) : f.Reaches top top := ⟨[], rfl⟩

theorem Reaches.child (h : f.Reaches top n) (hc : c ∈ f.children n) : f.Reaches top c := by
  obtain ⟨path, hpath⟩ := h
  obtain ⟨i, hi⟩ := List.getElem?_of_mem hc
  exact ⟨path ++ [i], by rw [follow?_concat, hpath]; exact hi⟩

/-- What holds of the top and of the children of every node that it holds of holds of all nodes
reached. -/
theorem Reaches.of_closed {S : NodeId → Prop} (h : f.Reaches top n) (htop : S top)
    (hclosed : ∀ p, S p → ∀ c ∈ f.children p, S c) : S n := by
  obtain ⟨path, hpath⟩ := h
  induction path generalizing top with
  | nil => exact Option.some.inj hpath ▸ htop
  | cons i path ih =>
      obtain ⟨c, hc, hpath⟩ := Option.bind_eq_some_iff.mp hpath
      exact ih (hclosed top htop c (List.mem_of_getElem? hc)) hpath

namespace TreeAt

/-- A node reached by some steps has been reached from its parent, at the end of the other steps. -/
theorem parent_eq (h : f.TreeAt top t) (hn : f.follow? top (path ++ [i]) = some n) :
    ∃ p, f.follow? top path = some p ∧ (f.children p)[i]? = some n ∧ f.parent? n = some p := by
  rw [follow?_concat] at hn
  obtain ⟨p, hp, hn⟩ := Option.bind_eq_some_iff.mp hn
  exact ⟨p, hp, hn, h.parent_child p ⟨path, hp⟩ n (List.mem_of_getElem? hn)⟩

theorem lt_size_of_reaches (h : f.TreeAt top t) (hn : f.Reaches top n) : n < f.size := by
  obtain ⟨path, hpath⟩ := hn
  rcases List.eq_nil_or_concat path with rfl | ⟨path, i, rfl⟩
  · cases hpath
    exact h.lt_size
  · rw [List.concat_eq_append] at hpath
    obtain ⟨_, _, _, hp⟩ := h.parent_eq hpath
    exact lt_size_of_parent? hp

theorem closedDown (h : f.TreeAt top t) : f.ClosedDown (f.Reaches top) :=
  fun _ hn => ⟨h.lt_size_of_reaches hn, fun _ hc => hn.child hc⟩

theorem tree_eq (h : f.TreeAt top t) : f.tree top = t :=
  h.hangs.tree_eq (h.closedDown.height_le (.self f top) h.hangs)

theorem not_endlessBelow (h : f.TreeAt top t) : f.endlessBelow top = false :=
  (h.closedDown.endlessBelow_iff (.self f top)).mpr ⟨t, h.hangs⟩

/-- A node has one address. -/
theorem address_unique (h : f.TreeAt top t) (hn : f.follow? top path = some n)
    (hn' : f.follow? top path' = some n) : path = path' := by
  have hatTop : ∀ (path : List Nat) (i : Nat), f.follow? top (path ++ [i]) ≠ some top := by
    intro path i hpath
    obtain ⟨_, _, _, hp⟩ := h.parent_eq hpath
    rw [h.parent_top] at hp
    cases hp
  induction path using List.reverseRecOn generalizing n path' with
  | nil =>
      cases hn
      rcases List.eq_nil_or_concat path' with rfl | ⟨path', j, rfl⟩
      · rfl
      · exact absurd hn' (List.concat_eq_append ▸ hatTop path' j)
  | append_singleton path i ih =>
      rcases List.eq_nil_or_concat path' with rfl | ⟨path', j, rfl⟩
      · cases hn'
        exact absurd hn (hatTop path i)
      · rw [List.concat_eq_append] at hn' ⊢
        obtain ⟨p, hpath, hi, hp⟩ := h.parent_eq hn
        obtain ⟨p', hpath', hj, hp'⟩ := h.parent_eq hn'
        rw [hp] at hp'
        cases hp'
        obtain ⟨hilt, hi⟩ := List.getElem?_eq_some_iff.mp hi
        obtain ⟨hjlt, hj⟩ := List.getElem?_eq_some_iff.mp hj
        have hij : i = j := ((h.nodup p ⟨path, hpath⟩).getElem_inj_iff).mp (hi.trans hj.symm)
        rw [ih hpath hpath', hij]

/-- Trees that stand at different nodes have no node in common. -/
theorem disjoint (h : f.TreeAt top t) (h' : f.TreeAt top' u) (hne : top ≠ top')
    (hn : f.Reaches top n) : ¬f.Reaches top' n := by
  obtain ⟨path, hpath⟩ := hn
  rintro ⟨path', hpath'⟩
  induction path using List.reverseRecOn generalizing n path' with
  | nil =>
      cases hpath
      rcases List.eq_nil_or_concat path' with rfl | ⟨path', j, rfl⟩
      · cases hpath'
        exact hne rfl
      · rw [List.concat_eq_append] at hpath'
        obtain ⟨_, _, _, hp⟩ := h'.parent_eq hpath'
        rw [h.parent_top] at hp
        cases hp
  | append_singleton path i ih =>
      obtain ⟨p, hpath, _, hp⟩ := h.parent_eq hpath
      rcases List.eq_nil_or_concat path' with rfl | ⟨path', j, rfl⟩
      · cases hpath'
        rw [h'.parent_top] at hp
        cases hp
      · rw [List.concat_eq_append] at hpath'
        obtain ⟨p', hpath', _, hp'⟩ := h'.parent_eq hpath'
        rw [hp] at hp'
        cases hp'
        exact ih hpath path' hpath'

/-- A tree goes on standing where none of its nodes is changed. -/
theorem congr (h : f.TreeAt top t) (hsize : f.size ≤ g.size)
    (hkept : ∀ n, f.Reaches top n → g.node n = f.node n) : g.TreeAt top t := by
  have hfollow : ∀ path, g.follow? top path = f.follow? top path := by
    intro path
    induction path using List.reverseRecOn with
    | nil => rfl
    | append_singleton path i ih =>
        rw [follow?_concat, follow?_concat, ih]
        cases hp : f.follow? top path with
        | none => rfl
        | some p => rw [Option.bind_some, Option.bind_some, children, children, hkept p ⟨path, hp⟩]
  have hreaches : ∀ n, g.Reaches top n → f.Reaches top n := by
    rintro n ⟨path, hpath⟩
    exact ⟨path, hfollow path ▸ hpath⟩
  refine ⟨h.hangs.congr (fun _ hp _ hc => hp.child hc) hkept (.self f top),
    Nat.lt_of_lt_of_le h.lt_size hsize, ?_, fun n hn => ?_, fun n hn c hc => ?_⟩
  · rw [parent?, hkept top (.self f top)]
    exact h.parent_top
  · rw [children, hkept n (hreaches n hn)]
    exact h.nodup n (hreaches n hn)
  · have hn := hreaches n hn
    rw [children, hkept n hn] at hc
    rw [parent?, hkept c (hn.child hc)]
    exact h.parent_child n hn c hc

theorem adds {parent : Option NodeId} {tops : List NodeId} (h : f.TreeAt top t)
    (hadds : Adds parent tops f g) : g.TreeAt top t :=
  h.congr hadds.size_le fun n hn => hadds.node_eq n (h.lt_size_of_reaches hn)

end TreeAt

/-- The nodes of a tree that has been planted are new. -/
theorem size_le_of_reaches_plant (f : Forest) (t : Tree)
    (hn : (f.plant t).2.Reaches (f.plant t).1 n) : f.size ≤ n := by
  obtain ⟨_, hadds⟩ := f.plant_adds t
  exact hn.of_closed (hadds.tops_new _ (List.mem_singleton_self _)).1
    fun _ hp _ hc => (hadds.closed hp hc).1

theorem treeAt_plant (f : Forest) (t : Tree) : (f.plant t).2.TreeAt (f.plant t).1 t := by
  obtain ⟨_, hadds⟩ := f.plant_adds t
  have hmem := List.mem_singleton_self (f.plant t).1
  refine ⟨f.hangs_plant t, (hadds.tops_new _ hmem).2, hadds.parent?_top _ hmem, fun n hn => ?_,
    fun n hn c hc => ?_⟩
  · refine List.nodup_iff_count.mpr fun c => ?_
    rw [hadds.count_children n (f.size_le_of_reaches_plant t hn)]
    split <;> omega
  · have hpos := List.count_pos_iff.mpr hc
    rw [hadds.count_children n (f.size_le_of_reaches_plant t hn)] at hpos
    split at hpos
    · rename_i hcond
      exact hcond.2
    · exact absurd hpos (Nat.lt_irrefl 0)

/-- Trees planted one after the other stand beside each other and beside the trees there were. -/
theorem treeAt_plantEach (f : Forest) (ts : List Tree) :
    List.Forall₂ (f.plantEach ts).2.TreeAt (f.plantEach ts).1 ts ∧ (f.plantEach ts).1.Nodup ∧
      (∀ n ∈ (f.plantEach ts).1, f.size ≤ n) ∧
      ∀ top t, f.TreeAt top t → (f.plantEach ts).2.TreeAt top t := by
  induction ts generalizing f with
  | nil => exact ⟨.nil, List.nodup_nil, nofun, fun _ _ h => h⟩
  | cons t ts ih =>
      obtain ⟨htops, hnodup, hnew, hkept⟩ := ih (f.plant t).2
      obtain ⟨hfirst, hadds⟩ := f.plant_adds t
      have hlt := (treeAt_plant f t).lt_size
      refine ⟨.cons (hkept _ _ (treeAt_plant f t)) htops, List.nodup_cons.mpr ⟨fun hmem => ?_, hnodup⟩,
        List.forall_mem_cons.mpr ⟨Nat.le_of_eq hfirst.symm, fun n hn => ?_⟩,
        fun top u h => hkept top u (h.adds hadds)⟩
      · exact absurd hlt (Nat.not_lt_of_le (hnew _ hmem))
      · exact Nat.le_trans hadds.size_le (hnew n hn)

theorem TreeAt.duplicate (h : f.TreeAt n t) : (f.duplicate n).2.TreeAt (f.duplicate n).1 t := by
  rw [Forest.duplicate, h.tree_eq]
  exact treeAt_plant f t

/-- The nodes at one address below two tops. -/
def SamePlace (f f' : Forest) (top top' : NodeId) : Pairing :=
  fun a b => ∃ path, f.follow? top path = some a ∧ f'.follow? top' path = some b

/-- The nodes of trees of one structure correspond by their addresses. -/
theorem TreeAt.pairs (h : f.TreeAt top t) (h' : f'.TreeAt top' t) :
    Pairs (SamePlace f f' top top') f f' where
  unique := by
    constructor
    · rintro a b c ⟨path, ha, hb⟩ ⟨path', hc, hb'⟩
      rw [h'.address_unique hb hb', hc] at ha
      exact (Option.some.inj ha).symm
    · rintro a b c ⟨path, ha, hb⟩ ⟨path', ha', hc⟩
      rw [h.address_unique ha ha', hc] at hb
      exact (Option.some.inj hb).symm
  lt_left := fun ⟨path, ha, _⟩ => h.lt_size_of_reaches ⟨path, ha⟩
  lt_right := fun ⟨path, _, hb⟩ => h'.lt_size_of_reaches ⟨path, hb⟩
  alike := by
    rintro a b ⟨path, ha, hb⟩
    have hrel := h.hangs.follow?_rel path
    have hrel' := h'.hangs.follow?_rel path
    rw [ha] at hrel
    rw [hb] at hrel'
    obtain ⟨u, hu, hau⟩ : ∃ u, t.get? path = some u ∧ f.Hangs a u := by
      cases hu : t.get? path with
      | none => rw [hu] at hrel; cases hrel
      | some u => rw [hu] at hrel; cases hrel with | some hau => exact ⟨u, rfl, hau⟩
    rw [hu] at hrel'
    cases hrel' with
    | some hbu =>
        obtain ⟨hlabel, hchildren⟩ := hangs_iff.mp hau
        obtain ⟨hlabel', hchildren'⟩ := hangs_iff.mp hbu
        have hlen : (f.children a).length = (f'.children b).length :=
          hchildren.length_eq.trans hchildren'.length_eq.symm
        refine ⟨hlabel.trans hlabel'.symm, ?_, List.forall₂_iff_get.mpr ⟨hlen, fun i hi hi' => ?_⟩⟩
        · rcases List.eq_nil_or_concat path with rfl | ⟨path, i, rfl⟩
          · cases ha
            cases hb
            show Option.Rel _ (f.parent? _) (f'.parent? _)
            rw [h.parent_top, h'.parent_top]
            exact .none
          · rw [List.concat_eq_append] at ha hb
            obtain ⟨p, hpath, _, hp⟩ := h.parent_eq ha
            obtain ⟨p', hpath', _, hp'⟩ := h'.parent_eq hb
            show Option.Rel _ (f.parent? _) (f'.parent? _)
            rw [hp, hp']
            exact .some ⟨path, hpath, hpath'⟩
        · refine ⟨path ++ [i], ?_, ?_⟩
          · rw [follow?_concat, ha]
            exact List.getElem?_eq_getElem hi
          · rw [follow?_concat, hb]
            exact List.getElem?_eq_getElem hi'

theorem Pairs.exists_reaches {R : Pairing} (h : Pairs R f f') (htop : R top top')
    (hn : f.Reaches top n) : ∃ n', R n n' ∧ f'.Reaches top' n' := by
  obtain ⟨path, hpath⟩ := hn
  obtain ⟨n', hfollow, hn'⟩ := Option.Rel.exists_eq_some (hpath ▸ h.follow?_rel htop path)
  exact ⟨n', hn', path, hfollow⟩

/-- Where the nodes of a tree have partners, these make a tree of the same structure. -/
theorem TreeAt.transfer {R : Pairing} (ht : f.TreeAt top t) (h : Pairs R f f') (htop : R top top') :
    f'.TreeAt top' t where
  hangs := h.hangs htop ht.hangs
  lt_size := h.lt_right htop
  parent_top := Option.Rel.eq_none (ht.parent_top ▸ h.parent_rel htop)
  nodup b hb := by
    obtain ⟨a, hab, ha⟩ := h.symm.exists_reaches htop hb
    exact (List.rel_nodup h.unique (h.children_rel hab)).mp (ht.nodup a ha)
  parent_child b hb c' hc' := by
    obtain ⟨a, hab, ha⟩ := h.symm.exists_reaches htop hb
    obtain ⟨c, hc⟩ := (h.symm.closedDown_left b ⟨a, hab⟩).2 c' hc'
    have hmem := (List.rel_mem h.unique hc (h.children_rel hab)).mpr hc'
    obtain ⟨p, hp, hap⟩ := Option.Rel.exists_eq_some
      (ht.parent_child a ha c hmem ▸ h.parent_rel hc)
    rw [hp, h.unique.2 hap hab]

theorem samePlace_top (f f' : Forest) (top top' : NodeId) : SamePlace f f' top top' top top' :=
  ⟨[], rfl, rfl⟩

end Treebank.Forest
