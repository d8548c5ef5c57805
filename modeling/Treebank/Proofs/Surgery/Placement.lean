import Treebank.Proofs.Forest.Position
import Treebank.Proofs.Forest.Splice
import Treebank.Proofs.Surgery.Naming

/-!
# Where a placed node stands

A node that is inserted or moved stands in the relation to the target that the sign of its place has in
patterns, and it is the only node that does. The other nodes stay in their order.
-/

namespace Treebank

variable {f f' : Forest} {r t m n q : Nat} {i : Nat} {p : Place}

/-! ## Slots among children -/

namespace Surgery

theorem hasSlot_iff {index : Int} {count : Nat} :
    HasSlot index count ↔ 1 ≤ index.natAbs ∧ index.natAbs ≤ count + 1 := by
  simp only [HasSlot, slotOf]
  split <;> omega

/-- Patterns and places count children alike. -/
theorem ith_eq_slotOf {index : Int} {count : Nat} {u : Site} (h : HasSlot index count)
    (hlength : u.tree.children.length = count + 1) :
    Pick.ith (some index) u = some (slotOf index count).toNat := by
  rw [HasSlot, slotOf] at h
  rw [slotOf]
  simp only [Pick.ith, hlength]
  rcases index with (_ | k) | k
  · exact absurd h.2 (by simp)
  · have hlt : k < count + 1 := by
      simp only [Int.ofNat_eq_natCast] at h
      split at h <;> omega
    have hpos : Int.ofNat (k + 1) > 0 := by simp
    simp only [hlt, hpos, if_true]
    simp
  · have hlt : k < count + 1 := by
      split at h <;> omega
    have hneg : ¬Int.negSucc k > 0 := by omega
    simp only [hlt, hneg, if_true, if_false, Option.some.injEq]
    omega

/-- The place exists below the target `t` if `count` children of it are other nodes than the one to be
put there; and it exists beside the target unless that is the root `r`. -/
def Admits (p : Place) (r t : NodeId) (count : Nat) : Prop :=
  match p with
  | .childOf _ index => 1 ≤ index.natAbs ∧ index.natAbs ≤ count + 1
  | .leftOf _ | .rightOf _ => t ≠ r

instance (p : Place) (r t : NodeId) (count : Nat) : Decidable (Admits p r t count) :=
  match p with
  | .childOf .. => inferInstanceAs (Decidable (_ ∧ _))
  | .leftOf _ | .rightOf _ => inferInstanceAs (Decidable (_ ≠ _))

theorem refusal?_eq_none_iff (hr : f.parent? r = none) (hcov : f.Covers r t) :
    refusal? f t p = none ↔ Admits p r t (f.children t).length := by
  cases p with
  | childOf name index =>
      rw [Admits, ← hasSlot_iff]
      simp [refusal?]
  | leftOf name | rightOf name =>
      have hparent : (f.parent? t).isNone = true ↔ t = r := by
        rw [Option.isNone_iff_eq_none]
        exact ⟨fun ht => (hcov.of_top ht).symm, fun h => h ▸ hr⟩
      rw [Admits, ne_eq, ← hparent]
      simp [refusal?]

theorem not_admits_of_top {count : Nat} (hcov : f.Covers r t)
    (h : p.index? = none ∧ f.parent? t = none) : ¬Admits p r t count := by
  have hrt := hcov.of_top h.2
  cases p with
  | childOf name index => exact nomatch h.1
  | leftOf name | rightOf name => exact fun hne => hne hrt.symm

end Surgery

theorem filter_ne_insertIdx (l : List Nat) (i m : Nat) :
    (l.insertIdx i m).filter (· ≠ m) = l.filter (· ≠ m) := by
  induction l generalizing i with
  | nil => cases i <;> simp
  | cons d l ih =>
      cases i with
      | zero => rw [List.insertIdx_zero, List.filter_cons_of_neg (by simp)]
      | succ i => rw [List.insertIdx_succ_cons, List.filter_cons, List.filter_cons, ih i]

namespace Forest

open Surgery

/-! ## Hanging in a place -/

theorem carries_link (hf : f.WellFormed) (hm : m < f.size) (htop : f.parent? m = none)
    (hmq : ¬f.Covers m q) (hqlt : q < f.size) (hi : i ≤ (f.children q).length) :
    f.Carries (f.link q m i) m := by
  have hgroup := regroups_link hqlt m i
  exact hf.carries (hf.moves_link hm hqlt htop hmq hi).wellFormed fun k hk =>
    ⟨hgroup.label_eq k, hgroup.children_ne k fun hkq => hmq (hkq ▸ hk)⟩

theorem carries_unlink (hf : f.WellFormed) (hq : f.parent? m = some q) :
    f.Carries (f.unlink q m) m := by
  have hreleased := hf.released_unlink hq
  refine hf.carries hreleased.moves.wellFormed fun k hk => ⟨hreleased.label_eq k, ?_⟩
  rw [hreleased.children_eq, filter_not_mem_eq_self]
  intro d hd hdm
  obtain rfl := List.mem_singleton.mp hdm
  exact (hf.grounded d).not_covers (hf.mem_children.mp hd) hk

/-! ## Standing in a place -/

/-- The relation of the same sign holds of the node `m` in the place and of the target `t`, in the tree
with the top `r`: of all nodes only the one stands in it to the other. -/
def StandsIn (f : Forest) (r m t : NodeId) (p : Place) : Prop :=
  ∃ u v, f.StandsAt r m u ∧ f.StandsAt r t v ∧ ∀ g,
    match p with
    | .leftOf _ => Relation.immediateLeftSister.candidates g u = [v]
    | .rightOf _ => Relation.immediateRightSister.candidates g u = [v]
    | .childOf _ index => (Relation.ithChild (some index)).candidates g v = [u]

theorem standsIn_link (hf : f.WellFormed) (hm : m < f.size) (htop : f.parent? m = none)
    (hcov : f.Covers r q) (hmq : ¬f.Covers m q) (hq : above? f t p = some q) (hqlt : q < f.size)
    (hfree : refusal? f t p = none) (hi : slotUnder f q t p ≤ (f.children q).length) :
    (f.link q m (slotUnder f q t p)).StandsIn r m t p := by
  have hmoves := hf.moves_link hm hqlt htop hmq hi
  have hwf := hmoves.wellFormed
  have hchildren := (regroups_link hqlt m (slotUnder f q t p)).children_at
  obtain ⟨u, hu⟩ := hwf.exists_standsAt ((hmoves.covers_iff (by simpa using hmq)).mpr hcov)
  have hnew : ((f.link q m (slotUnder f q t p)).children q)[slotUnder f q t p]? = some m := by
    rw [hchildren, List.getElem?_insertIdx_self, if_pos hi]
  -- the sister is where it was, or one further to the right
  have hsister : f.parent? t = some q → (f.children q)[(f.children q).idxOf t]? = some t := by
    intro ht
    have hmem := hf.mem_children.mpr ht
    rw [List.getElem?_eq_getElem (List.idxOf_lt_length_of_mem hmem), List.getElem_idxOf]
  cases p with
  | leftOf name =>
      have ht : ((f.link q m (slotUnder f q t (.leftOf name))).children q)[
          slotUnder f q t (.leftOf name) + 1]? = some t := by
        rw [hchildren, List.getElem?_insertIdx_of_gt (Nat.lt_succ_self _)]
        exact hsister hq
      obtain ⟨v, w, hv, hw, hrel⟩ := hu.neighbours hwf hnew ht
      exact ⟨v, w, hv, hw, fun g => (hrel g).1⟩
  | rightOf name =>
      have ht : ((f.link q m (slotUnder f q t (.rightOf name))).children q)[
          (f.children q).idxOf t]? = some t := by
        have hlt : (f.children q).idxOf t < slotUnder f q t (.rightOf name) := Nat.lt_succ_self _
        rw [hchildren, List.getElem?_insertIdx_of_lt hlt]
        exact hsister hq
      obtain ⟨v, w, hv, hw, hrel⟩ := hu.neighbours hwf ht hnew
      exact ⟨w, v, hw, hv, fun g => (hrel g).2⟩
  | childOf name index =>
      obtain rfl : t = q := Option.some.inj hq
      have hslot : HasSlot index (f.children t).length := by
        by_contra hnot
        simp [refusal?, hnot] at hfree
      have hlength : u.tree.children.length = (f.children t).length + 1 := by
        rw [hu.tree_eq hwf, hwf.tree_eq, Tree.children, List.length_map, hchildren,
          List.length_insertIdx_of_le_length hi]
      obtain ⟨v, hv, hrel⟩ := hu.ithChild hwf (ith_eq_slotOf hslot hlength) hnew
      exact ⟨v, u, hv, hu, hrel⟩

end Forest

namespace Surgery

variable {s s' : State} {name : String} {x : Tree} {source : Source}

/-- Carried out in this state, the step is refused. -/
def Fails (s : State) (x : Surgery Unit) : Prop := ∃ e s', x.runFrom s = (.error e, s')

/-- The node `m` stands in the place of the tree with the top `r`. It hangs there only, and the other
nodes have their labels, their parents and their order. -/
structure State.Placed (s : State) (r t m : NodeId) (p : Place) (s' : State) : Prop where
  wellFormed : s'.forest.WellFormed
  root_eq : s'.root = some r
  standsIn : s'.forest.StandsIn r m t p
  label_eq : ∀ n < s.forest.size, s'.forest.label n = s.forest.label n
  parent?_eq : ∀ n < s.forest.size, n ≠ m → s'.forest.parent? n = s.forest.parent? n
  children_eq : ∀ n < s.forest.size,
    (s'.forest.children n).filter (· ≠ m) = (s.forest.children n).filter (· ≠ m)

theorem above?_cases (hq : above? f t p = some q) : q = t ∨ f.parent? t = some q := by
  cases p with
  | childOf name index => exact Or.inl (Option.some.inj hq).symm
  | leftOf name | rightOf name => exact Or.inr hq

/-- Putting a topmost node in a place: it is refused if there is no such place. If not, the node comes to
stand there with all that hangs from it. -/
theorem putAt_cases (hs : s.Sound) (hr : s.root = some r) (hm : m < s.forest.size)
    (htop : s.forest.parent? m = none) (ht : s.names.lookup p.target = some t)
    (hcov : s.forest.Covers r t) (hmt : ¬s.forest.Covers m t) :
    ¬Admits p r t (s.forest.children t).length ∧ Fails s (putAt m p) ∨
      Admits p r t (s.forest.children t).length ∧ Succeeds s (putAt m p) fun s' =>
        s.Placed r t m p s' ∧ s'.names = s.names ∧ s'.forest.size = s.forest.size ∧
          s.forest.Carries s'.forest m := by
  have hwf := hs.wellFormed
  obtain ⟨hrlt, hrtop⟩ := hs.root_top r hr
  rw [← refusal?_eq_none_iff hrtop hcov]
  cases hfree : refusal? s.forest t p with
  | some e => exact Or.inl ⟨nofun, e, s, runFrom_putAt_of_refusal m ht hfree⟩
  | none =>
      obtain ⟨q, hq, hi, hrun⟩ := runFrom_putAt hwf htop ht hfree
      have hqt : s.forest.Covers q t := by
        rcases above?_cases hq with rfl | hp
        · exact .self
        · exact .under hp .self
      have hmq : ¬s.forest.Covers m q := fun hmq => hmt (hmq.trans hqt)
      have hrq : s.forest.Covers r q := by
        rcases hcov.linear hqt with hrq | hqr
        · exact hrq
        · exact hqr.of_top hrtop ▸ .self
      have hqlt := hrq.lt_size hrlt
      have hmoves := hwf.moves_link hm hqlt htop hmq hi
      have hgroup := Forest.regroups_link hqlt m (slotUnder s.forest q t p)
      refine Or.inr ⟨rfl, _, hrun, ?_, rfl, hmoves.size_eq, Forest.carries_link hwf hm htop hmq hqlt hi⟩
      refine ⟨hmoves.wellFormed, hr, Forest.standsIn_link hwf hm htop hrq hmq hq hqlt hfree hi,
        fun n _ => hgroup.label_eq n, ?_, ?_⟩
      · intro n _ hnm
        exact hmoves.parent?_of_not_mem (by simpa using hnm)
      · intro n _
        by_cases hnq : n = q
        · subst hnq
          rw [hgroup.children_at, filter_ne_insertIdx]
        · rw [hgroup.children_ne n hnq]

/-! ## Insertions -/

/-- The tree that a source is for: the one below a node, or the literal one. -/
def sourceTree? (s : State) : Source → Option Tree
  | .node name => (s.names.lookup name).map s.forest.tree
  | .template t => some t.tree

theorem runFrom_materialize_source (hs : s.Sound) (hx : sourceTree? s source = some x) :
    ∃ s₁, (materialize source).runFrom s = (.ok (s.forest.plant x).1, s₁) ∧
      s₁.forest = (s.forest.plant x).2 ∧ s₁.Sound ∧ s₁.root = s.root ∧
      ∀ name ∉ source.introduced, s₁.names.lookup name = s.names.lookup name := by
  have hrun : ∃ s₁, (materialize source).runFrom s = (.ok (s.forest.plant x).1, s₁) ∧
      s₁.forest = (s.forest.plant x).2 := by
    cases source with
    | node name =>
        obtain ⟨n, hn, rfl⟩ := Option.map_eq_some_iff.mp hx
        refine ⟨{ s with forest := (s.forest.plant (s.forest.tree n)).2 }, ?_, rfl⟩
        rw [materialize, runFrom_bind, runFrom_node, hn]
        simp only []
        rw [runFrom_duplicate, hs.wellFormed.not_endlessBelow (hs.names_known _ _ hn)]
        rfl
    | template t =>
        cases hx
        exact ⟨s.copied t, runFrom_materialize s t, s.forest_copied t⟩
  obtain ⟨s₁, hrun, hforest⟩ := hrun
  have hmeets := meets_materialize source hs
  rw [Meets, hrun] at hmeets
  obtain ⟨hs₁, hroot, _, hnames⟩ := hmeets
  exact ⟨s₁, hrun, hforest, hs₁, hroot, hnames⟩

/-- What is placed beside earlier nodes is placed beside them as they were before further nodes were
added. -/
theorem State.Placed.of_adds {s₁ : State} {tops : List Nat} (h : s₁.Placed r t m p s')
    (hadds : Forest.Adds none tops s.forest s₁.forest) : s.Placed r t m p s' where
  wellFormed := h.wellFormed
  root_eq := h.root_eq
  standsIn := h.standsIn
  label_eq n hn := by
    rw [h.label_eq n (Nat.lt_of_lt_of_le hn hadds.size_le), Forest.label, hadds.node_eq n hn]
    rfl
  parent?_eq n hn hnm := by
    rw [h.parent?_eq n (Nat.lt_of_lt_of_le hn hadds.size_le) hnm, hadds.parent?_old hn]
  children_eq n hn := by
    rw [h.children_eq n (Nat.lt_of_lt_of_le hn hadds.size_le), hadds.children_old hn]

theorem insert_cases (hs : s.Sound) (hr : s.root = some r) (ht : s.names.lookup p.target = some t)
    (hcov : s.forest.Covers r t) (hself : p.target ∉ source.introduced)
    (hx : sourceTree? s source = some x) :
    ¬Admits p r t (s.forest.children t).length ∧ Fails s (insert source p) ∨
      Admits p r t (s.forest.children t).length ∧ Succeeds s (insert source p) fun s' =>
        ∃ m, s.Placed r t m p s' ∧ s.forest.Fresh s'.forest m x := by
  rw [Succeeds, Fails, insert, runFrom_bind, runFrom_targetOf ht]
  by_cases hsister : p.index? = none ∧ s.forest.parent? t = none
  · rw [if_pos hsister]
    exact Or.inl ⟨not_admits_of_top hcov hsister, _, _, rfl⟩
  · rw [if_neg hsister]
    obtain ⟨s₁, hrun, hforest, hs₁, hroot₁, hnames₁⟩ := runFrom_materialize_source hs hx
    have hadds := hforest ▸ (s.forest.plant_adds x).2
    have hfresh := hforest ▸ hs.wellFormed.fresh_plant x
    have hmem := List.mem_singleton_self (s.forest.plant x).1
    have hold := hs.names_known _ _ ht
    have hcov₁ : s₁.forest.Covers r t := hcov.of_parents fun m q hq =>
      .under ((hadds.parent?_old (Forest.lt_size_of_parent? hq)).trans hq) .self
    have hput := putAt_cases hs₁ (hroot₁.trans hr) (hadds.tops_new _ hmem).2
      (hadds.parent?_top _ hmem) ((hnames₁ _ hself).trans ht) hcov₁
      fun hmt => absurd (hfresh.size_le t hmt) (Nat.not_le_of_lt hold)
    rw [hadds.children_old hold] at hput
    simp only []
    rw [runFrom_bind, hrun]
    refine hput.imp (And.imp_right id) (And.imp_right fun h => ?_)
    obtain ⟨s', hrun', hplaced, _, _, hcarries⟩ := h
    exact ⟨s', hrun', _, hplaced.of_adds hadds, hfresh.carries hcarries⟩

/-! ## Moves -/

theorem runFrom_checkOutside (hs : s.Sound) (name : String) (ht : t < s.forest.size) :
    (checkOutside name n t).runFrom s =
      if s.forest.spans n t then (.error (.movesIntoSelf name), s) else (.ok (), s) := by
  rw [checkOutside, Forest.spans]
  by_cases hnt : n = t
  · simp [hnt]
    rfl
  · simp only [beq_iff_eq, Ne.symm hnt, if_false]
    rw [runFrom_bind, hs.runFrom_isAbove ht]
    cases s.forest.dominates n t <;> simp [hnt] <;> rfl

def others (f : Forest) (t n : NodeId) : List NodeId := (f.children t).filter (· ≠ n)

/-- What is placed after it was taken to the top is placed in the tree as it was before. -/
theorem State.Placed.of_released {f₁ : Forest}
    (h : State.Placed { s with forest := f₁ } r t m p s') (hreleased : s.forest.Released f₁ [m]) :
    s.Placed r t m p s' where
  wellFormed := h.wellFormed
  root_eq := h.root_eq
  standsIn := h.standsIn
  label_eq n hn := (h.label_eq n (hreleased.moves.size_eq.symm ▸ hn)).trans (hreleased.label_eq n)
  parent?_eq n hn hnm := by
    rw [h.parent?_eq n (hreleased.moves.size_eq.symm ▸ hn) hnm]
    exact hreleased.moves.parent?_of_not_mem (by simpa using hnm)
  children_eq n hn := by
    rw [h.children_eq n (hreleased.moves.size_eq.symm ▸ hn)]
    simp only [hreleased.children_eq, List.filter_filter]
    exact List.filter_congr fun c _ => by simp

theorem move_cases (hs : s.Sound) (hr : s.root = some r) (hn : s.names.lookup name = some n)
    (hcovn : s.forest.Covers r n) (ht : s.names.lookup p.target = some t)
    (hcov : s.forest.Covers r t) :
    ¬(Admits p r t (others s.forest t n).length ∧ n ≠ r ∧ ¬s.forest.Covers n t) ∧
        Fails s (move name p) ∨
      (Admits p r t (others s.forest t n).length ∧ n ≠ r ∧ ¬s.forest.Covers n t) ∧
        Succeeds s (move name p) fun s' => s.Placed r t n p s' ∧ s'.names = s.names ∧
          s'.forest.size = s.forest.size ∧ s.forest.Carries s'.forest n := by
  rw [Succeeds, Fails, move, runFrom_bind, runFrom_node, hn]
  simp only []
  rw [runFrom_bind, runFrom_targetOf ht]
  by_cases hsister : p.index? = none ∧ s.forest.parent? t = none
  · rw [if_pos hsister]
    refine Or.inl ⟨fun h => not_admits_of_top hcov hsister h.1, _, _, rfl⟩
  rw [if_neg hsister]
  simp only []
  rw [runFrom_forest_bind, runFrom_root_bind]
  by_cases hnr : n = r
  · rw [if_pos (by simp [hr, hnr])]
    exact Or.inl ⟨fun h => h.2.1 hnr, _, _, rfl⟩
  obtain ⟨q, hq, _⟩ := hcovn.exists_parent (Ne.symm hnr)
  have hroot : ¬((s.root == some n || (s.forest.parent? n).isNone) = true) := by
    simp [hr, hq, Ne.symm hnr]
  rw [if_neg hroot, runFrom_bind, runFrom_checkOutside hs name (hs.names_known _ _ ht)]
  by_cases hnt : s.forest.spans n t = true
  · rw [if_pos hnt]
    exact Or.inl ⟨fun h => h.2.2 (hs.wellFormed.spans_iff.mp hnt), _, _, rfl⟩
  rw [if_neg hnt]
  rw [hs.wellFormed.spans_iff] at hnt
  simp only []
  obtain ⟨_, _, hrun, rfl⟩ := Forest.achieves_detach hs.wellFormed hq
  rw [runFrom_bind, runFrom_edit, hrun]
  have hreleased := hs.wellFormed.released_unlink hq
  have hs₁ := hs.moves hreleased.moves fun _ _ _ => rfl
  -- the place is looked for when the node is out, so it is not counted among the children
  have hchildren : ∀ k, (s.forest.unlink q n).children k = others s.forest k n := by
    intro k
    rw [hreleased.children_eq, others]
    exact List.filter_congr fun c _ => by simp
  have hput := putAt_cases hs₁ hr
    (hreleased.moves.size_eq ▸ hs.names_known name n hn)
    (hreleased.moves.parent?_of_mem (List.mem_singleton_self n)) ht
    ((hreleased.moves.covers_iff (by simpa using hnt)).mpr hcov)
    (fun hcov' => hnt (hreleased.moves.covers hcov'))
  rw [hchildren] at hput
  refine hput.imp (fun h => ⟨fun hall => h.1 hall.1, h.2⟩) fun h => ⟨⟨h.1, hnr, hnt⟩, ?_⟩
  obtain ⟨_, s', hrun', hplaced, hnames, hsize, hcarries⟩ := h
  refine ⟨s', hrun', hplaced.of_released hreleased, hnames, hsize.trans hreleased.moves.size_eq, ?_⟩
  exact (Forest.carries_unlink hs.wellFormed hq).trans hcarries

/-! ## Both at once -/

theorem succeeds_iff_of_cases {A : Prop} {x : Surgery Unit} {Q : State → Prop}
    (h : ¬A ∧ Fails s x ∨ A ∧ Succeeds s x Q) :
    ((∃ s', runFrom s x = (.ok (), s')) ↔ A) ∧ ∀ s', runFrom s x = (.ok (), s') → Q s' := by
  rcases h with ⟨hnot, e, s₁, hrun⟩ | ⟨hA, s₁, hrun, hQ⟩
  · rw [hrun]
    exact ⟨⟨fun ⟨_, heq⟩ => (nomatch heq), fun hA => absurd hA hnot⟩, fun _ heq => nomatch heq⟩
  · rw [hrun]
    refine ⟨⟨fun _ => hA, fun _ => ⟨s₁, rfl⟩⟩, ?_⟩
    rintro _ ⟨⟩
    exact hQ

/-- Insertions and moves to a target in the tree. They succeed if and only if there is the place; a move
must besides not be of the root, nor to a target that the node covers. Then the node stands in the place:
a moved node with all that hangs from it, an inserted one as a copy made of new nodes. -/
theorem placed_standsIn (hs : s.Sound) (hr : s.root = some r) (ht : s.names.lookup p.target = some t)
    (hcov : s.forest.Covers r t) :
    (∀ source x, p.target ∉ source.introduced → sourceTree? s source = some x →
      ((∃ s', runFrom s (Statement.insert source p).apply = (.ok (), s')) ↔
        Admits p r t (s.forest.children t).length) ∧
      ∀ s', runFrom s (Statement.insert source p).apply = (.ok (), s') →
        ∃ m, s.Placed r t m p s' ∧ s.forest.Fresh s'.forest m x) ∧
    ∀ name n, s.names.lookup name = some n → s.forest.Covers r n →
      ((∃ s', runFrom s (Statement.move name p).apply = (.ok (), s')) ↔
        Admits p r t (others s.forest t n).length ∧ n ≠ r ∧ ¬s.forest.Covers n t) ∧
      ∀ s', runFrom s (Statement.move name p).apply = (.ok (), s') →
        s.Placed r t n p s' ∧ s'.names = s.names ∧ s'.forest.size = s.forest.size ∧
          s.forest.Carries s'.forest n :=
  ⟨fun _ _ hself hx => succeeds_iff_of_cases (insert_cases hs hr ht hcov hself hx),
    fun _ _ hn hcovn => succeeds_iff_of_cases (move_cases hs hr hn hcovn ht hcov)⟩

/-- The last child of a phrase becomes its second child from the right by a move within the phrase; a new
word becomes its third from the right; and no fourth child can be put below it. -/
theorem placed_standsIn_of_phrase :
    let phrase := Tree.node "NP" [.leaf "big", .leaf "dog"]
    let t := Tree.node "S" [phrase, .leaf "barks"]
    let s := State.start t [("np", ⟨phrase, [(0, t)]⟩),
      ("dog", ⟨.leaf "dog", [(1, phrase), (0, t)]⟩)]
    let word := Source.template ⟨.leaf "old", [], none, "old"⟩
    (∃ s', runFrom s (Statement.move "dog" (.childOf "np" (-2))).apply = (.ok (), s') ∧
      s'.forest.StandsIn 0 3 1 (.childOf "np" (-2)) ∧
      (s'.forest.children 1).filter (· ≠ 3) = [2]) ∧
    (∃ s' m, runFrom s (Statement.insert word (.childOf "np" (-3))).apply = (.ok (), s') ∧
      s'.forest.StandsIn 0 m 1 (.childOf "np" (-3)) ∧ s'.forest.tree m = .leaf "old") ∧
    ¬∃ s', runFrom s (Statement.insert word (.childOf "np" 4)).apply = (.ok (), s') := by
  intro phrase t s word
  have hs : s.Sound := State.sound_start t _
  have hroot : s.root = some 0 := rfl
  have hnp : s.names.lookup "np" = some 1 := rfl
  have hdog : s.names.lookup "dog" = some 3 := rfl
  have hcovnp : s.forest.Covers 0 1 := .under rfl .self
  have hcovdog : s.forest.Covers 0 3 := .under rfl (.under rfl .self)
  refine ⟨?_, ?_, ?_⟩
  · obtain ⟨hiff, hplaced⟩ := (placed_standsIn (p := .childOf "np" (-2)) hs hroot hnp hcovnp).2
      "dog" 3 hdog hcovdog
    have hout : ¬s.forest.Covers 3 1 := by
      rw [← hs.wellFormed.spans_iff]
      decide
    obtain ⟨s', hrun⟩ := hiff.mpr ⟨by decide, by decide, hout⟩
    obtain ⟨hplaced, _⟩ := hplaced s' hrun
    exact ⟨s', hrun, hplaced.standsIn, hplaced.children_eq 1 (by decide)⟩
  · obtain ⟨hiff, hplaced⟩ := (placed_standsIn (p := .childOf "np" (-3)) hs hroot hnp hcovnp).1
      word (.leaf "old") (by decide) rfl
    obtain ⟨s', hrun⟩ := hiff.mpr (by decide)
    obtain ⟨m, hplaced, hfresh⟩ := hplaced s' hrun
    exact ⟨s', m, hrun, hplaced.standsIn, hfresh.tree_eq⟩
  · rw [((placed_standsIn (p := .childOf "np" 4) hs hroot hnp hcovnp).1
      word (.leaf "old") (by decide) rfl).1]
    decide

end Surgery

end Treebank
