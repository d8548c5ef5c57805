import Treebank.Proofs.Forest.Splice
import Treebank.Proofs.Surgery.Untouched

/-!
# Statements on nodes that have left the tree

A node that is cut off is refused by the statements that put something in its place. A node below it
has left the tree as well, but it has a parent: there these statements are carried out, on a piece that
nobody will see again. In either case they do not come near the tree that hangs from the root.
-/

namespace Treebank

namespace Forest

variable {S : NodeId → Prop} {f f' g : Forest} {c n p q m : NodeId} {i : Nat} {α β : Type}

/-! ## Edits beside a set of nodes -/

theorem parent?_of_unlink (h : (f.unlink p c).parent? m = some q) : f.parent? m = some q := by
  have hm := lt_size_of_parent? h
  rw [size_unlink] at hm
  by_cases hmc : m = c
  · rw [parent?_unlink (hmc ▸ hm), if_pos hmc] at h
    cases h
  · rw [unlink, setParent, parent?, node_adjust_of_ne hmc] at h
    rwa [← parent?, parent?_setChildren] at h

theorem parent?_of_link (h : (f.link p c i).parent? m = some q) :
    (m = c ∧ q = p) ∨ f.parent? m = some q := by
  have hm := lt_size_of_parent? h
  rw [size_link] at hm
  by_cases hmc : m = c
  · rw [parent?_link (hmc ▸ hm), if_pos hmc] at h
    exact Or.inl ⟨hmc, (Option.some.inj h).symm⟩
  · rw [link, setParent, parent?, node_adjust_of_ne hmc] at h
    rw [← parent?, parent?_setChildren] at h
    exact Or.inr h

theorem node_unlink_of_ne (hp : m ≠ p) (hc : m ≠ c) : (f.unlink p c).node m = f.node m := by
  rw [unlink, setParent, setChildren, node_adjust_of_ne hc, node_adjust_of_ne hp]

theorem node_link_of_ne (hp : m ≠ p) (hc : m ≠ c) (i : Nat) : (f.link p c i).node m = f.node m := by
  rw [link, setParent, setChildren, node_adjust_of_ne hc, node_adjust_of_ne hp]

/-- The nodes of the set are in the second forest as in the first one, and what is below them there
is in the set. -/
structure Clear (S : NodeId → Prop) (f g : Forest) : Prop where
  size_le : f.size ≤ g.size
  node_eq : ∀ m, S m → g.node m = f.node m
  below : ∀ c p, g.parent? c = some p → S p → S c

theorem Clear.unlink (h : Clear S f g) (hp : ¬S p) (hc : ¬S c) : Clear S f (g.unlink p c) where
  size_le := by
    rw [size_unlink]
    exact h.size_le
  node_eq m hm := by
    have hmp : m ≠ p := fun heq => hp (heq ▸ hm)
    have hmc : m ≠ c := fun heq => hc (heq ▸ hm)
    rw [node_unlink_of_ne hmp hmc, h.node_eq m hm]
  below m q hq := h.below m q (parent?_of_unlink hq)

theorem Clear.link (h : Clear S f g) (hp : ¬S p) (hc : ¬S c) (i : Nat) :
    Clear S f (g.link p c i) where
  size_le := by
    rw [size_link]
    exact h.size_le
  node_eq m hm := by
    have hmp : m ≠ p := fun heq => hp (heq ▸ hm)
    have hmc : m ≠ c := fun heq => hc (heq ▸ hm)
    rw [node_link_of_ne hmp hmc, h.node_eq m hm]
  below m q hq hS := by
    rcases parent?_of_link hq with ⟨_, rfl⟩ | hq
    · exact absurd hS hp
    · exact h.below m q hq hS

/-- Carried out to its end or not, the edit keeps clear of the nodes of the set. -/
def Avoids (S : NodeId → Prop) (e : Edit α) : Prop :=
  ∀ f g, Clear S f g → Concludes g e (fun _ g' => Clear S f g') fun _ g' => Clear S f g'

theorem Avoids.bind {e : Edit α} {k : α → Edit β} (he : Avoids S e) (hk : ∀ a, Avoids S (k a)) :
    Avoids S (e >>= k) := fun f g h => (he f g h).bind fun a g' => hk a f g'

theorem avoids_pure (a : α) : Avoids S (pure a : Edit α) := fun _ _ h => h

theorem avoids_removeChild (hp : ¬S p) (hc : ¬S c) : Avoids S (removeChild p c) := by
  intro f g h
  refine (concludes_removeChild g p c).mono ?_ ?_
  · rintro _ _ ⟨_, rfl⟩
    exact h.unlink hp hc
  · rintro _ _ rfl
    exact h

theorem avoids_addChild (hp : ¬S p) (hc : ¬S c) (slot : Option Int) :
    Avoids S (addChild p c slot) := by
  intro f g h
  refine (concludes_addChild g p c slot).mono ?_ ?_
  · rintro _ _ ⟨_, i, _, rfl⟩
    exact h.link hp hc i
  · rintro _ _ rfl
    exact h

theorem avoids_detach (hn : ¬S n) : Avoids S (detach n) := by
  intro f g h
  refine (concludes_detach g n).mono ?_ ?_
  · rintro _ _ (⟨_, rfl⟩ | ⟨p, hp, _, rfl⟩)
    · exact h
    · exact h.unlink (fun hS => hn (h.below n p hp hS)) hn
  · rintro _ _ rfl
    exact h

theorem avoids_addChildren (hp : ¬S p) {cs : List NodeId} (hcs : ∀ c ∈ cs, ¬S c) (slot : Nat) :
    Avoids S (addChildren p slot cs) := by
  induction cs generalizing slot with
  | nil => exact avoids_pure ()
  | cons c cs ih =>
      obtain ⟨hc, hcs⟩ := List.forall_mem_cons.mp hcs
      exact (avoids_addChild hp hc _).bind fun _ => ih hcs _

/-- Nothing is below a node of the set but nodes of the set, so the node above is not in it either. -/
theorem avoids_replaceWith (hn : ¬S n) {others : List NodeId} (hothers : ∀ c ∈ others, ¬S c) :
    Avoids S (replaceWith n others) := by
  intro f g h
  simp only [replaceWith]
  refine concludes_get_bind ?_
  cases hp : g.parent? n with
  | none => exact concludes_throw h
  | some p =>
      have hpS : ¬S p := fun hS => hn (h.below n p hp hS)
      refine (avoids_removeChild hpS hn).bind (fun i => ?_) f g h
      exact (avoids_addChildren hpS hothers i).bind fun _ => avoids_pure p

end Forest

namespace Surgery

variable {S : NodeId → Prop} {s s' : State} {n r : NodeId} {α β : Type}

theorem avoids_releaseAll (hn : ¬S n) {cs : List NodeId} (hcs : ∀ c ∈ cs, ¬S c) :
    Forest.Avoids S (releaseAll n cs) := by
  induction cs with
  | nil => exact Forest.avoids_pure ()
  | cons c cs ih =>
      obtain ⟨hc, hcs⟩ := List.forall_mem_cons.mp hcs
      exact (Forest.avoids_removeChild hn hc).bind fun _ => ih hcs

theorem avoids_transferAll {source dest : NodeId} (hsource : ¬S source) (hdest : ¬S dest)
    {cs : List NodeId} (hcs : ∀ c ∈ cs, ¬S c) : Forest.Avoids S (transferAll source dest cs) := by
  induction cs with
  | nil => exact Forest.avoids_pure ()
  | cons c cs ih =>
      obtain ⟨hc, hcs⟩ := List.forall_mem_cons.mp hcs
      refine (Forest.avoids_removeChild hsource hc).bind fun _ => ?_
      exact (Forest.avoids_addChild hdest hc none).bind fun _ => ih hcs

/-! ## Steps beside a set of nodes -/

/-- The root is the same and is in the set, and the nodes of the set are as they were. -/
structure State.Clear (s : State) (S : NodeId → Prop) (s' : State) : Prop where
  root_eq : s'.root = s.root
  root_mem : ∀ r, s.root = some r → S r
  forest : Forest.Clear S s.forest s'.forest

/-- Carried out to its end or not, the step keeps clear of the nodes of the set. -/
def Avoids (S : NodeId → Prop) (x : Surgery α) : Prop :=
  ∀ s s' : State, s.Clear S s' →
    Concludes s' x (fun _ s'' => s.Clear S s'') fun _ s'' => s.Clear S s''

theorem Avoids.bind {x : Surgery α} {k : α → Surgery β} (hx : Avoids S x)
    (hk : ∀ a, Avoids S (k a)) : Avoids S (x >>= k) :=
  fun s s' h => (hx s s' h).bind fun a s'' => hk a s s''

theorem avoids_edit {e : Forest.Edit α} (he : Forest.Avoids S e) : Avoids S (edit e) := by
  intro s s' h
  have hset : ∀ {f}, Forest.Clear S s.forest f → s.Clear S { s' with forest := f } :=
    fun hf => ⟨h.root_eq, h.root_mem, hf⟩
  exact concludes_edit (he s.forest s'.forest h.forest) (fun _ _ => hset) fun _ _ => hset

theorem avoids_supersede (hn : ¬S n) {others : List NodeId} (hothers : ∀ c ∈ others, ¬S c) :
    Avoids S (supersede n others) := by
  intro s s' h
  simp only [supersede]
  refine concludes_root_bind ?_
  split
  · rename_i hroot
    rw [h.root_eq, beq_iff_eq] at hroot
    exact absurd (h.root_mem n hroot) hn
  · refine (avoids_edit (Forest.avoids_replaceWith hn hothers)).bind (fun _ => ?_) s s' h
    exact fun _ _ h' => h'

theorem avoids_modify {g : State → State} (hroot : ∀ s, (g s).root = s.root)
    (hforest : ∀ s, (g s).forest = s.forest) : Avoids S (modify g) := by
  intro s s' h
  refine concludes_modify ⟨(hroot s').trans h.root_eq, h.root_mem, ?_⟩
  rw [hforest]
  exact h.forest

/-! ## The tree that hangs from the root -/

/-- The nodes of the tree that hangs from the root, if there is one. -/
def State.Standing (s : State) (n : NodeId) : Prop := ∃ r, s.root = some r ∧ s.forest.Covers r n

namespace State

variable {c p : NodeId}

theorem Standing.below (h : s.Standing p) (hc : s.forest.parent? c = some p) : s.Standing c := by
  obtain ⟨r, hr, hcov⟩ := h
  exact ⟨r, hr, .under hc hcov⟩

/-- The children of a node that does not stand in the tree do not stand there either, as the root is
nobody's child. -/
theorem Linked.standing_of_parent? (hs : s.Linked) (h : s.Standing c)
    (hp : s.forest.parent? c = some p) : s.Standing p := by
  obtain ⟨r, hr, hcov⟩ := h
  refine ⟨r, hr, hcov.parent ?_ hp⟩
  rintro rfl
  exact hs.ne_root hp hr

/-- What is above a node that stands in the tree stands there. -/
theorem Linked.standing_of_covers (hs : s.Linked) (h : s.Standing c) (hcov : s.forest.Covers p c) :
    s.Standing p := by
  induction hcov with
  | self => exact h
  | under hq _ ih => exact ih (hs.standing_of_parent? h hq)

theorem Linked.lt_size_of_standing (hs : s.Linked) (h : s.Standing n) : n < s.forest.size := by
  obtain ⟨r, hr, hcov⟩ := h
  exact hcov.lt_size (hs.root_top r hr).1

theorem clear_self (s : State) : s.Clear s.Standing s where
  root_eq := rfl
  root_mem r hr := ⟨r, hr, .self⟩
  forest := ⟨Nat.le_refl _, fun _ _ => rfl, fun _ _ hp h => h.below hp⟩

/-- New nodes are not below nodes that there were. -/
theorem Linked.clear_adds {f : Forest} {tops : List NodeId} (hs : s.Linked)
    (hadds : Forest.Adds none tops s.forest f) (hf : s'.forest = f) (hroot : s'.root = s.root) :
    s.Clear s.Standing s' where
  root_eq := hroot
  root_mem := s.clear_self.root_mem
  forest := by
    subst hf
    refine ⟨hadds.size_le, fun m hm => hadds.node_eq m (hs.lt_size_of_standing hm), ?_⟩
    intro c p hp hS
    by_cases hc : c < s.forest.size
    · rw [hadds.parent?_old hc] at hp
      exact hS.below hp
    · have hc := Nat.le_of_not_lt hc
      by_cases htop : c ∈ tops
      · rw [hadds.parent?_top c htop] at hp
        cases hp
      · obtain ⟨q, hq, _, hparent⟩ := hadds.parent?_new c htop hc (Forest.lt_size_of_parent? hp)
        rw [hp, Option.some.injEq] at hparent
        subst hparent
        exact absurd (hs.lt_size_of_standing hS) (Nat.not_lt_of_le hq)

end State

/-- Carried out to its end or not, the step leaves the tree that hangs from the root as it was. -/
def KeepsOff (s : State) (x : Surgery α) : Prop :=
  Concludes s x (fun _ s' => s.Clear s.Standing s') fun _ s' => s.Clear s.Standing s'

theorem Looks.bind_keepsOff {x : Surgery α} {k : α → Surgery β} (hx : Looks s x)
    (hk : ∀ a, KeepsOff s (k a)) : KeepsOff s (x >>= k) := hx.bind_concludes (fun _ => s.clear_self) hk

theorem dissolve_keepsOff (hs : s.Linked) (name : String) (hn : ¬s.Standing n) :
    KeepsOff s (dissolve name n) := by
  have hchildren : ∀ c ∈ s.forest.children n, ¬s.Standing c := fun c hc h =>
    hn (hs.standing_of_parent? h (hs.linked.mem_children.mp hc))
  simp only [dissolve]
  refine concludes_forest_bind (concludes_root_bind ?_)
  split
  · exact concludes_throw_bind s.clear_self
  · refine (avoids_edit (avoids_releaseAll hn hchildren)).bind (fun _ => ?_) s s s.clear_self
    exact avoids_supersede hn hchildren

theorem excise_keepsOff (hs : s.Linked) {outerName : String} (innerName : String)
    (hn : s.names.lookup outerName = some n) (hoff : ¬s.Standing n) :
    KeepsOff s (excise outerName innerName) := by
  simp only [excise]
  refine concludes_node_bind (fun _ => s.clear_self) fun outer houter => ?_
  rw [hn, Option.some.injEq] at houter
  subst houter
  refine (looks_node s innerName).bind_keepsOff fun inner => ?_
  refine ((concludes_checkNested s outerName innerName n inner).imp_error
    fun _ _ h => h.1 ▸ s.clear_self).bind ?_
  rintro _ _ ⟨rfl, hnested⟩
  refine concludes_forest_bind (concludes_root_bind ?_)
  split
  · exact concludes_throw_bind s.clear_self
  · split
    · rename_i heq
      exact dissolve_keepsOff hs innerName (eq_of_beq heq ▸ hoff)
    · have hinner : ¬s.Standing inner := fun h => by
        rcases hnested with rfl | habove
        · exact hoff h
        · exact hoff (hs.standing_of_covers h (Forest.covers_of_dominates habove))
      refine (avoids_edit (Forest.avoids_detach hinner)).bind (fun _ => ?_) s s s.clear_self
      exact avoids_supersede hoff (List.forall_mem_singleton.mpr hinner)

theorem replace_keepsOff (hs : s.Linked) {name : String} (source : Source)
    (hn : s.names.lookup name = some n) (hoff : ¬s.Standing n) :
    KeepsOff s (replace name source) := by
  simp only [replace]
  refine concludes_node_bind (fun _ => s.clear_self) fun n' hn' => ?_
  rw [hn, Option.some.injEq] at hn'
  subst hn'
  refine ((concludes_materialize s source).imp_error fun _ _ h => h.1 ▸ s.clear_self).bind ?_
  rintro copy s' ⟨hadds, hspared, _⟩
  have hclear := hs.clear_adds hadds rfl hspared.root_eq
  refine concludes_root_bind (concludes_forest_bind ?_)
  split
  · exact concludes_throw_bind hclear
  · refine avoids_supersede hoff (List.forall_mem_singleton.mpr fun h => ?_) s s' hclear
    exact absurd (hs.lt_size_of_standing h)
      (Nat.not_lt_of_le (hadds.tops_new copy (List.mem_singleton_self copy)).1)

theorem concludes_instantiate (s : State) (t : Template) : Concludes s (instantiate t)
    (fun copy s' => s' = { s with forest := s'.forest } ∧
      Forest.Adds none [copy.1] s.forest s'.forest ∧
      (copy.2.2.isSome ↔ ∃ path, t.foot = some path ∧ (t.tree.get? path).isSome) ∧
      ∀ foot, copy.2.2 = some foot → s.forest.size ≤ foot)
    fun _ _ => False := by
  rw [Concludes, ← runFrom, runFrom_instantiate]
  obtain ⟨_, hadds⟩ := s.forest.plant_adds t.tree
  refine ⟨rfl, hadds, ?_, fun foot hfoot => ?_⟩
  · cases hpath : t.foot with
    | none => simp
    | some path =>
        have hrel := (s.forest.hangs_plant t.tree).follow?_rel path
        show ((s.forest.plant t.tree).2.follow? (s.forest.plant t.tree).1 path).isSome ↔ _
        rw [Option.Rel.isSome_eq hrel]
        simp
  · obtain ⟨path, _, hfollow⟩ := Option.bind_eq_some_iff.mp hfoot
    exact s.forest.size_le_of_reaches_plant t.tree ⟨path, hfollow⟩

theorem adjoin_keepsOff (hs : s.Linked) (aux : Template) {name : String}
    (hn : s.names.lookup name = some n) (hoff : ¬s.Standing n) : KeepsOff s (adjoin aux name) := by
  have hnew : ∀ {m}, s.forest.size ≤ m → ¬s.Standing m := fun hle h =>
    Nat.not_lt_of_le hle (hs.lt_size_of_standing h)
  have hchildren : ∀ c ∈ s.forest.children n, ¬s.Standing c := fun c hc h =>
    hoff (hs.standing_of_parent? h (hs.linked.mem_children.mp hc))
  simp only [adjoin]
  refine concludes_node_bind (fun _ => s.clear_self) fun n' hn' => ?_
  rw [hn, Option.some.injEq] at hn'
  subst hn'
  refine concludes_root_bind (concludes_forest_bind ?_)
  split
  · exact concludes_throw_bind s.clear_self
  · refine ((concludes_instantiate s aux).imp_error fun _ _ h => h.elim).bind ?_
    rintro ⟨top, named, foot⟩ s' ⟨hs', hadds, _, hfoot⟩
    have hclear := hs.clear_adds hadds rfl (by rw [hs'])
    cases foot with
    | none => exact concludes_throw_bind hclear
    | some foot =>
        refine concludes_forest_bind ?_
        rw [hadds.children_old (hs.names_known name n hn)]
        refine (avoids_edit (avoids_transferAll hoff (hnew (hfoot foot rfl)) hchildren)).bind
          (fun _ => ?_) s s' hclear
        have htop := hnew (hadds.tops_new top (List.mem_singleton_self top)).1
        refine (avoids_supersede hoff (List.forall_mem_singleton.mpr htop)).bind fun _ => ?_
        exact avoids_modify (fun s => s.root_bindAll named) fun s => s.forest_bindAll named

end Surgery

/-! ## Outcomes -/

/-- The name of the node that the statement puts something else in the place of. -/
def Statement.superseded? : Statement → Option String
  | excise outer _ => some outer
  | replace target _ => some target
  | adjoin _ name => some name
  | _ => none

open Surgery

/-- What the statement needs besides the node `n`, to put something in its place: the node that is to
stay is below it, the node to be copied is known, the tree to be adjoined has a foot. -/
def Statement.Supplied (s : State) (n : NodeId) : Statement → Prop
  | excise _ inner => ∃ m, s.names.lookup inner = some m ∧ s.forest.Covers n m
  | replace _ (.node name) => ∃ m, s.names.lookup name = some m
  | adjoin aux _ => ∃ path, aux.foot = some path ∧ (aux.tree.get? path).isSome
  | _ => True

namespace Surgery

variable {s s₀ : State} {n : NodeId} {ready : Prop} {α : Type}

/-- A failure on the node `n`: if the node is cut off, it is reported with its place, or a walk goes on
for ever; and it is for this or for the lack of something else that the statement needs. -/
structure State.Refuses (s : State) (n : NodeId) (ready : Prop) (e : Error) : Prop where
  placed : s.forest.parent? n = none →
    (Fault.surgery e).isPlaced = true ∨ e = .endless ∧ ¬s.forest.WellFormed
  reason : s.forest.WellFormed → e.Expected → s.forest.parent? n = none ∨ ¬ready

/-- The step comes to its end if the node has a parent and all is ready, and fails if not. -/
def Decides (s₀ : State) (n : NodeId) (ready : Prop) (s : State) (x : Surgery α) : Prop :=
  Concludes s x (fun _ _ => s₀.forest.parent? n ≠ none ∧ ready) fun e _ => s₀.Refuses n ready e

theorem Bare.decides {x : Surgery α} (hx : Bare x) (hn : s₀.forest.parent? n ≠ none)
    (hready : ready) : Decides s₀ n ready s x :=
  (hx s).mono (fun _ _ _ => ⟨hn, hready⟩) fun _ _ hne =>
    ⟨fun htop => absurd htop hn, fun _ he => absurd he hne⟩

theorem State.refuses_of_not_ready {e : Error} (he : (Fault.surgery e).isPlaced = true)
    (hready : s.forest.WellFormed → ¬ready) : s.Refuses n ready e :=
  ⟨fun _ => Or.inl he, fun hwf _ => Or.inr (hready hwf)⟩

theorem State.refuses_endless (h : ¬s.forest.WellFormed) : s.Refuses n ready .endless :=
  ⟨fun _ => Or.inr ⟨rfl, h⟩, fun hwf => absurd hwf h⟩

theorem State.refuses_cutOff (name : String) (h : s.forest.parent? n = none) :
    s.Refuses n ready (.cutOff name) := ⟨fun _ => Or.inl rfl, fun _ _ => Or.inl h⟩

theorem dissolve_decides (name : String) (hroot : s.root ≠ some n) (hn : s.forest.parent? n ≠ none)
    (hready : ready) : Decides s n ready s (dissolve name n) := by
  simp only [dissolve]
  refine concludes_forest_bind (concludes_root_bind ?_)
  split
  · rename_i hcond
    simp only [Bool.and_eq_true, beq_iff_eq] at hcond
    exact absurd hcond.1 hroot
  · exact ((bare_edit _).bind fun _ => bare_supersede _ _).decides hn hready

theorem excise_decides (hs : s.Linked) {outerName innerName : String}
    (hn : s.names.lookup outerName = some n) (hroot : s.root ≠ some n) :
    Decides s n ((Statement.excise outerName innerName).Supplied s n) s
      (excise outerName innerName) := by
  simp only [excise]
  refine concludes_node_bind (fun hnone => by simp [hn] at hnone) fun outer houter => ?_
  rw [hn, Option.some.injEq] at houter
  subst houter
  refine concludes_node_bind (fun hnone => State.refuses_of_not_ready rfl fun _ => ?_)
    fun inner hinner => ?_
  · rintro ⟨m, hm, _⟩
    simp [hnone] at hm
  refine ((concludes_checkNested s outerName innerName n inner).imp_error ?_).bind ?_
  · rintro e _ ⟨rfl, ⟨hne, hbeside, rfl⟩ | ⟨rfl, hendless⟩⟩
    · refine State.refuses_of_not_ready rfl fun hwf => ?_
      rintro ⟨m, hm, hcov⟩
      rw [hinner, Option.some.injEq] at hm
      subst hm
      rw [hwf.dominates_iff.mpr ⟨hcov, hne⟩] at hbeside
      cases hbeside
    · refine State.refuses_endless fun hwf => ?_
      rw [hwf.not_endlessAbove (hs.names_known innerName inner hinner)] at hendless
      cases hendless
  rintro _ _ ⟨rfl, hnested⟩
  refine concludes_forest_bind (concludes_root_bind ?_)
  split
  · rename_i hcut
    simp only [Bool.and_eq_true, Option.isNone_iff_eq_none] at hcut
    exact concludes_throw_bind (State.refuses_cutOff _ hcut.1)
  rename_i hcut
  simp only [Bool.and_eq_true, Option.isNone_iff_eq_none, bne_iff_ne, not_and, not_not] at hcut
  have hparent : s.forest.parent? n ≠ none := fun h => hroot (hcut h)
  split
  · rename_i heq
    obtain rfl := eq_of_beq heq
    exact dissolve_decides _ hroot hparent ⟨n, hinner, .self⟩
  · rename_i hne
    have habove := hnested.resolve_left (by simpa using hne)
    exact ((bare_edit _).bind fun _ => bare_supersede _ _).decides hparent
      ⟨inner, hinner, Forest.covers_of_dominates habove⟩

theorem replace_decides (hs : s.Linked) {name : String} (source : Source)
    (hn : s.names.lookup name = some n) (hroot : s.root ≠ some n) :
    Decides s n ((Statement.replace name source).Supplied s n) s (replace name source) := by
  simp only [replace]
  refine concludes_node_bind (fun hnone => by simp [hn] at hnone) fun n' hn' => ?_
  rw [hn, Option.some.injEq] at hn'
  subst hn'
  refine ((concludes_materialize s source).imp_error ?_).bind ?_
  · rintro e _ ⟨rfl, other, m, rfl, ⟨hm, rfl⟩ | ⟨hm, hendless, rfl⟩⟩
    · refine State.refuses_of_not_ready rfl fun _ => ?_
      rintro ⟨k, hk⟩
      simp [hm] at hk
    · refine State.refuses_endless fun hwf => ?_
      rw [hwf.not_endlessBelow (hs.names_known other m hm)] at hendless
      cases hendless
  rintro copy s' ⟨hadds, hspared, hknown⟩
  have hready : (Statement.replace name source).Supplied s n := by
    cases source with
    | node other => exact hknown other rfl
    | template t => trivial
  refine concludes_root_bind (concludes_forest_bind ?_)
  rw [hspared.root_eq, hadds.parent?_old (hs.names_known name n hn)]
  split
  · rename_i hcut
    simp only [Bool.and_eq_true, Option.isNone_iff_eq_none] at hcut
    exact concludes_throw_bind (State.refuses_cutOff _ hcut.2)
  · rename_i hcut
    simp only [Bool.and_eq_true, Option.isNone_iff_eq_none, bne_iff_ne, not_and] at hcut
    exact (bare_supersede _ _).decides (hcut hroot) hready

theorem adjoin_decides (aux : Template) {name : String} (hn : s.names.lookup name = some n)
    (hroot : s.root ≠ some n) :
    Decides s n ((Statement.adjoin aux name).Supplied s n) s (adjoin aux name) := by
  simp only [adjoin]
  refine concludes_node_bind (fun hnone => by simp [hn] at hnone) fun n' hn' => ?_
  rw [hn, Option.some.injEq] at hn'
  subst hn'
  refine concludes_root_bind (concludes_forest_bind ?_)
  split
  · rename_i hcut
    simp only [Bool.and_eq_true, Option.isNone_iff_eq_none] at hcut
    exact concludes_throw_bind (State.refuses_cutOff _ hcut.2)
  rename_i hcut
  simp only [Bool.and_eq_true, Option.isNone_iff_eq_none, bne_iff_ne, not_and] at hcut
  have hparent := hcut hroot
  refine ((concludes_instantiate s aux).imp_error fun _ _ h => h.elim).bind ?_
  rintro ⟨top, named, foot⟩ s' ⟨_, _, hready, _⟩
  cases foot with
  | none =>
      refine concludes_throw_bind ⟨fun htop => absurd htop hparent, fun _ _ => Or.inr fun h => ?_⟩
      exact absurd (hready.mpr h) Bool.false_ne_true
  | some foot =>
      refine concludes_forest_bind (Bare.decides ?_ hparent (hready.mp rfl))
      exact (bare_edit _).bind fun _ => (bare_supersede _ _).bind fun _ => bare_modify _

end Surgery

section
variable {s : State} {st : Statement} {name : String} {n r : NodeId}

theorem Statement.apply_keepsOff (hs : s.Linked) (hst : st.superseded? = some name)
    (hn : s.names.lookup name = some n) (hoff : ¬s.Standing n) : KeepsOff s st.apply := by
  cases st <;> cases hst
  · exact excise_keepsOff hs _ hn hoff
  · exact replace_keepsOff hs _ hn hoff
  · exact adjoin_keepsOff hs _ hn hoff

theorem Statement.apply_decides (hs : s.Linked) (hst : st.superseded? = some name)
    (hn : s.names.lookup name = some n) (hroot : s.root ≠ some n) :
    Decides s n (st.Supplied s n) s st.apply := by
  cases st <;> cases hst
  · exact excise_decides hs hn hroot
  · exact replace_decides hs _ hn hroot
  · exact adjoin_decides _ hn hroot

theorem Statement.separate_of_superseded? (hst : st.superseded? = some name) : st.Separate := by
  cases st <;> cases hst <;> trivial

/-- What hangs from the root is the same tree as before. -/
theorem Surgery.State.Clear.tree?_eq {s' : State} (h : s.Clear s.Standing s') (hs : s.Linked) :
    s'.tree? = s.tree? := by
  rw [State.tree?, State.tree?, h.root_eq]
  refine Option.map_congr fun r hr => ?_
  obtain ⟨hlt, htop⟩ := hs.root_top r hr
  have htree := hs.linked.treeAt hlt htop
  refine (htree.congr h.forest.size_le fun m hm => h.forest.node_eq m ⟨r, hr, ?_⟩).tree_eq
  exact hm.of_closed .self fun p hp c hc => .under (hs.linked.mem_children.mp hc) hp

end

/-- A statement that puts something in the place of a node, which does not stand in the tree that hangs
from the root: after whatever statements, this tree is left as it is. The statement fails if the node is
cut off. But if the node hangs below another one, it is carried out there, provided that all the rest
that it needs is there. -/
theorem Statement.detached_outcome {s₀ : State} (hs₀ : s₀.Linked) (sts : List Statement)
    (st : Statement) {name : String} {n r : NodeId} (hst : st.superseded? = some name)
    (hr : (s₀.run sts).root = some r) (hn : (s₀.run sts).names.lookup name = some n)
    (hoff : ¬(s₀.run sts).forest.Covers r n) :
    let s := s₀.run sts
    let o := runFrom s st.apply
    (o.2.root = some r ∧ (∀ m, s.forest.Covers r m → o.2.forest.node m = s.forest.node m) ∧
      o.2.tree? = s.tree?) ∧
    (s.forest.parent? n = none → ∃ e, o.1 = .error e ∧
      ((Fault.surgery e).isPlaced = true ∨ e = .endless ∧ ¬s.forest.WellFormed)) ∧
    (s.forest.WellFormed → (o.1 = .ok () ↔ s.forest.parent? n ≠ none ∧ st.Supplied s n)) := by
  intro s o
  have hs : s.Linked := hs₀.run sts
  have hoff' : ¬s.Standing n := by
    rintro ⟨r', hr', hcov⟩
    rw [hr, Option.some.injEq] at hr'
    exact hoff (hr' ▸ hcov)
  have hroot : s.root ≠ some n := fun heq => hoff' ⟨n, heq, .self⟩
  have hclear : s.Clear s.Standing o.2 := (st.apply_keepsOff hs hst hn hoff').after
  refine ⟨⟨hclear.root_eq.trans hr, fun m hm => hclear.forest.node_eq m ⟨r, hr, hm⟩,
    hclear.tree?_eq hs⟩, ?_⟩
  obtain ⟨hdone, hfailed⟩ := concludes_iff.mp (st.apply_decides hs hst hn hroot)
  rcases ho : runFrom s st.apply with ⟨e | _, s'⟩
  · have hrefuses := hfailed e s' ho
    refine ⟨fun htop => ⟨e, congrArg Prod.fst ho, hrefuses.placed htop⟩, fun hwf => ?_⟩
    have hsound : s.Sound := ⟨hwf, hs.root_top, hs.names_known⟩
    have hexpected := (st.apply_meets hsound (separate_of_superseded? hst)).expected
      (congrArg Prod.fst ho)
    refine ⟨fun hok => ?_, fun h => ?_⟩
    · have hfst : o.1 = .error e := congrArg Prod.fst ho
      rw [hfst] at hok
      cases hok
    · exact ((hrefuses.reason hwf hexpected).elim h.1 fun hready => hready h.2).elim
  · have hall := hdone () s' ho
    exact ⟨fun htop => absurd htop hall.1, fun _ => ⟨fun _ => hall, fun _ => congrArg Prod.fst ho⟩⟩

/-- A phrase has been deleted. The word in it still has a parent, so it is replaced all the same, which
the tree does not show. -/
theorem Statement.replaced_below_deleted :
    let np := Tree.node "NP" [.node "DT" [.node "the" []]]
    let t := Tree.node "S" [np, .node "VP" [.node "ran" []]]
    let s₀ := State.start t
      [("np", ⟨np, [(0, t)]⟩), ("dt", ⟨.node "DT" [.node "the" []], [(0, np), (0, t)]⟩)]
    let s := s₀.run [.delete ["np"]]
    let st : Statement := .replace "dt" (.template ⟨.node "X" [.node "y" []], [], none, "(X y)"⟩)
    Statement.read "delete np" = .ok (.delete ["np"]) ∧ Statement.read "replace dt (X y)" = .ok st ∧
      s.root = some 0 ∧ s.names.lookup "dt" = some 2 ∧ ¬s.forest.Covers 0 2 ∧
      (runFrom s st.apply).1 = .ok () := by
  intro np t s₀ s st
  have hsound : s.Sound := (State.sound_start t _).run [.delete ["np"]] fun _ h =>
    List.mem_singleton.mp h ▸ trivial
  refine ⟨by decide +kernel, by decide +kernel, by decide +kernel, by decide +kernel, ?_,
    by decide +kernel⟩
  rw [← hsound.wellFormed.spans_iff]
  decide +kernel

/-- The deleted phrase itself is not replaced, and what hangs from the root is not touched. -/
theorem Statement.detached_outcome_of_deleted :
    let np := Tree.node "NP" [.node "DT" [.node "the" []]]
    let t := Tree.node "S" [np, .node "VP" [.node "ran" []]]
    let s := (State.start t [("np", ⟨np, [(0, t)]⟩)]).run [.delete ["np"]]
    let st : Statement := .replace "np" (.template ⟨.node "X" [.node "y" []], [], none, "(X y)"⟩)
    ¬s.forest.Covers 0 1 ∧ (runFrom s st.apply).2.tree? = s.tree? ∧
      ∃ e, (runFrom s st.apply).1 = .error e ∧
        ((Fault.surgery e).isPlaced = true ∨ e = .endless ∧ ¬s.forest.WellFormed) := by
  intro np t s st
  have hsound : s.Sound := (State.sound_start t _).run [.delete ["np"]] fun _ h =>
    List.mem_singleton.mp h ▸ trivial
  have hroot : s.root = some 0 := by decide +kernel
  have hname : s.names.lookup "np" = some 1 := by decide +kernel
  have hoff : ¬s.forest.Covers 0 1 := by
    rw [← hsound.wellFormed.spans_iff]
    decide +kernel
  have houtcome := Statement.detached_outcome (State.linked_start t [("np", ⟨np, [(0, t)]⟩)])
    [.delete ["np"]] st rfl hroot hname hoff
  exact ⟨hoff, houtcome.1.2.2, houtcome.2.1 (by decide +kernel)⟩

end Treebank
