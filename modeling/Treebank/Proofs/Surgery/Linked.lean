import Treebank.Proofs.Forest.Linked
import Treebank.Proofs.Surgery.Run

/-!
# All statements keep a forest linked

Whatever statements are carried out, failed ones and insertions that put a node below itself among them,
they leave a linked forest behind with the root on top. So nothing that hangs from the root is above
itself.
-/

namespace Treebank.Surgery

variable {α β : Type} {s s' : State} {n : NodeId} {f : Forest} {cs : List NodeId}

/-! ## Linked states -/

/-- The forest is linked, the root is one of its topmost nodes, and names stand for nodes of it. -/
structure State.Linked (s : State) : Prop where
  linked : s.forest.Linked
  root_top : ∀ r, s.root = some r → r < s.forest.size ∧ s.forest.parent? r = none
  names_known : ∀ name n, s.names.lookup name = some n → n < s.forest.size

namespace State

theorem Linked.setRoot {root : Option NodeId} (h : s.Linked)
    (hroot : ∀ r, root = some r → r < s.forest.size ∧ s.forest.parent? r = none) :
    { s with root := root : State }.Linked := ⟨h.linked, hroot, h.names_known⟩

theorem Linked.shifts (h : s.Linked) (hshifts : Forest.Shifts cs s.forest f)
    (hroot : ∀ c ∈ cs, s.root ≠ some c) : { s with forest := f : State }.Linked where
  linked := hshifts.linked
  root_top r hr := by
    obtain ⟨hlt, htop⟩ := h.root_top r hr
    exact ⟨hshifts.size_eq ▸ hlt, hshifts.parent?_top r (fun hmem => hroot r hmem hr) htop⟩
  names_known name n hn := hshifts.size_eq ▸ h.names_known name n hn

theorem Linked.adds {tops : List NodeId} (h : s.Linked)
    (hadds : Forest.Adds none tops s.forest f) : { s with forest := f : State }.Linked where
  linked := h.linked.adds hadds
  root_top r hr := by
    obtain ⟨hlt, htop⟩ := h.root_top r hr
    exact ⟨Nat.lt_of_lt_of_le hlt hadds.size_le, (hadds.parent?_old hlt).trans htop⟩
  names_known name n hn := Nat.lt_of_lt_of_le (h.names_known name n hn) hadds.size_le

theorem Linked.bindAll {named : List (String × NodeId)} (h : s.Linked)
    (hnamed : ∀ e ∈ named, e.2 < s.forest.size) : (s.bindAll named).Linked where
  linked := by
    rw [forest_bindAll]
    exact h.linked
  root_top := by
    rw [forest_bindAll, root_bindAll]
    exact h.root_top
  names_known name n hn := by
    rw [forest_bindAll]
    rcases s.lookup_bindAll named name with hsame | ⟨m, hmem, hm⟩
    · exact h.names_known name n (hsame ▸ hn)
    · rw [hm] at hn
      exact Option.some.inj hn ▸ hnamed _ hmem

theorem Linked.setLabel (h : s.Linked) (n : NodeId) (label : String) :
    { s with forest := s.forest.setLabel n label : State }.Linked where
  linked := h.linked.setLabel n label
  root_top r hr := by simpa using h.root_top r hr
  names_known name m hm := by simpa using h.names_known name m hm

/-- A node that has a parent is not the root. -/
theorem Linked.ne_root {p : NodeId} (h : s.Linked) (hp : s.forest.parent? n = some p) :
    s.root ≠ some n := by
  intro hroot
  rw [(h.root_top n hroot).2] at hp
  cases hp

/-- The top of a tree that has been added is not the root. -/
theorem Linked.ne_root_of_adds {tops : List NodeId} (h : s.Linked)
    (hadds : Forest.Adds none tops s.forest f) : ∀ c ∈ tops, s.root ≠ some c := by
  intro c hc hroot
  exact absurd (h.root_top c hroot).1 (Nat.not_lt_of_le (hadds.tops_new c hc).1)

theorem linked_within {top : NodeId} (hf : f.Linked) (hlt : top < f.size)
    (htop : f.parent? top = none) (b : Bindings) : (State.within f top b).Linked := by
  refine ⟨hf, ?_, fun name n hn => (covers_of_lookup_within hf hn).lt_size hlt⟩
  rintro r hr
  cases hr
  exact ⟨hlt, htop⟩

end State

/-! ## Looking at the state -/

/-- The step comes to its end as told, or it fails and leaves a linked state behind. -/
abbrev Leaves (s : State) (x : Surgery α) (Q : α → State → Prop) : Prop :=
  Concludes s x Q fun _ s' => s'.Linked

theorem leaves_node_bind {name : String} {g : NodeId → Surgery β} {R : β → State → Prop}
    (hs : s.Linked) (h : ∀ n < s.forest.size, Leaves s (g n) R) : Leaves s (node name >>= g) R :=
  concludes_node_bind (fun _ => hs) fun n hn => h n (hs.names_known name n hn)

/-- An edit that shifts no node that is the root, carried out to its end or not. -/
theorem leaves_edit {e : Forest.Edit α} {P : α → Forest → Prop} {Q : α → State → Prop}
    (hs : s.Linked) (hroot : ∀ c ∈ cs, s.root ≠ some c)
    (h : Concludes s.forest e P fun _ f => Forest.Shifts cs s.forest f)
    (hQ : ∀ a f, P a f → Q a { s with forest := f }) : Leaves s (edit e) Q :=
  concludes_edit h hQ fun _ _ hshifts => hs.shifts hshifts hroot

theorem concludes_isAbove (s : State) (a b : NodeId) : Concludes s (isAbove a b)
    (fun above s' => s = s' ∧ above = s.forest.dominates a b)
    fun e s' => s = s' ∧ e = .endless ∧ s.forest.endlessAbove b = true := by
  rw [Concludes, ← runFrom, runFrom_isAbove]
  cases s.forest.dominates a b with
  | true => exact ⟨rfl, rfl⟩
  | false =>
      cases hendless : s.forest.endlessAbove b with
      | true => exact ⟨rfl, rfl, rfl⟩
      | false => exact ⟨rfl, rfl⟩

theorem concludes_checkNested (s : State) (outerName innerName : String) (outer inner : NodeId) :
    Concludes s (checkNested outerName innerName outer inner)
      (fun _ s' => s = s' ∧ (outer = inner ∨ s.forest.dominates outer inner = true))
      fun e s' => s = s' ∧ ((outer ≠ inner ∧ s.forest.dominates outer inner = false ∧
        e = .notAbove outerName innerName) ∨ e = .endless ∧ s.forest.endlessAbove inner = true) := by
  simp only [checkNested]
  split
  · rename_i heq
    exact concludes_pure ⟨rfl, Or.inl (eq_of_beq heq)⟩
  · rename_i hne
    refine ((concludes_isAbove s outer inner).imp_error fun _ _ h => ⟨h.1, Or.inr h.2⟩).bind ?_
    rintro above _ ⟨rfl, rfl⟩
    split
    · rename_i habove
      exact concludes_pure ⟨rfl, Or.inr habove⟩
    · rename_i habove
      exact concludes_throw ⟨rfl, Or.inl ⟨by simpa using hne, Bool.eq_false_iff.mpr habove, rfl⟩⟩

theorem concludes_checkOutside (s : State) (name : String) (n t : NodeId) :
    Concludes s (checkOutside name n t)
      (fun _ s' => s = s' ∧ t ≠ n ∧ s.forest.dominates n t = false)
      fun e s' => s = s' ∧ (e = .movesIntoSelf name ∨ e = .endless) := by
  simp only [checkOutside]
  split
  · exact concludes_throw_bind ⟨rfl, Or.inl rfl⟩
  · rename_i hne
    refine ((concludes_isAbove s n t).imp_error fun _ _ h => ⟨h.1, Or.inr h.2.1⟩).bind ?_
    rintro above _ ⟨rfl, rfl⟩
    split
    · exact concludes_throw ⟨rfl, Or.inl rfl⟩
    · rename_i habove
      exact concludes_pure ⟨rfl, by simpa using hne, Bool.eq_false_iff.mpr habove⟩

theorem concludes_targetOf (s : State) (p : Place) : Concludes s (targetOf p)
    (fun t s' => s = s' ∧ s.names.lookup p.target = some t ∧
      (p.index? = none → (s.forest.parent? t).isSome))
    fun e s' => s = s' ∧ (e = .unbound p.target ∨ e = .sisterOfRoot p.target) := by
  simp only [targetOf]
  refine concludes_node_bind (fun _ => ⟨rfl, Or.inl rfl⟩) fun t ht => ?_
  split
  · exact concludes_pure ⟨rfl, ht, by simp [Place.index?]⟩
  · refine concludes_forest_bind ?_
    split
    · exact concludes_throw_bind ⟨rfl, Or.inr rfl⟩
    · rename_i hparent
      exact concludes_pure ⟨rfl, ht, fun _ => by simpa [Option.isSome_iff_ne_none] using hparent⟩

/-! ## Taking nodes out -/

theorem leaves_remove (hs : s.Linked) (n : NodeId) : Leaves s (remove n) fun _ s' => s'.Linked := by
  simp only [remove]
  refine concludes_root_bind ?_
  split
  · refine Concludes.bind (Q := fun _ s' => s'.Linked) ?_ fun _ _ hs' => concludes_pure hs'
    exact concludes_modify (hs.setRoot (by simp))
  · refine concludes_forest_bind ?_
    split
    · exact concludes_pure hs
    · rename_i p _
      have hnone := List.forall_mem_nil fun c => s.root ≠ some c
      refine (leaves_edit hs hnone (hs.linked.concludes_removeChild p n) (Q := fun _ s' => s'.Linked)
        ?_).bind fun _ _ hs' => concludes_pure hs'
      exact fun _ _ h => hs.shifts h.1 hnone

theorem leaves_removeEmptied (fuel : Nat) (hs : s.Linked) (n : NodeId) :
    Leaves s (removeEmptied fuel n) fun _ s' => s'.Linked := by
  induction fuel generalizing s n with
  | zero => exact concludes_pure hs
  | succ fuel ih =>
      simp only [removeEmptied]
      refine concludes_root_bind (concludes_forest_bind ?_)
      split
      · exact concludes_pure hs
      · refine (leaves_remove hs n).bind fun above s' hs' => ?_
        cases above with
        | none => exact concludes_pure hs'
        | some p => exact ih hs' p

theorem leaves_deleteAll (names : List String) (hs : s.Linked) :
    Leaves s (deleteAll names) fun _ s' => s'.Linked := by
  induction names generalizing s with
  | nil => exact concludes_pure hs
  | cons name names ih =>
      simp only [deleteAll]
      refine leaves_node_bind hs fun n _ => (leaves_remove hs n).bind fun _ s' hs' => ?_
      refine concludes_root_bind ?_
      split
      · exact concludes_pure hs'
      · exact ih hs'

theorem leaves_pruneAll (names : List String) (hs : s.Linked) :
    Leaves s (pruneAll names) fun _ s' => s'.Linked := by
  induction names generalizing s with
  | nil => exact concludes_pure hs
  | cons name names ih =>
      simp only [pruneAll]
      refine leaves_node_bind hs fun n _ => (leaves_remove hs n).bind fun above s' hs' => ?_
      refine concludes_root_bind ?_
      split
      · exact concludes_pure hs'
      · cases above with
        | none => exact ih hs'
        | some p =>
            exact concludes_forest_bind ((leaves_removeEmptied _ hs' p).bind fun _ _ hs'' => ih hs'')

/-! ## Taking the slot of a node -/

theorem concludes_releaseAll {p : NodeId} (cs : List NodeId) (hf : f.Linked) :
    Concludes f (releaseAll p cs)
      (fun _ f' => Forest.Shifts [] f f' ∧ ∀ c ∈ cs, f'.parent? c = none)
      fun _ f' => Forest.Shifts [] f f' := by
  induction cs generalizing f with
  | nil => exact concludes_pure ⟨hf.shifts [], List.forall_mem_nil _⟩
  | cons c cs ih =>
      simp only [releaseAll]
      refine (hf.concludes_removeChild p c).bind fun _ f' h => ?_
      refine (ih h.1.linked).mono (fun _ f'' h' => ⟨h.1.trans h'.1, ?_⟩) fun _ _ => h.1.trans
      exact List.forall_mem_cons.mpr ⟨h'.1.parent?_top c List.not_mem_nil h.2, h'.2⟩

theorem leaves_supersede (others : List NodeId) (hs : s.Linked) (n : NodeId)
    (hsize : ∀ c ∈ others, c < s.forest.size) (htop : ∀ c ∈ others, s.forest.parent? c = none)
    (hroot : ∀ c ∈ others, s.root ≠ some c) : Leaves s (supersede n others) fun _ s' =>
      s'.Linked ∧ s'.forest.size = s.forest.size := by
  simp only [supersede]
  refine concludes_root_bind ?_
  split
  · refine concludes_modify ⟨hs.setRoot fun r hr => ?_, rfl⟩
    have hmem := List.mem_of_mem_head? hr
    exact ⟨hsize r hmem, htop r hmem⟩
  · refine (leaves_edit hs hroot (hs.linked.concludes_replaceWith n others hsize)
      (Q := fun _ s' => s'.Linked ∧ s'.forest.size = s.forest.size) ?_).bind
      fun _ _ h => concludes_pure h
    exact fun _ _ h => ⟨hs.shifts h hroot, h.size_eq⟩

theorem leaves_dissolve (name : String) (hs : s.Linked) (n : NodeId) :
    Leaves s (dissolve name n) fun _ s' => s'.Linked := by
  simp only [dissolve]
  refine concludes_forest_bind (concludes_root_bind ?_)
  split
  · exact concludes_throw_bind hs
  · have hchild : ∀ c ∈ s.forest.children n, s.forest.parent? c = some n :=
      fun c hc => hs.linked.mem_children.mp hc
    refine (leaves_edit hs (List.forall_mem_nil _) (concludes_releaseAll (s.forest.children n) hs.linked)
      (Q := fun _ s' => ∃ f, s' = { s with forest := f } ∧ Forest.Shifts [] s.forest f ∧
        ∀ c ∈ s.forest.children n, f.parent? c = none) fun _ f h => ⟨f, rfl, h⟩).bind ?_
    rintro _ _ ⟨f, rfl, hshifts, htop⟩
    refine (leaves_supersede _ (hs.shifts hshifts (List.forall_mem_nil _)) n (fun c hc => ?_) htop
      fun c hc => hs.ne_root (hchild c hc)).imp fun _ _ h => h.1
    exact hshifts.size_eq ▸ Forest.lt_size_of_parent? (hchild c hc)

theorem leaves_excise (outerName innerName : String) (hs : s.Linked) :
    Leaves s (excise outerName innerName) fun _ s' => s'.Linked := by
  simp only [excise]
  refine leaves_node_bind hs fun outer _ => leaves_node_bind hs fun inner hinner => ?_
  refine ((concludes_checkNested s outerName innerName outer inner).imp_error
    fun _ _ hsame => hsame.1 ▸ hs).bind ?_
  rintro _ _ ⟨rfl, hnested⟩
  refine concludes_forest_bind (concludes_root_bind ?_)
  split
  · exact concludes_throw_bind hs
  · split
    · exact leaves_dissolve innerName hs inner
    · rename_i hne
      have hdominates := hnested.resolve_left (by simpa using hne)
      obtain ⟨p, hp, _⟩ := Forest.exists_parent?_of_mem_ancestorsUpTo
        (List.contains_iff_mem.mp hdominates)
      refine (leaves_edit hs (List.forall_mem_nil _) (hs.linked.concludes_detach inner)
        (Q := fun _ s' => ∃ f, s' = { s with forest := f } ∧ Forest.Shifts [] s.forest f ∧
          f.parent? inner = none) fun _ f h => ⟨f, rfl, h⟩).bind ?_
      rintro _ _ ⟨f, rfl, hshifts, htop⟩
      refine (leaves_supersede [inner] (hs.shifts hshifts (List.forall_mem_nil _)) outer ?_ ?_ ?_).imp
        fun _ _ h => h.1
      · simpa [hshifts.size_eq] using hinner
      · simpa using htop
      · simpa using hs.ne_root hp

/-! ## Putting nodes in -/

theorem leaves_targetOf_bind {p : Place} {g : NodeId → Surgery β} {R : β → State → Prop}
    (hs : s.Linked) (h : ∀ t < s.forest.size, Leaves s (g t) R) :
    Leaves s (targetOf p >>= g) R := by
  refine ((concludes_targetOf s p).imp_error fun _ _ hsame => hsame.1 ▸ hs).bind ?_
  rintro t _ ⟨rfl, ht, _⟩
  exact h t (hs.names_known _ t ht)

theorem leaves_putAt {p : Place} (hs : s.Linked) (hn : n < s.forest.size)
    (hroot : s.root ≠ some n) : Leaves s (putAt n p) fun _ s' => s'.Linked := by
  have hput : ∀ {f : Forest}, Forest.Shifts [n] s.forest f → { s with forest := f : State }.Linked :=
    fun h => hs.shifts h (by simpa using hroot)
  simp only [putAt]
  refine leaves_targetOf_bind hs fun t ht => concludes_forest_bind ?_
  split
  · split
    · exact concludes_throw_bind hs
    · exact concludes_edit (hs.linked.concludes_addChild hn ht _) (fun _ _ => hput) fun _ _ => hput
  · cases hp : s.forest.parent? t with
    | none => exact concludes_throw hs
    | some q =>
        refine concludes_edit (P := fun _ f => Forest.Shifts [n] s.forest f)
          (G := fun _ f => Forest.Shifts [n] s.forest f) ?_ (fun _ _ => hput) fun _ _ => hput
        refine ((Forest.concludes_childIndex s.forest q t).imp_error
          fun _ _ hsame => hsame ▸ hs.linked.shifts [n]).bind ?_
        rintro i _ ⟨rfl, _⟩
        exact hs.linked.concludes_addChild hn (hs.linked.parent_lt_size hp) _

theorem leaves_instantiate (t : Template) (hs : s.Linked) :
    Leaves s (instantiate t) fun copy s' => Forest.Adds none [copy.1] s.forest s'.forest ∧
      s' = { s with forest := s'.forest } ∧ (∀ e ∈ copy.2.1, e.2 < s'.forest.size) ∧
      ∀ foot, copy.2.2 = some foot → foot < s'.forest.size := by
  rw [Leaves, Concludes, ← runFrom, runFrom_instantiate]
  obtain ⟨_, hadds⟩ := s.forest.plant_adds t.tree
  have hlinked := hs.linked.adds hadds
  have htop := (hadds.tops_new _ (List.mem_singleton_self _)).2
  refine ⟨hadds, rfl, fun e he => (covers_of_mem_namedNodes hlinked he).lt_size htop, ?_⟩
  intro foot hfoot
  obtain ⟨path, _, hfollow⟩ := Option.bind_eq_some_iff.mp hfoot
  exact (hlinked.covers_follow? path hfollow).lt_size htop

theorem leaves_materialize (source : Source) (hs : s.Linked) :
    Leaves s (materialize source) fun copy s' => s'.Linked ∧ s'.root = s.root ∧
      Forest.Adds none [copy] s.forest s'.forest := by
  cases source with
  | node name =>
      simp only [materialize]
      refine leaves_node_bind hs fun n _ => ?_
      rw [Leaves, Concludes, ← runFrom, runFrom_duplicate]
      cases s.forest.endlessBelow n with
      | true => exact hs
      | false =>
          obtain ⟨_, hadds⟩ := s.forest.plant_adds (s.forest.tree n)
          exact ⟨hs.adds hadds, rfl, hadds⟩
  | template t =>
      simp only [materialize]
      refine (leaves_instantiate t hs).bind ?_
      rintro ⟨top, named, foot⟩ s' ⟨hadds, hs', hnamed, _⟩
      refine Concludes.bind (Q := fun _ s'' => s'' = s'.bindAll named) (concludes_modify rfl) ?_
      rintro _ _ rfl
      have hlinked : s'.Linked := hs' ▸ hs.adds hadds
      refine concludes_pure ⟨hlinked.bindAll hnamed, ?_, ?_⟩
      · rw [State.root_bindAll, hs']
      · rw [State.forest_bindAll]
        exact hadds

theorem leaves_insert (source : Source) (p : Place) (hs : s.Linked) :
    Leaves s (insert source p) fun _ s' => s'.Linked := by
  simp only [insert]
  refine leaves_targetOf_bind hs fun _ _ => (leaves_materialize source hs).bind ?_
  rintro copy s' ⟨hs', hroot, hadds⟩
  have hcopy := List.mem_singleton_self copy
  exact leaves_putAt hs' (hadds.tops_new copy hcopy).2 (hroot ▸ hs.ne_root_of_adds hadds copy hcopy)

theorem leaves_move (name : String) (p : Place) (hs : s.Linked) :
    Leaves s (move name p) fun _ s' => s'.Linked := by
  simp only [move]
  refine leaves_node_bind hs fun n hn => leaves_targetOf_bind hs fun t _ => ?_
  refine concludes_forest_bind (concludes_root_bind ?_)
  split
  · exact concludes_throw_bind hs
  · rename_i hroot
    simp only [Bool.or_eq_true, beq_iff_eq, not_or] at hroot
    refine ((concludes_checkOutside s name n t).imp_error fun _ _ hsame => hsame.1 ▸ hs).bind ?_
    rintro _ _ ⟨rfl, _⟩
    refine (leaves_edit hs (List.forall_mem_nil _) (hs.linked.concludes_detach n) (Q := fun _ s' => ∃ f,
      s' = { s with forest := f } ∧ Forest.Shifts [] s.forest f) fun _ f h => ⟨f, rfl, h.1⟩).bind ?_
    rintro _ _ ⟨f, rfl, hshifts⟩
    exact leaves_putAt (hs.shifts hshifts (List.forall_mem_nil _)) (hshifts.size_eq ▸ hn) hroot.1

theorem leaves_supersede_copy {copy : NodeId} (hs : s.Linked) (hs' : s'.Linked)
    (hroot : s'.root = s.root) (hadds : Forest.Adds none [copy] s.forest s'.forest) (n : NodeId) :
    Leaves s' (supersede n [copy]) fun _ s'' =>
      s''.Linked ∧ s''.forest.size = s'.forest.size :=
  leaves_supersede _ hs' n (fun c hc => (hadds.tops_new c hc).2) hadds.parent?_top
    (hroot ▸ hs.ne_root_of_adds hadds)

theorem leaves_replace (name : String) (source : Source) (hs : s.Linked) :
    Leaves s (replace name source) fun _ s' => s'.Linked := by
  simp only [replace]
  refine leaves_node_bind hs fun n _ => (leaves_materialize source hs).bind ?_
  rintro copy s' ⟨hs', hroot, hadds⟩
  refine concludes_root_bind (concludes_forest_bind ?_)
  split
  · exact concludes_throw_bind hs'
  · exact (leaves_supersede_copy hs hs' hroot hadds n).imp fun _ _ h => h.1

theorem concludes_transferAll {source dest : NodeId} (cs : List NodeId) (hf : f.Linked)
    (hcs : ∀ c ∈ cs, c < f.size) (hdest : dest < f.size) :
    Concludes f (transferAll source dest cs) (fun _ f' => Forest.Shifts cs f f')
      fun _ f' => Forest.Shifts cs f f' := by
  induction cs generalizing f with
  | nil => exact concludes_pure (hf.shifts [])
  | cons c cs ih =>
      obtain ⟨hc, hcs⟩ := List.forall_mem_cons.mp hcs
      have hfirst : ∀ {f'}, Forest.Shifts [c] f f' → Forest.Shifts (c :: cs) f f' :=
        fun h => h.mono (by simp)
      simp only [transferAll]
      refine ((hf.concludes_removeChild source c).mono (fun _ _ h => h.1.mono (List.nil_subset [c]))
        fun _ _ h => h.mono (List.nil_subset (c :: cs))).bind fun _ f' hout => ?_
      have hsize := hout.size_eq
      refine ((hout.linked.concludes_addChild (hsize ▸ hc) (hsize ▸ hdest) none).mono
        (fun _ _ => hout.trans) fun _ _ h => hfirst (hout.trans h)).bind fun _ f'' hin => ?_
      have hrest : ∀ {f₃}, Forest.Shifts cs f'' f₃ → Forest.Shifts (c :: cs) f f₃ :=
        fun h => (hfirst hin).trans (h.mono (List.subset_cons_self c cs))
      exact (ih hin.linked (fun d hd => hin.size_eq ▸ hcs d hd) (hin.size_eq ▸ hdest)).mono
        (fun _ _ => hrest) fun _ _ => hrest

theorem leaves_adjoin (aux : Template) (name : String) (hs : s.Linked) :
    Leaves s (adjoin aux name) fun _ s' => s'.Linked := by
  simp only [adjoin]
  refine leaves_node_bind hs fun n _ => concludes_root_bind (concludes_forest_bind ?_)
  split
  · exact concludes_throw_bind hs
  · refine (leaves_instantiate aux hs).bind ?_
    rintro ⟨top, named, foot⟩ s' ⟨hadds, hs', hnamed, hfoot⟩
    have hlinked : s'.Linked := hs' ▸ hs.adds hadds
    have hroot : s'.root = s.root := by rw [hs']
    cases foot with
    | none => exact concludes_throw_bind hlinked
    | some foot =>
        refine concludes_forest_bind ?_
        have hchild : ∀ c ∈ s'.forest.children n, s'.forest.parent? c = some n :=
          fun c hc => hlinked.linked.mem_children.mp hc
        have hmem := List.mem_singleton_self top
        have htop := hadds.parent?_top top hmem
        have hout : top ∉ s'.forest.children n := by
          intro hc
          rw [hchild top hc] at htop
          cases htop
        refine (leaves_edit hlinked (fun c hc => hlinked.ne_root (hchild c hc))
          (concludes_transferAll _ hlinked.linked
            (fun c hc => Forest.lt_size_of_parent? (hchild c hc)) (hfoot foot rfl))
          (Q := fun _ s'' => ∃ f, s'' = { s' with forest := f } ∧
            Forest.Shifts (s'.forest.children n) s'.forest f) fun _ f h => ⟨f, rfl, h⟩).bind ?_
        rintro _ _ ⟨f, rfl, hshifts⟩
        have hmoved := hlinked.shifts hshifts fun c hc => hlinked.ne_root (hchild c hc)
        refine (leaves_supersede [top] hmoved n ?_ ?_ ?_).bind ?_
        · simpa [hshifts.size_eq] using (hadds.tops_new top hmem).2
        · simpa using hshifts.parent?_top top hout htop
        · simpa [hroot] using hs.ne_root_of_adds hadds top hmem
        · rintro _ s'' ⟨hs'', hsize⟩
          refine concludes_modify (hs''.bindAll fun e he => ?_)
          rw [hsize]
          exact hshifts.size_eq ▸ hnamed e he

/-! ## Changing labels -/

theorem leaves_setLabel (hs : s.Linked) (n : NodeId) (label : String) :
    Leaves s (setLabel n label) fun _ s' => s'.Linked := concludes_modify (hs.setLabel n label)

theorem leaves_relabel (name : String) (change : Relabeling) (hs : s.Linked) :
    Leaves s (relabel name change) fun _ s' => s'.Linked := by
  simp only [relabel]
  refine leaves_node_bind hs fun n _ => ?_
  cases change with
  | literal label => exact leaves_setLabel hs n label
  | substitution r replacement =>
      refine concludes_forest_bind ?_
      split
      · exact leaves_setLabel hs n _
      · exact concludes_throw hs

theorem leaves_nodes (names : List String) (hs : s.Linked) :
    Leaves s (names.mapM node) fun _ s' => s'.Linked := by
  induction names with
  | nil => exact concludes_pure hs
  | cons name names ih =>
      rw [List.mapM_cons]
      exact leaves_node_bind hs fun n _ => ih.bind fun _ _ hs' => concludes_pure hs'

theorem leaves_attachIndices (index : String) (nodes : List NodeId) (hs : s.Linked) :
    Leaves s (nodes.forM (attachIndex index)) fun _ s' => s'.Linked := by
  induction nodes generalizing s with
  | nil => exact concludes_pure hs
  | cons n nodes ih =>
      show Leaves s (attachIndex index n >>= fun _ => nodes.forM (attachIndex index)) _
      refine Concludes.bind (Q := fun _ s' => s'.Linked) ?_ fun _ _ hs' => ih hs'
      exact concludes_forest_bind (leaves_setLabel hs n _)

theorem leaves_nextIndex (hs : s.Linked) : Leaves s nextIndex fun _ s' => s'.Linked := by
  simp only [nextIndex]
  refine concludes_root_bind ?_
  split
  · exact concludes_pure hs
  · refine concludes_forest_bind ?_
    split
    · exact concludes_throw_bind hs
    · split
      · exact concludes_pure hs
      · exact concludes_throw hs

theorem leaves_coindex (names : List String) (hs : s.Linked) :
    Leaves s (coindex names) fun _ s' => s'.Linked := by
  simp only [coindex]
  refine (leaves_nodes names hs).bind fun nodes s' hs' => (leaves_nextIndex hs').bind ?_
  intro k s'' hs''
  split
  · exact leaves_attachIndices _ nodes hs''
  · exact concludes_throw hs''

/-! ## Statements -/

theorem leaves_apply (st : Statement) (hs : s.Linked) :
    Leaves s st.apply fun _ s' => s'.Linked := by
  cases st with
  | delete names => exact leaves_deleteAll names hs
  | prune names => exact leaves_pruneAll names hs
  | excise outer inner => exact leaves_excise outer inner hs
  | relabel name change => exact leaves_relabel name change hs
  | insert source place => exact leaves_insert source place hs
  | move name place => exact leaves_move name place hs
  | replace target source => exact leaves_replace target source hs
  | adjoin aux name => exact leaves_adjoin aux name hs
  | coindex names => exact leaves_coindex names hs

theorem leaves_applyAll (sts : List Statement) (hs : s.Linked) :
    Leaves s (Statement.applyAll sts) fun _ s' => s'.Linked := by
  induction sts generalizing s with
  | nil => exact concludes_pure hs
  | cons st sts ih =>
      simp only [Statement.applyAll]
      refine (leaves_apply st hs).bind fun _ s' hs' => concludes_root_bind ?_
      split
      · exact concludes_pure hs'
      · exact ih hs'

theorem State.Linked.apply (hs : s.Linked) (st : Statement) : (runFrom s st.apply).2.Linked :=
  (leaves_apply st hs).after

/-- After any statements, carried out or failed, the state is linked. -/
theorem State.Linked.run (hs : s.Linked) (sts : List Statement) : (s.run sts).Linked := by
  induction sts generalizing s with
  | nil => exact hs
  | cons st sts ih => exact ih (hs.apply st)

theorem State.linked_start (t : Tree) (b : Bindings) : (State.start t b).Linked :=
  have hsound := State.sound_start t b
  ⟨hsound.wellFormed.linked, hsound.root_top, hsound.names_known⟩

end Treebank.Surgery
