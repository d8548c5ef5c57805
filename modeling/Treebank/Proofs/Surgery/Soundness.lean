import Treebank.Proofs.Forest.Ancestors
import Treebank.Proofs.Surgery.State
import Treebank.Surgery.Effect

/-!
# Statements keep a state sound

Every statement leaves a sound state behind, whether it comes to its end or fails, and it is never
stopped by a primitive edit. The exception is an insertion of a literal tree that makes the name of
its own place known: the place is looked up a second time, in the tree to be put there.
-/

namespace Treebank.Surgery

variable {s : State} {n : Nat}

/-! ## Taking nodes out -/

theorem runFrom_remove (s : State) (n : NodeId) : runFrom s (remove n) =
    if s.root == some n then (.ok none, { s with root := none })
    else match s.forest.parent? n with
      | none => (.ok none, s)
      | some p => match s.forest.runEdit (Forest.removeChild p n) with
        | (.ok _, f) => (.ok (some p), { s with forest := f })
        | (.error e, f) => (.error (.refused e), { s with forest := f }) := by
  rw [remove, runFrom_root_bind]
  cases s.root == some n with
  | true => rfl
  | false =>
      show runFrom s (forest >>= fun f => match f.parent? n with
        | none => pure none
        | some p => do
          let _ ← edit (Forest.removeChild p n)
          return some p) = _
      rw [runFrom_forest_bind]
      cases s.forest.parent? n with
      | none => rfl
      | some p =>
          show runFrom s (edit (Forest.removeChild p n) >>= fun _ => pure (some p)) = _
          rw [runFrom_bind, runFrom_edit, if_neg Bool.false_ne_true]
          simp only
          rcases s.forest.runEdit (Forest.removeChild p n) with ⟨_ | _, _⟩ <;> rfl

/-- The second state comes from the first one by taking a node out: the root is given up, or a topmost
node stays where it is, or the node leaves its parent. -/
inductive State.TakenOut (s : State) (n : Nat) : State → Prop where
  | root : s.root = some n → s.TakenOut n { s with root := none }
  | loose : s.root ≠ some n → s.forest.parent? n = none → s.TakenOut n s
  | child {p : Nat} : s.root ≠ some n → s.forest.parent? n = some p →
      s.TakenOut n { s with forest := s.forest.unlink p n }

theorem meets_remove_takenOut (hs : s.Sound) (n : Nat) :
    Meets s (remove n) fun _ s' => s.TakenOut n s' := by
  simp only [remove]
  refine meets_root_bind ?_
  split
  · rename_i hroot
    refine Meets.bind (Q := fun _ s' => s.TakenOut n s') ?_ fun _ s' hs' => meets_pure hs'
    exact meets_modify (.root (eq_of_beq hroot))
  · rename_i hroot
    have hne : s.root ≠ some n := by simpa using hroot
    refine meets_forest_bind ?_
    cases hp : s.forest.parent? n with
    | none => exact meets_pure (.loose hne hp)
    | some p =>
        refine (meets_edit (Forest.achieves_removeChild hs.wellFormed hp)
          (Q := fun _ s' => s.TakenOut n s') ?_).bind fun _ s' hs' => meets_pure hs'
        rintro _ _ ⟨_, rfl⟩
        exact .child hne hp

theorem State.TakenOut.sound {s' : State} (h : s.TakenOut n s') (hs : s.Sound) : s'.Sound := by
  cases h with
  | root _ => exact hs.setRoot nofun
  | loose _ _ => exact hs
  | child _ hp => exact hs.moves (hs.wellFormed.moves_unlink hp) fun _ _ _ => rfl

theorem meets_remove (hs : s.Sound) (n : Nat) : Meets s (remove n) fun _ s' => s'.Sound :=
  (meets_remove_takenOut hs n).mono fun _ _ h => h.sound hs

theorem meets_removeEmptied (fuel : Nat) (hs : s.Sound) (n : Nat) :
    Meets s (removeEmptied fuel n) fun _ s' => s'.Sound := by
  induction fuel generalizing s n with
  | zero => exact meets_pure hs
  | succ fuel ih =>
      simp only [removeEmptied]
      refine meets_root_bind (meets_forest_bind ?_)
      split
      · exact meets_pure hs
      · refine (meets_remove hs n).bind fun above s' hs' => ?_
        cases above with
        | none => exact meets_pure hs'
        | some p => exact ih hs' p

theorem meets_deleteAll (names : List String) (hs : s.Sound) :
    Meets s (deleteAll names) fun _ s' => s'.Sound := by
  induction names generalizing s with
  | nil => exact meets_pure hs
  | cons name names ih =>
      simp only [deleteAll]
      refine meets_node_bind hs fun n _ => (meets_remove hs n).bind fun _ s' hs' => ?_
      refine meets_root_bind ?_
      split
      · exact meets_pure hs'
      · exact ih hs'

theorem meets_pruneAll (names : List String) (hs : s.Sound) :
    Meets s (pruneAll names) fun _ s' => s'.Sound := by
  induction names generalizing s with
  | nil => exact meets_pure hs
  | cons name names ih =>
      simp only [pruneAll]
      refine meets_node_bind hs fun n _ => (meets_remove hs n).bind fun above s' hs' => ?_
      refine meets_root_bind ?_
      split
      · exact meets_pure hs'
      · cases above with
        | none => exact ih hs'
        | some p =>
            exact meets_forest_bind ((meets_removeEmptied _ hs' p).bind fun _ s'' hs'' => ih hs'')

/-! ## Taking the slot of a node -/

theorem achieves_releaseAll {f : Forest} {p : Nat} (cs : List Nat) (h : f.WellFormed)
    (hnodup : cs.Nodup) (hp : ∀ c ∈ cs, f.parent? c = some p) :
    f.Achieves (releaseAll p cs) fun _ f' => f.Released f' cs := by
  induction cs generalizing f with
  | nil => exact Forest.achieves_pure h.released_nil
  | cons c cs ih =>
      obtain ⟨hc, hcs⟩ := List.nodup_cons.mp hnodup
      obtain ⟨hcp, hcsp⟩ := List.forall_mem_cons.mp hp
      have hreleased := h.released_unlink hcp
      have hothers : ∀ d ∈ cs, (f.unlink p c).parent? d = some p := by
        intro d hd
        have hdc : d ∉ [c] := fun hdc => hc (List.mem_singleton.mp hdc ▸ hd)
        rw [hreleased.moves.parent?_of_not_mem hdc]
        exact hcsp d hd
      simp only [releaseAll]
      refine (Forest.achieves_removeChild h hcp).bind ?_
      rintro _ _ ⟨_, rfl⟩
      exact (ih hreleased.moves.wellFormed hcs hothers).mono fun _ _ => hreleased.append

/-- The node is the root or stands below another one. -/
def State.InPlace (s : State) (n : Nat) : Prop := s.root = some n ∨ (s.forest.parent? n).isSome

theorem State.inPlace_iff :
    s.InPlace n ↔ ¬(s.root != some n && (s.forest.parent? n).isNone) = true := by
  rw [InPlace]
  cases s.forest.parent? n <;> simp

/-- The second state comes from the first one by putting other nodes in the slot of a node; in the
place of the root, the first of them becomes the root. -/
inductive State.Superseded (s : State) (n : Nat) (others : List Nat) : State → Prop where
  | root : s.root = some n → s.Superseded n others { s with root := others.head? }
  | slot {p : Nat} {f' f'' : Forest} : s.root ≠ some n → s.forest.parent? n = some p →
      s.forest.Moves f' [n] none → f'.Moves f'' others (some p) →
      s.Superseded n others { s with forest := f'' }

theorem meets_superseded (others : List Nat) (hs : s.Sound) (hn : s.InPlace n)
    (hnodup : others.Nodup) (hsize : ∀ c ∈ others, c < s.forest.size)
    (htop : ∀ c ∈ others, s.forest.parent? c = none)
    (hcov : ∀ c ∈ others, ¬s.forest.Covers c n) :
    Meets s (supersede n others) fun _ s' => s.Superseded n others s' := by
  simp only [supersede]
  refine meets_root_bind ?_
  split
  · rename_i hroot
    exact meets_modify (.root (eq_of_beq hroot))
  · rename_i hroot
    have hne : s.root ≠ some n := by simpa using hroot
    obtain ⟨p, hp⟩ := Option.isSome_iff_exists.mp (hn.resolve_left hne)
    refine (meets_edit (Forest.achieves_replaceWith others hs.wellFormed hp hnodup hsize htop
      fun c hc hcp => hcov c hc (.under hp hcp))
      (Q := fun _ s' => s.Superseded n others s') ?_).bind fun _ s' hs' => meets_pure hs'
    rintro _ f'' ⟨⟨f', hout, hin⟩, _⟩
    exact .slot hne hp hout hin

theorem meets_supersede (others : List Nat) (hs : s.Sound) (hn : s.InPlace n)
    (hnodup : others.Nodup) (hsize : ∀ c ∈ others, c < s.forest.size)
    (htop : ∀ c ∈ others, s.forest.parent? c = none) (hroot : ∀ c ∈ others, s.root ≠ some c)
    (hcov : ∀ c ∈ others, ¬s.forest.Covers c n) :
    Meets s (supersede n others) fun _ s' => s'.Sound ∧ s'.forest.size = s.forest.size := by
  refine (meets_superseded others hs hn hnodup hsize htop hcov).mono fun _ s' h => ?_
  cases h with
  | root _ =>
      refine ⟨hs.setRoot fun r hr => ?_, rfl⟩
      have hmem := List.mem_of_mem_head? hr
      exact ⟨hsize r hmem, htop r hmem⟩
  | @slot p f' f'' _ _ hout hin =>
      refine ⟨?_, hin.size_eq.trans hout.size_eq⟩
      exact (hs.moves hout fun _ _ _ => rfl).moves (s := { s with forest := f' }) hin
        fun r hr hmem => absurd hr (hroot r hmem)

/-- The second state comes from the first one by taking nodes from below a node, and putting them in
its slot. -/
inductive State.Excised (s : State) (n : Nat) : State → Prop where
  | intro {others : List Nat} {f : Forest} {s' : State} : s.forest.Moves f others none →
      (∀ c ∈ others, c ≠ n ∧ s.forest.Covers n c) →
      { s with forest := f : State }.Superseded n others s' → s.Excised n s'

theorem meets_supersede_excised {others : List Nat} {f : Forest} (hs : s.Sound) (hn : s.InPlace n)
    (hnodup : others.Nodup) (hmoves : s.forest.Moves f others none)
    (hbelow : ∀ c ∈ others, c ≠ n ∧ s.forest.Covers n c) :
    Meets { s with forest := f } (supersede n others) fun _ s' => s.Excised n s' := by
  refine (meets_superseded (s := { s with forest := f }) others (hs.moves hmoves fun _ _ _ => rfl) ?_
    hnodup ?_ (fun c hc => hmoves.parent?_of_mem hc) ?_).mono fun _ s' h => .intro hmoves hbelow h
  · rw [State.InPlace, hmoves.parent?_of_not_mem fun hmem => (hbelow n hmem).1 rfl]
    exact hn
  · intro c hc
    obtain ⟨hne, hcov⟩ := hbelow c hc
    obtain ⟨p, hp, _⟩ := hcov.exists_parent hne.symm
    exact hmoves.size_eq ▸ Forest.lt_size_of_parent? hp
  · intro c hc hcov
    obtain ⟨hne, hnc⟩ := hbelow c hc
    exact hne ((hs.wellFormed.grounded n).eq_of_covers (hmoves.covers hcov) hnc)

theorem State.Excised.sound {s' : State} (h : s.Excised n s') (hs : s.Sound) : s'.Sound := by
  obtain ⟨hmoves, hbelow, hsuperseded⟩ := h
  have hmoved := hs.moves hmoves fun _ _ _ => rfl
  have hparent : ∀ c ∈ _, ∃ p, s.forest.parent? c = some p := fun c hc =>
    ((hbelow c hc).2.exists_parent (hbelow c hc).1.symm).imp fun _ h => h.1
  cases hsuperseded with
  | root _ =>
      refine hmoved.setRoot fun r hr => ?_
      have hmem := List.mem_of_mem_head? hr
      obtain ⟨p, hp⟩ := hparent r hmem
      exact ⟨hmoves.size_eq ▸ Forest.lt_size_of_parent? hp, hmoves.parent?_of_mem hmem⟩
  | @slot p f' _ _ _ hout hin =>
      refine (hmoved.moves hout fun _ _ _ => rfl).moves (s := { s with forest := f' }) hin
        fun r hr hmem => ?_
      obtain ⟨q, hq⟩ := hparent r hmem
      exact absurd hr (hs.ne_root hq)

theorem meets_dissolve (name : String) (hs : s.Sound) (hn : s.InPlace n) :
    Meets s (dissolve name n) fun _ s' => s.Excised n s' := by
  simp only [dissolve]
  refine meets_forest_bind (meets_root_bind ?_)
  split
  · exact meets_throw_bind hs trivial
  · have hchild : ∀ c ∈ s.forest.children n, s.forest.parent? c = some n :=
      fun c hc => hs.wellFormed.mem_children.mp hc
    have hnodup := hs.wellFormed.nodup_children n
    refine Meets.bind (Q := fun _ s' => ∃ f, s.forest.Moves f (s.forest.children n) none ∧
      s' = { s with forest := f }) ?_ ?_
    · exact meets_edit (achieves_releaseAll _ hs.wellFormed hnodup hchild)
        fun _ f hreleased => ⟨f, hreleased.moves, rfl⟩
    · rintro _ _ ⟨f, hmoves, rfl⟩
      refine meets_supersede_excised hs hn hnodup hmoves fun c hc => ⟨?_, .under (hchild c hc) .self⟩
      exact (hs.wellFormed.grounded c).ne_parent (hchild c hc)

theorem runFrom_isAbove (a b : NodeId) : (isAbove a b).runFrom s =
    if s.forest.dominates a b then (.ok true, s)
    else if s.forest.endlessAbove b then (.error .endless, s) else (.ok false, s) := by
  rw [isAbove, runFrom_forest_bind]
  cases s.forest.dominates a b <;> cases s.forest.endlessAbove b <;> rfl

/-- Whether a node is above another one is found out, since the way up ends. -/
theorem State.Sound.runFrom_isAbove (hs : s.Sound) {a b : Nat} (hb : b < s.forest.size) :
    (isAbove a b).runFrom s = (.ok (s.forest.dominates a b), s) := by
  rw [Surgery.runFrom_isAbove, hs.wellFormed.not_endlessAbove hb]
  cases s.forest.dominates a b <;> rfl

theorem meets_isAbove (hs : s.Sound) {a b : Nat} (hb : b < s.forest.size) :
    Meets s (isAbove a b) fun above s' =>
      s = s' ∧ (above = true ↔ s.forest.Covers a b ∧ a ≠ b) := by
  rw [Meets, hs.runFrom_isAbove hb]
  exact ⟨rfl, hs.wellFormed.dominates_iff⟩

theorem meets_checkNested (hs : s.Sound) (outerName innerName : String) {outer inner : Nat}
    (hinner : inner < s.forest.size) :
    Meets s (checkNested outerName innerName outer inner) fun _ s' =>
      s = s' ∧ s.forest.Covers outer inner := by
  simp only [checkNested]
  split
  · rename_i heq
    exact meets_pure ⟨rfl, eq_of_beq heq ▸ .self⟩
  · refine (meets_isAbove hs hinner).bind ?_
    rintro above _ ⟨rfl, habove⟩
    split
    · rename_i htrue
      exact meets_pure ⟨rfl, (habove.mp htrue).1⟩
    · exact meets_throw hs trivial

theorem meets_excise_excised (outerName innerName : String) (hs : s.Sound) :
    Meets s (excise outerName innerName) fun _ s' =>
      ∃ outer, s.names.lookup outerName = some outer ∧ s.Excised outer s' := by
  simp only [excise]
  refine meets_node_bind hs fun outer houter => meets_node_bind hs fun inner hinner => ?_
  refine (meets_checkNested hs outerName innerName (hs.names_known _ _ hinner)).bind ?_
  rintro _ _ ⟨rfl, hcovers⟩
  refine meets_forest_bind (meets_root_bind ?_)
  split
  · exact meets_throw_bind hs trivial
  · rename_i hcut
    rw [Bool.and_comm] at hcut
    have hplace := State.inPlace_iff.mpr hcut
    split
    · rename_i heq
      rw [← eq_of_beq heq]
      exact (meets_dissolve innerName hs hplace).mono fun _ _ h => ⟨outer, houter, h⟩
    · rename_i hne
      have hne' : outer ≠ inner := by simpa using hne
      obtain ⟨p, hp, hcov⟩ := hcovers.exists_parent hne'
      refine Meets.bind (Q := fun _ s' => s' = { s with forest := s.forest.unlink p inner })
        (meets_edit (Forest.achieves_detach hs.wellFormed hp) ?_) ?_
      · rintro _ _ rfl
        rfl
      · rintro _ _ rfl
        refine (meets_supersede_excised hs hplace (by simp)
          (hs.wellFormed.moves_unlink hp) ?_).mono fun _ _ h => ⟨outer, houter, h⟩
        intro c hc
        rw [List.mem_singleton.mp hc]
        exact ⟨hne'.symm, hcovers⟩

theorem meets_excise (outerName innerName : String) (hs : s.Sound) :
    Meets s (excise outerName innerName) fun _ s' => s'.Sound :=
  (meets_excise_excised outerName innerName hs).mono fun _ _ ⟨_, _, h⟩ => h.sound hs

/-! ## Places -/

theorem meets_targetOf_bind {β : Type} {R : β → State → Prop} {p : Place} {g : NodeId → Surgery β}
    (hs : s.Sound) (h : ∀ t, s.names.lookup p.target = some t → Meets s (g t) R) :
    Meets s (targetOf p >>= g) R := by
  refine Meets.bind (Q := fun t s' => s.names.lookup p.target = some t ∧ s' = s) ?_ ?_
  · simp only [targetOf]
    refine meets_node_bind hs fun t ht => ?_
    split
    · exact meets_pure ⟨ht, rfl⟩
    · refine meets_forest_bind ?_
      split
      · exact meets_throw_bind hs trivial
      · exact meets_pure ⟨ht, rfl⟩
  · rintro t _ ⟨ht, rfl⟩
    exact h t ht

/-- A topmost node is put directly before or after a child. -/
theorem achieves_addSister {f : Forest} {q t : Nat} (h : f.WellFormed) (hp : f.parent? t = some q)
    (htop : f.parent? n = none) (p : Place) : f.Achieves (do
      let i ← Forest.childIndex q t
      let slot := match p with
        | .leftOf _ => i
        | _ => i + 1
      Forest.addChild q n (some slot)) fun _ f' => ∃ i ≤ (f.children q).length,
        (i = match p with
          | .leftOf _ => (f.children q).idxOf t
          | _ => (f.children q).idxOf t + 1) ∧ f' = f.link q n i := by
  refine (Forest.achieves_childIndex h hp).bind ?_
  rintro _ _ ⟨rfl, rfl⟩
  have hi := List.idxOf_lt_length_of_mem (h.mem_children.mpr hp)
  cases p with
  | leftOf name =>
      refine (Forest.achieves_addChild htop (by simp) (by simp; omega)).mono ?_
      rintro _ _ rfl
      exact ⟨_, Nat.le_of_lt hi, rfl, rfl⟩
  | rightOf name | childOf name index =>
      refine (Forest.achieves_addChild htop (by simp; omega) (by simp; omega)).mono ?_
      rintro _ _ rfl
      exact ⟨_, hi, rfl, rfl⟩

/-- A topmost node other than the root is put in a place that it does not cover. -/
theorem meets_putAt {p : Place} (hs : s.Sound) (hn : n < s.forest.size)
    (htop : s.forest.parent? n = none) (hroot : s.root ≠ some n)
    (hcov : ∀ t, s.names.lookup p.target = some t → ¬s.forest.Covers n t) :
    Meets s (putAt n p) fun _ s' => s'.Sound := by
  have hlink : ∀ {q i : Nat}, q < s.forest.size → ¬s.forest.Covers n q →
      i ≤ (s.forest.children q).length →
      { s with forest := s.forest.link q n i : State }.Sound := by
    intro q i hq hnq hi
    refine hs.moves (hs.wellFormed.moves_link hn hq htop hnq hi) fun r hr hmem => ?_
    rw [List.mem_singleton.mp hmem] at hr
    exact absurd hr hroot
  simp only [putAt]
  refine meets_targetOf_bind hs fun t ht => meets_forest_bind ?_
  have hnt := hcov t ht
  have htlt := hs.names_known _ _ ht
  split
  · split
    · exact meets_throw_bind hs trivial
    · rename_i hslot
      simp only [Bool.or_eq_true, decide_eq_true_eq, not_or, Int.not_lt] at hslot
      refine meets_edit (Forest.achieves_addChild htop (by simpa using hslot.1)
        (by simpa using hslot.2)) ?_
      rintro _ _ rfl
      refine hlink htlt hnt ?_
      simp only [Option.getD_some]
      omega
  · cases hp : s.forest.parent? t with
    | none => exact meets_throw hs trivial
    | some q =>
        have hnq : ¬s.forest.Covers n q := fun h => hnt (.under hp h)
        have hqlt := hs.wellFormed.parent_lt_size hp
        refine meets_edit (achieves_addSister hs.wellFormed hp htop p) ?_
        rintro _ _ ⟨i, hi, _, rfl⟩
        exact hlink hqlt hnq hi

/-! ## Copies -/

theorem runFrom_duplicate (s : State) (n : NodeId) : (duplicate n).runFrom s =
    if s.forest.endlessBelow n then (.error .endless, s)
    else (plant (s.forest.tree n)).runFrom s := by
  rw [duplicate, runFrom_forest_bind]
  cases s.forest.endlessBelow n <;> rfl

/-- The nodes of a copy that the literal tree has names for. -/
def namedNodes (t : Template) (f : Forest) (top : NodeId) : List (String × NodeId) :=
  t.names.filterMap fun (name, path) => (f.follow? top path).map (name, ·)

theorem runFrom_instantiate (s : State) (t : Template) : (instantiate t).runFrom s =
    let (top, f) := s.forest.plant t.tree
    (.ok (top, namedNodes t f top, t.foot.bind (f.follow? top)), { s with forest := f }) := rfl

theorem mem_introduced_of_mem_namedNodes {t : Template} {f : Forest} {top : NodeId}
    {e : String × NodeId} (h : e ∈ namedNodes t f top) : e.1 ∈ t.introduced := by
  obtain ⟨⟨name, path⟩, hmem, hfollow⟩ := List.mem_filterMap.mp h
  obtain ⟨m, _, rfl⟩ := Option.map_eq_some_iff.mp hfollow
  exact List.mem_map_of_mem hmem

theorem covers_of_mem_namedNodes {t : Template} {f : Forest} {top : Nat} {e : String × NodeId}
    (hf : f.Linked) (h : e ∈ namedNodes t f top) : f.Covers top e.2 := by
  obtain ⟨⟨name, path⟩, _, hfollow⟩ := List.mem_filterMap.mp h
  obtain ⟨m, hm, rfl⟩ := Option.map_eq_some_iff.mp hfollow
  exact hf.covers_follow? path hm

theorem meets_instantiate (t : Template) (hs : s.Sound) :
    Meets s (instantiate t) fun copy s' => Forest.Adds none [copy.1] s.forest s'.forest ∧
      s' = { s with forest := s'.forest } ∧
      (∀ e ∈ copy.2.1, e.1 ∈ t.introduced ∧ e.2 < s'.forest.size) ∧
      ∀ foot, copy.2.2 = some foot → s'.forest.Covers copy.1 foot := by
  obtain ⟨_, hadds⟩ := s.forest.plant_adds t.tree
  have hwf := hs.wellFormed.adds hadds
  have htop := (hadds.tops_new _ (List.mem_singleton_self _)).2
  rw [Meets, runFrom_instantiate]
  refine ⟨hadds, rfl, ?_, ?_⟩
  · exact fun e he =>
      ⟨mem_introduced_of_mem_namedNodes he, (covers_of_mem_namedNodes hwf.linked he).lt_size htop⟩
  · intro foot hfoot
    obtain ⟨path, _, hfollow⟩ := Option.bind_eq_some_iff.mp hfoot
    exact hwf.covers_follow? path hfollow

/-- A copy is a new tree; only the names of a literal tree change their nodes. -/
theorem meets_materialize (source : Source) (hs : s.Sound) :
    Meets s (materialize source) fun copy s' => s'.Sound ∧ s'.root = s.root ∧
      Forest.Adds none [copy] s.forest s'.forest ∧
      ∀ name ∉ source.introduced, s'.names.lookup name = s.names.lookup name := by
  cases source with
  | node name =>
      simp only [materialize]
      refine meets_node_bind hs fun n hn => ?_
      obtain ⟨_, hadds⟩ := s.forest.plant_adds (s.forest.tree n)
      rw [Meets, runFrom_duplicate, hs.wellFormed.not_endlessBelow (hs.names_known _ _ hn)]
      exact ⟨hs.adds hadds, rfl, hadds, fun _ _ => rfl⟩
  | template t =>
      simp only [materialize]
      refine (meets_instantiate t hs).bind ?_
      rintro ⟨top, named, foot⟩ s' ⟨hadds, hs', hnamed, _⟩
      refine Meets.bind (Q := fun _ s'' => s'' = s'.bindAll named) (meets_modify rfl) ?_
      rintro _ _ rfl
      have hsound : s'.Sound := hs' ▸ hs.adds hadds
      refine meets_pure ⟨hsound.bindAll fun e he => (hnamed e he).2, ?_, ?_, ?_⟩
      · rw [State.root_bindAll, hs']
      · rw [State.forest_bindAll]
        exact hadds
      · intro name hname
        rw [State.lookup_bindAll_of_not_mem, hs']
        rintro hmem
        obtain ⟨e, he, rfl⟩ := List.mem_map.mp hmem
        exact hname (hnamed e he).1

/-! ## Putting nodes in -/

theorem meets_insert {source : Source} {p : Place} (hs : s.Sound)
    (hself : p.target ∉ source.introduced) : Meets s (insert source p) fun _ s' => s'.Sound := by
  simp only [insert]
  refine meets_targetOf_bind hs fun _ _ => (meets_materialize source hs).bind ?_
  rintro copy s' ⟨hs', hroot, hadds, hnames⟩
  have hcopy := List.mem_singleton_self copy
  obtain ⟨hnew, hlt⟩ := hadds.tops_new copy hcopy
  refine meets_putAt hs' hlt (hadds.parent?_top copy hcopy) ?_ fun t ht hcov => ?_
  · rw [hroot]
    intro hr
    exact absurd (hs.root_top copy hr).1 (Nat.not_lt_of_le hnew)
  · -- the target is an earlier node, so the copy does not cover it
    rw [hnames p.target hself] at ht
    have hold := hadds.lt_size_of_covers hs.wellFormed hcov (hs.names_known _ _ ht)
    exact absurd hold (Nat.not_lt_of_le hnew)

theorem meets_checkOutside (hs : s.Sound) (name : String) {t : Nat} (ht : t < s.forest.size) :
    Meets s (checkOutside name n t) fun _ s' => s = s' ∧ ¬s.forest.Covers n t := by
  simp only [checkOutside]
  split
  · exact meets_throw_bind hs trivial
  · rename_i hne
    refine (meets_isAbove hs ht).bind ?_
    rintro above _ ⟨rfl, habove⟩
    split
    · exact meets_throw hs trivial
    · rename_i hfalse
      refine meets_pure ⟨rfl, fun hcov => hfalse (habove.mpr ⟨hcov, ?_⟩)⟩
      rintro rfl
      exact hne (beq_self_eq_true n)

theorem meets_move (name : String) (p : Place) (hs : s.Sound) :
    Meets s (move name p) fun _ s' => s'.Sound := by
  simp only [move]
  refine meets_node_bind hs fun n hn => meets_targetOf_bind hs fun t ht => ?_
  refine meets_forest_bind (meets_root_bind ?_)
  split
  · exact meets_throw_bind hs trivial
  · rename_i hroot
    simp only [Bool.or_eq_true, beq_iff_eq, not_or, Option.isNone_iff_eq_none] at hroot
    obtain ⟨q, hq⟩ := Option.ne_none_iff_exists'.mp hroot.2
    refine (meets_checkOutside hs name (hs.names_known _ _ ht)).bind ?_
    rintro _ _ ⟨rfl, hcov⟩
    have hmoves := hs.wellFormed.moves_unlink hq
    refine Meets.bind (Q := fun _ s' => s' = { s with forest := s.forest.unlink q n })
      (meets_edit (Forest.achieves_detach hs.wellFormed hq) ?_) ?_
    · rintro _ _ rfl
      rfl
    · rintro _ _ rfl
      refine meets_putAt (hs.moves hmoves fun _ _ _ => rfl) ?_ ?_ hroot.1 ?_
      · simpa using hs.names_known _ _ hn
      · exact hmoves.parent?_of_mem (List.mem_singleton_self n)
      · intro t' ht' hcov'
        rw [ht, Option.some.injEq] at ht'
        exact hcov (ht' ▸ hmoves.covers hcov')

/-- A new tree takes the slot of an earlier node. -/
theorem meets_supersede_of_adds {s' : State} {top : Nat} (hs : s.Sound) (hs' : s'.Sound)
    (hroot : s'.root = s.root) (hadds : Forest.Adds none [top] s.forest s'.forest)
    (hn : n < s.forest.size) (hplace : s'.InPlace n) :
    Meets s' (supersede n [top]) fun _ s'' =>
      s''.Sound ∧ s''.forest.size = s'.forest.size := by
  have hmem := List.mem_singleton_self top
  obtain ⟨hnew, hlt⟩ := hadds.tops_new top hmem
  refine meets_supersede [top] hs' hplace (by simp) (by simpa using hlt)
    (by simpa using hadds.parent?_top top hmem) ?_ ?_
  · intro c hc hr
    rw [List.mem_singleton.mp hc, hroot] at hr
    exact absurd (hs.root_top top hr).1 (Nat.not_lt_of_le hnew)
  · intro c hc hcov
    rw [List.mem_singleton.mp hc] at hcov
    exact absurd (hadds.lt_size_of_covers hs.wellFormed hcov hn) (Nat.not_lt_of_le hnew)

theorem meets_replace (name : String) (source : Source) (hs : s.Sound) :
    Meets s (replace name source) fun _ s' => s'.Sound := by
  simp only [replace]
  refine meets_node_bind hs fun n hn => (meets_materialize source hs).bind ?_
  rintro copy s' ⟨hs', hroot, hadds, _⟩
  refine meets_root_bind (meets_forest_bind ?_)
  split
  · exact meets_throw_bind hs' trivial
  · rename_i hcut
    exact (meets_supersede_of_adds hs hs' hroot hadds (hs.names_known _ _ hn)
      (State.inPlace_iff.mpr hcut)).mono
      fun _ _ h => h.1

theorem achieves_transferAll {f : Forest} {source dest : Nat} (cs : List Nat) (h : f.WellFormed)
    (hnodup : cs.Nodup) (hsource : ∀ c ∈ cs, f.parent? c = some source) (hdest : dest < f.size)
    (hcov : ¬f.Covers source dest) :
    f.Achieves (transferAll source dest cs) fun _ f' => f.Transfers f' cs dest := by
  induction cs generalizing f with
  | nil => exact Forest.achieves_pure (h.transfers_nil dest)
  | cons c cs ih =>
      obtain ⟨hc, hcs⟩ := List.nodup_cons.mp hnodup
      obtain ⟨hcp, hcsp⟩ := List.forall_mem_cons.mp hsource
      have hcdest : ¬f.Covers c dest := fun hcovers => hcov (.trans (.under hcp .self) hcovers)
      have hreleased := h.released_unlink hcp
      have hmem : c ∉ f.children dest := by
        intro hmem
        rw [h.mem_children, hcp, Option.some.injEq] at hmem
        exact hcov (hmem ▸ .self)
      have hfirst := hreleased.transfers_link hdest (Forest.lt_size_of_parent? hcp) hcdest hmem
      have hmoves := hfirst.moves
      have hctop := hreleased.moves.parent?_of_mem (List.mem_singleton_self c)
      simp only [transferAll]
      refine (Forest.achieves_removeChild h hcp).bind ?_
      rintro _ _ ⟨_, rfl⟩
      refine (Forest.achieves_addChild hctop (by simp) (by simp)).bind ?_
      rintro _ _ rfl
      simp only [Option.getD_none, Int.toNat_natCast]
      refine (ih hmoves.wellFormed hcs (fun d hd => ?_) (by simpa using hdest) ?_).mono
        fun _ f' => hfirst.append
      · have hdc : d ∉ [c] := fun hdc => hc (List.mem_singleton.mp hdc ▸ hd)
        rw [hmoves.parent?_of_not_mem hdc]
        exact hcsp d hd
      · rw [hmoves.covers_iff (by simpa using hcdest)]
        exact hcov

/-- The children of an earlier node come to stand under the foot of a new tree, whose top then takes
the slot of the node. -/
theorem meets_transfer {s' : State} {top foot : Nat} {named : List (String × NodeId)} (hs : s.Sound)
    (hs' : s'.Sound) (hroot : s'.root = s.root)
    (hadds : Forest.Adds none [top] s.forest s'.forest) (hfoot : s'.forest.Covers top foot)
    (hnamed : ∀ e ∈ named, e.2 < s'.forest.size) (hn : n < s.forest.size) (hplace : s'.InPlace n) :
    Meets s' (do
      edit (transferAll n foot (s'.forest.children n))
      supersede n [top]
      modify fun s => s.bindAll named) fun _ s'' => s''.Sound := by
  have hwf := hs'.wellFormed
  have hmem := List.mem_singleton_self top
  obtain ⟨hnew, hlt⟩ := hadds.tops_new top hmem
  have htop := hadds.parent?_top top hmem
  have hchild : ∀ c ∈ s'.forest.children n, s'.forest.parent? c = some n :=
    fun c hc => hwf.mem_children.mp hc
  have hself : n ∉ s'.forest.children n :=
    fun hn => (hwf.grounded n).ne_parent (hchild n hn) rfl
  have htopOut : top ∉ s'.forest.children n := by
    intro ht
    rw [hchild top ht] at htop
    exact nomatch htop
  have hntop : ¬s'.forest.Covers top n := fun hcov =>
    absurd (hadds.lt_size_of_covers hs.wellFormed hcov hn) (Nat.not_lt_of_le hnew)
  have hnfoot : ¬s'.forest.Covers n foot := hadds.not_covers hs.wellFormed hn hfoot
  refine (meets_edit (achieves_transferAll _ hwf (hwf.nodup_children n) hchild (hfoot.lt_size hlt)
    hnfoot) (Q := fun _ s'' => ∃ f, s'.forest.Moves f (s'.forest.children n) (some foot) ∧
      s'' = { s' with forest := f }) fun _ f htransfers => ⟨f, htransfers.moves, rfl⟩).bind ?_
  rintro _ _ ⟨f, hmoves, rfl⟩
  refine Meets.bind (meets_supersede (s := { s' with forest := f }) [top] ?_ ?_ (by simp) ?_ ?_ ?_
    ?_) ?_
  · exact hs'.moves hmoves fun r hr hc => absurd hr (hs'.ne_root (hchild r hc))
  · rw [State.InPlace, hmoves.parent?_of_not_mem hself]
    exact hplace
  · simpa [hmoves.size_eq] using hlt
  · simpa [hmoves.parent?_of_not_mem htopOut] using htop
  · intro c hc hr
    rw [List.mem_singleton.mp hc, hroot] at hr
    exact absurd (hs.root_top top hr).1 (Nat.not_lt_of_le hnew)
  · intro c hc
    rw [List.mem_singleton.mp hc, hmoves.covers_iff fun d hd hcov =>
      (hwf.grounded d).not_covers (hchild d hd) hcov]
    exact hntop
  · rintro _ s'' ⟨hs'', hsize⟩
    refine meets_modify (hs''.bindAll fun e he => ?_)
    rw [hsize, hmoves.size_eq]
    exact hnamed e he

theorem meets_adjoin (aux : Template) (name : String) (hs : s.Sound) :
    Meets s (adjoin aux name) fun _ s' => s'.Sound := by
  simp only [adjoin]
  refine meets_node_bind hs fun n hn => meets_root_bind (meets_forest_bind ?_)
  split
  · exact meets_throw_bind hs trivial
  · rename_i hcut
    refine (meets_instantiate aux hs).bind ?_
    rintro ⟨top, named, foot⟩ s' ⟨hadds, hs', hnamed, hfoot⟩
    have hsound : s'.Sound := hs' ▸ hs.adds hadds
    have hroot : s'.root = s.root := by rw [hs']
    have hnlt := hs.names_known _ _ hn
    cases foot with
    | none => exact meets_throw_bind hsound trivial
    | some foot =>
        refine meets_forest_bind (meets_transfer hs hsound hroot hadds (hfoot foot rfl)
          (fun e he => (hnamed e he).2) hnlt ?_)
        rw [State.InPlace, hroot, hadds.parent?_old hnlt]
        exact State.inPlace_iff.mpr hcut

/-! ## Changing labels -/

theorem State.Sound.setLabel (hs : s.Sound) (n : Nat) (label : String) :
    { s with forest := s.forest.setLabel n label : State }.Sound where
  wellFormed := hs.wellFormed.setLabel n label
  root_top r hr := by simpa using hs.root_top r hr
  names_known name m hm := by simpa using hs.names_known name m hm

theorem meets_setLabel (hs : s.Sound) (n : Nat) (label : String) :
    Meets s (setLabel n label) fun _ s' => s'.Sound := meets_modify (hs.setLabel n label)

theorem Error.expected_ofReplacement (name replacement : String) (e : Regex.Error) :
    (Error.ofReplacement name replacement e).Expected := by
  unfold Error.ofReplacement
  split <;> trivial

theorem meets_relabel (name : String) (change : Relabeling) (hs : s.Sound) :
    Meets s (relabel name change) fun _ s' => s'.Sound := by
  simp only [relabel]
  refine meets_node_bind hs fun n _ => ?_
  cases change with
  | literal label => exact meets_setLabel hs n label
  | substitution r replacement =>
      refine meets_forest_bind ?_
      split
      · exact meets_setLabel hs n _
      · exact meets_throw hs (Error.expected_ofReplacement ..)

theorem meets_nodes (names : List String) (hs : s.Sound) :
    Meets s (names.mapM node) fun _ s' => s'.Sound := by
  induction names with
  | nil => exact meets_pure hs
  | cons name names ih =>
      rw [List.mapM_cons]
      exact meets_node_bind hs fun n _ => ih.bind fun _ s' hs' => meets_pure hs'

theorem meets_attachIndices (index : String) (nodes : List NodeId) (hs : s.Sound) :
    Meets s (nodes.forM (attachIndex index)) fun _ s' => s'.Sound := by
  induction nodes generalizing s with
  | nil => exact meets_pure hs
  | cons n nodes ih =>
      show Meets s (attachIndex index n >>= fun _ => nodes.forM (attachIndex index)) _
      refine Meets.bind (Q := fun _ s' => s'.Sound) ?_ fun _ s' hs' => ih hs'
      exact meets_forest_bind (meets_setLabel hs n _)

theorem meets_nextIndex (hs : s.Sound) : Meets s nextIndex fun _ s' => s'.Sound := by
  simp only [nextIndex]
  refine meets_root_bind ?_
  split
  · exact meets_pure hs
  · rename_i r hr
    refine meets_forest_bind ?_
    rw [hs.wellFormed.not_endlessBelow (hs.root_top r hr).1]
    simp only [Bool.false_eq_true, if_false]
    split
    · exact meets_pure hs
    · exact meets_throw hs trivial

theorem meets_coindex (names : List String) (hs : s.Sound) :
    Meets s (coindex names) fun _ s' => s'.Sound := by
  simp only [coindex]
  refine (meets_nodes names hs).bind fun nodes s' hs' => (meets_nextIndex hs').bind ?_
  intro k s'' hs''
  split
  · exact meets_attachIndices _ nodes hs''
  · exact meets_throw hs'' trivial

end Treebank.Surgery

namespace Treebank

open Surgery

/-! ## Statements -/

/-- The statement is no insertion of a literal tree that makes the name of its own place known. -/
def Statement.Separate : Statement → Prop
  | .insert source place => place.target ∉ source.introduced
  | _ => True

/-- A statement leaves a sound state behind. -/
theorem Statement.apply_meets (st : Statement) {s : State} (hs : s.Sound) (hst : st.Separate) :
    Meets s st.apply fun _ s' => s'.Sound := by
  cases st with
  | delete names => exact meets_deleteAll names hs
  | prune names => exact meets_pruneAll names hs
  | excise outer inner => exact meets_excise outer inner hs
  | relabel name change => exact meets_relabel name change hs
  | insert source place => exact meets_insert hs hst
  | move name place => exact meets_move name place hs
  | replace target source => exact meets_replace target source hs
  | adjoin aux name => exact meets_adjoin aux name hs
  | coindex names => exact meets_coindex names hs

end Treebank
