import Mathlib.Data.Set.Card
import Treebank.Proofs.Surgery.Accepted

/-!
# Statements that only take nodes away

A deletion, a pruning or an excision puts no node under another one that was not above it before. So
less and less hangs from the root, also when such a statement is carried out on nodes that have left
the tree already; and the first node that the statement names does not hang from the root afterwards.
-/

namespace Treebank

/-- The nodes that hang from the root, if there is one. -/
def Forest.hanging (f : Forest) (root : Option NodeId) : Set NodeId :=
  {n | ∃ r, root = some r ∧ f.Covers r n}

/-- The statement only takes nodes away, and at least one. -/
def Statement.Cuts : Statement → Prop
  | .delete names | .prune names => names ≠ []
  | .excise _ _ => True
  | _ => False

/-- The kinds of statements that only take nodes away. -/
def Statement.isCut : Statement → Bool
  | .delete _ | .prune _ | .excise _ _ => true
  | _ => false

namespace Surgery

variable {s s' s'' : State} {n : Nat} {sts : List Statement}

/-! ## Shrinking -/

/-- The second state is sound, and all that hangs from its root hung from the root of the first one
before, under the nodes that it hangs under now. -/
structure State.Shrinks (s s' : State) : Prop where
  sound : s'.Sound
  covers : ∀ a n, s'.forest.Covers a n → s.forest.Covers a n
  root : ∀ r, s'.root = some r → r ∈ s.forest.hanging s.root
  names_eq : s'.names = s.names

namespace State

theorem Shrinks.refl (hs : s.Sound) : s.Shrinks s where
  sound := hs
  covers _ _ h := h
  root r hr := ⟨r, hr, .self⟩
  names_eq := rfl

theorem Shrinks.hanging_subset (h : s.Shrinks s') :
    s'.forest.hanging s'.root ⊆ s.forest.hanging s.root := by
  rintro n ⟨r, hr, hcov⟩
  obtain ⟨top, htop, hcovr⟩ := h.root r hr
  exact ⟨top, htop, hcovr.trans (h.covers r n hcov)⟩

theorem Shrinks.trans (h : s.Shrinks s') (h' : s'.Shrinks s'') : s.Shrinks s'' where
  sound := h'.sound
  covers a n hcov := h.covers a n (h'.covers a n hcov)
  root r hr := h.hanging_subset (h'.root r hr)
  names_eq := h'.names_eq.trans h.names_eq

/-- A topmost node other than the root does not hang from it. -/
theorem not_mem_hanging {f : Forest} {root : Option NodeId} (hn : f.parent? n = none)
    (hroot : root ≠ some n) : n ∉ f.hanging root := by
  rintro ⟨r, hr, hcov⟩
  exact hroot (hcov.of_top hn ▸ hr)

theorem TakenOut.shrinks (h : s.TakenOut n s') (hs : s.Sound) : s.Shrinks s' := by
  have hsound := h.sound hs
  cases h with
  | root _ => exact ⟨hsound, fun _ _ h => h, nofun, rfl⟩
  | loose _ _ => exact .refl hs
  | child _ hp =>
      exact ⟨hsound, fun _ _ => (hs.wellFormed.moves_unlink hp).covers, fun r hr => ⟨r, hr, .self⟩,
        rfl⟩

theorem TakenOut.not_mem (h : s.TakenOut n s') (hs : s.Sound) :
    n ∉ s'.forest.hanging s'.root := by
  cases h with
  | root _ =>
      rintro ⟨r, hr, _⟩
      cases hr
  | loose hroot htop => exact not_mem_hanging htop hroot
  | child hroot hp =>
      refine not_mem_hanging ?_ hroot
      exact (hs.wellFormed.moves_unlink hp).parent?_of_mem (List.mem_singleton_self n)

theorem Excised.shrinks (h : s.Excised n s') (hs : s.Sound) : s.Shrinks s' := by
  have hsound := h.sound hs
  obtain ⟨hmoves, hbelow, hsuperseded⟩ := h
  cases hsuperseded with
  | root hroot =>
      refine ⟨hsound, fun _ _ => hmoves.covers, fun r hr => ?_, rfl⟩
      exact ⟨n, hroot, (hbelow r (List.mem_of_mem_head? hr)).2⟩
  | @slot p f' f'' hroot hp hout hin =>
      refine ⟨hsound, fun a m hcov => Forest.Covers.of_parents hcov fun c q hq => ?_,
        fun r hr => ⟨r, hr, .self⟩, rfl⟩
      rw [hin.parent?_eq] at hq
      split at hq
      · -- a node put in the slot stood below the node that was there, which stood under `q`
        rename_i hc
        rw [hmoves.parent?_of_not_mem fun hmem => (hbelow n hmem).1 rfl] at hp
        cases hq
        exact .trans (.under hp .self) (hbelow c hc).2
      · exact hmoves.covers (hout.covers (.under hq .self))

theorem Excised.not_mem (h : s.Excised n s') (hs : s.Sound) :
    n ∉ s'.forest.hanging s'.root := by
  obtain ⟨hmoves, hbelow, hsuperseded⟩ := h
  cases hsuperseded with
  | root _ =>
      rintro ⟨r, hr, hcov⟩
      obtain ⟨hne, hnr⟩ := hbelow r (List.mem_of_mem_head? hr)
      exact hne ((hs.wellFormed.grounded n).eq_of_covers (hmoves.covers hcov) hnr)
  | @slot p f' f'' hroot _ hout hin =>
      refine not_mem_hanging ?_ hroot
      rw [hin.parent?_of_not_mem fun hmem => (hbelow n hmem).1 rfl]
      exact hout.parent?_of_mem (List.mem_singleton_self n)

end State

/-! ## What each statement takes away -/

theorem meets_remove_shrinks (hs : s.Sound) (n : Nat) :
    Meets s (remove n) fun _ s' => s.Shrinks s' ∧ n ∉ s'.forest.hanging s'.root :=
  (meets_remove_takenOut hs n).mono fun _ _ h => ⟨h.shrinks hs, h.not_mem hs⟩

theorem meets_removeEmptied_shrinks (fuel : Nat) (hs : s.Sound) (n : Nat) :
    Meets s (removeEmptied fuel n) fun _ s' => s.Shrinks s' := by
  induction fuel generalizing s n with
  | zero => exact meets_pure (.refl hs)
  | succ fuel ih =>
      simp only [removeEmptied]
      refine meets_root_bind (meets_forest_bind ?_)
      split
      · exact meets_pure (.refl hs)
      · refine (meets_remove_shrinks hs n).bind fun above s' h => ?_
        cases above with
        | none => exact meets_pure h.1
        | some p => exact (ih h.1.sound p).mono fun _ _ => h.1.trans

/-- The state has shrunk, and the node that the name stood for hangs from the root no more. -/
def State.Loses (s : State) (name : String) (s' : State) : Prop :=
  s.Shrinks s' ∧ ∃ n, s.names.lookup name = some n ∧ n ∉ s'.forest.hanging s'.root

theorem State.Loses.trans {name : String} (h : s.Loses name s') (h' : s'.Shrinks s'') :
    s.Loses name s'' := by
  obtain ⟨hshrinks, n, hn, hout⟩ := h
  exact ⟨hshrinks.trans h', n, hn, fun hin => hout (h'.hanging_subset hin)⟩

theorem meets_deleteAll_shrinks (names : List String) (hs : s.Sound) :
    Meets s (deleteAll names) fun _ s' =>
      s.Shrinks s' ∧ ∀ name, names.head? = some name → s.Loses name s' := by
  induction names generalizing s with
  | nil => exact meets_pure ⟨.refl hs, nofun⟩
  | cons name names ih =>
      simp only [deleteAll]
      refine meets_node_bind hs fun n hn => (meets_remove_shrinks hs n).bind fun _ s' h => ?_
      have hloses : s.Loses name s' := ⟨h.1, n, hn, h.2⟩
      refine Meets.mono (Q := fun _ s'' => s.Loses name s'') (meets_root_bind ?_)
        fun _ s'' h => ⟨h.1, fun other hother => Option.some.inj hother ▸ h⟩
      split
      · exact meets_pure hloses
      · exact (ih h.1.sound).mono fun _ _ h' => hloses.trans h'.1

theorem meets_pruneAll_shrinks (names : List String) (hs : s.Sound) :
    Meets s (pruneAll names) fun _ s' =>
      s.Shrinks s' ∧ ∀ name, names.head? = some name → s.Loses name s' := by
  induction names generalizing s with
  | nil => exact meets_pure ⟨.refl hs, nofun⟩
  | cons name names ih =>
      simp only [pruneAll]
      refine meets_node_bind hs fun n hn => (meets_remove_shrinks hs n).bind fun above s' h => ?_
      have hloses : s.Loses name s' := ⟨h.1, n, hn, h.2⟩
      refine Meets.mono (Q := fun _ s'' => s.Loses name s'') (meets_root_bind ?_)
        fun _ s'' h => ⟨h.1, fun other hother => Option.some.inj hother ▸ h⟩
      split
      · exact meets_pure hloses
      · cases above with
        | none => exact (ih h.1.sound).mono fun _ _ h' => hloses.trans h'.1
        | some p =>
            refine meets_forest_bind ((meets_removeEmptied_shrinks _ h.1.sound p).bind
              fun _ s₁ h₁ => ?_)
            exact (ih h₁.sound).mono fun _ _ h' => (hloses.trans h₁).trans h'.1

/-- A statement that only takes nodes away takes away a node that one of its names stands for. -/
theorem meets_cut {st : Statement} (hst : st.Cuts) (hs : s.Sound) :
    Meets s st.apply fun _ s' => ∃ name, s.Loses name s' := by
  cases st with
  | delete names =>
      obtain ⟨name, names, rfl⟩ := List.exists_cons_of_ne_nil hst
      exact (meets_deleteAll_shrinks _ hs).mono fun _ _ h => ⟨name, h.2 name rfl⟩
  | prune names =>
      obtain ⟨name, names, rfl⟩ := List.exists_cons_of_ne_nil hst
      exact (meets_pruneAll_shrinks _ hs).mono fun _ _ h => ⟨name, h.2 name rfl⟩
  | excise outer inner =>
      refine (meets_excise_excised outer inner hs).mono fun _ s' h => ?_
      obtain ⟨n, hn, hexcised⟩ := h
      exact ⟨outer, hexcised.shrinks hs, n, hn, hexcised.not_mem hs⟩
  | relabel name change => exact hst.elim
  | insert source place => exact hst.elim
  | move name place => exact hst.elim
  | replace target source => exact hst.elim
  | adjoin aux name => exact hst.elim
  | coindex names => exact hst.elim

theorem meets_applyAll_shrinks (hsts : ∀ st ∈ sts, st.Cuts) (hs : s.Sound) :
    Meets s (Statement.applyAll sts) fun _ s' => s.Shrinks s' ∧
      (sts ≠ [] → ∃ name, s.Loses name s') := by
  induction sts generalizing s with
  | nil => exact meets_pure ⟨.refl hs, fun h => absurd rfl h⟩
  | cons st sts ih =>
      obtain ⟨hst, hsts⟩ := List.forall_mem_cons.mp hsts
      simp only [Statement.applyAll]
      refine (meets_cut hst hs).bind fun _ s' hcut => ?_
      obtain ⟨name, hloses⟩ := hcut
      refine Meets.mono (Q := fun _ s'' => s.Loses name s'') (meets_root_bind ?_)
        fun _ _ h => ⟨h.1, fun _ => ⟨name, h⟩⟩
      split
      · exact meets_pure hloses
      · exact (ih hsts hloses.1.sound).mono fun _ _ h => hloses.trans h.1

/-! ## How they fail -/

theorem tame_cut {st : Statement} {names : List String} (hst : st.Cuts)
    (hnames : st.referenced ⊆ names) : Tame False names s st.apply fun _ _ => True := by
  cases st with
  | delete targets => exact tame_deleteAll hnames
  | prune targets => exact tame_pruneAll hnames
  | excise outer inner =>
      exact tame_excise (hnames List.mem_cons_self) (hnames (List.mem_cons_of_mem _ List.mem_cons_self))
  | relabel name change => exact hst.elim
  | insert source place => exact hst.elim
  | move name place => exact hst.elim
  | replace target source => exact hst.elim
  | adjoin aux name => exact hst.elim
  | coindex targets => exact hst.elim

theorem tame_cuts (names : List String) (hsts : ∀ st ∈ sts, st.Cuts)
    (hnames : ∀ st ∈ sts, st.referenced ⊆ names) :
    Tame False names s (Statement.applyAll sts) fun _ _ => True := by
  induction sts generalizing s with
  | nil => exact tame_pure trivial
  | cons st sts ih =>
      obtain ⟨hst, hsts⟩ := List.forall_mem_cons.mp hsts
      obtain ⟨hfirst, hrest⟩ := List.forall_mem_cons.mp hnames
      simp only [Statement.applyAll]
      refine (tame_cut hst hfirst).bind fun _ _ _ => plain_root.bind_tame fun r _ _ => ?_
      split
      · exact tame_pure trivial
      · exact ih hsts hrest

/-- Every failure of statements that only take nodes away is reported with its place. -/
theorem State.isPlaced_of_cuts {e : Error} (hs : s.Sound) (hsts : ∀ st ∈ sts, st.Cuts)
    (he : (runFrom s (Statement.applyAll sts)).1 = .error e) : (Fault.surgery e).isPlaced = true := by
  have htame := tame_cuts (s := s) (sts.flatMap Statement.referenced) hsts
    fun st hst name hname => List.mem_flatMap.mpr ⟨st, hst, hname⟩
  exact ((htame.due he).isPlaced ((meets_applyAll_shrinks hsts hs).expected he)).resolve_right
    fun h => h.1

end Surgery

/-! ## Statements that have been read -/

namespace Statement

theorem ne_nil_of_readNames {statement keyword : String} {args names : List String}
    (h : readNames statement keyword args = .ok names) : names ≠ [] := by
  rw [readNames] at h
  split at h
  · cases h
  · rename_i hargs
    cases args with
    | nil => exact absurd rfl hargs
    | cons arg args =>
        rw [List.mapM_cons] at h
        obtain ⟨name, _, h⟩ := exists_of_bind_eq_ok h
        obtain ⟨rest, _, h⟩ := exists_of_bind_eq_ok h
        cases h
        exact List.cons_ne_nil name rest

theorem cuts_of_readWords {statement keyword : String} {args : List String} {st : Statement}
    (h : readWords statement keyword args = .ok st) (hcut : st.isCut = true) : st.Cuts := by
  unfold readWords at h
  split at h
  · obtain ⟨names, hnames, rfl⟩ := exists_of_map_eq_ok h
    exact ne_nil_of_readNames hnames
  · obtain ⟨names, hnames, rfl⟩ := exists_of_map_eq_ok h
    exact ne_nil_of_readNames hnames
  · obtain ⟨names, _, rfl⟩ := exists_of_map_eq_ok h
    cases hcut
  · obtain ⟨outer, _, h⟩ := exists_of_bind_eq_ok h
    obtain ⟨inner, _, h⟩ := exists_of_bind_eq_ok h
    cases h
    trivial
  -- the other keywords make other statements, and usage errors none
  all_goals first
    | cases h
    | obtain ⟨_, _, h⟩ := exists_of_bind_eq_ok h
      obtain ⟨_, _, h⟩ := exists_of_bind_eq_ok h
      cases h
      cases hcut
    | split at h
      · cases h
      · obtain ⟨_, _, h⟩ := exists_of_bind_eq_ok h
        obtain ⟨_, _, h⟩ := exists_of_bind_eq_ok h
        cases h
        cases hcut

/-- A deletion, pruning or excision that has been read names the nodes that it takes away. -/
theorem cuts_of_read {text : String} {st : Statement} (h : read text = .ok st)
    (hcut : st.isCut = true) : st.Cuts := by
  simp only [read] at h
  obtain ⟨words, _, h⟩ := exists_of_bind_eq_ok h
  split at h
  · cases h
  · exact cuts_of_readWords h hcut

end Statement

end Treebank
