import Treebank.Proofs.Surgery.Agreement

/-!
# Statements depend on structure only

Each statement has the same outcome in corresponding states, and so has a sequence of them. Which
numbers the nodes have, and what else there is in the forest, makes no difference.
-/

namespace Treebank

namespace Surgery

variable {R R₁ : Pairing} {s s' t t' : State} {n n' m m' : NodeId} {name : String}
  {ns ns' : List NodeId}

/-! ## Taking nodes out -/

theorem deleteAll_agree (names : List String) (h : s.Pairs R s') :
    Agree R s s' (deleteAll names) (deleteAll names) fun _ _ _ => True := by
  induction names generalizing R s s' with
  | nil => exact agree_pure h trivial
  | cons name names ih =>
      simp only [deleteAll]
      refine agree_node_bind h fun n n' hn => (remove_agree h hn).bind fun _ _ _ _ _ _ ht _ => ?_
      refine agree_root_bind ?_
      rw [Option.Rel.isNone_eq ht.root]
      exact .ite Iff.rfl (fun _ => agree_pure ht trivial) fun _ => ih ht

theorem pruneAll_agree (names : List String) (h : s.Pairs R s') :
    Agree R s s' (pruneAll names) (pruneAll names) fun _ _ _ => True := by
  induction names generalizing R s s' with
  | nil => exact agree_pure h trivial
  | cons name names ih =>
      simp only [pruneAll]
      refine agree_node_bind h fun n n' hn => (remove_agree h hn).bind ?_
      intro R₁ t t' above above' _ ht habove
      refine agree_root_bind ?_
      rw [Option.Rel.isNone_eq ht.root]
      refine .ite Iff.rfl (fun _ => agree_pure ht trivial) fun _ => ?_
      cases habove with
      | none => exact ih ht
      | some hp =>
          refine agree_forest_bind ((removeEmptied_agree ht hp).bind ?_)
          exact fun _ _ _ _ _ _ ht _ => ih ht

theorem releaseAll_agree {f f' : Forest} (h : Forest.Pairs R f f') (hn : R n n')
    (hns : List.Forall₂ R ns ns') :
    Forest.EditAgree R f f' (releaseAll n ns) (releaseAll n' ns') fun _ _ => True := by
  induction hns generalizing f f' with
  | nil => exact Forest.editAgree_pure h trivial
  | cons hc _ ih =>
      exact (Forest.removeChild_agree h hn hc).bind fun _ _ _ _ h _ => ih h

theorem supersede_agree (h : s.Pairs R s') (hn : R n n') (hns : List.Forall₂ R ns ns') :
    Agree R s s' (supersede n ns) (supersede n' ns') fun _ _ _ => True := by
  simp only [supersede]
  refine agree_root_bind ?_
  rw [h.forest.beq_some_eq h.root hn]
  refine .ite Iff.rfl (fun _ => agree_setRoot h (head?_rel hns)) fun _ => ?_
  refine (agree_edit h (Forest.replaceWith_agree h.forest hn hns)).bind ?_
  exact fun _ _ _ _ _ _ ht _ => agree_pure ht trivial

theorem dissolve_agree (h : s.Pairs R s') (hn : R n n') :
    Agree R s s' (dissolve name n) (dissolve name n') fun _ _ _ => True := by
  have hchildren := h.forest.children_rel hn
  simp only [dissolve]
  refine agree_forest_bind (agree_root_bind ?_)
  rw [h.forest.beq_some_eq h.root hn, ← hchildren.length_eq]
  refine .ite Iff.rfl (fun _ => agree_throw_bind h _) fun _ => ?_
  refine (agree_edit h (releaseAll_agree h.forest hn hchildren)).bind ?_
  exact fun _ _ _ _ _ hle ht _ => supersede_agree ht (hle _ _ hn) (hchildren.imp hle)

theorem isAbove_agree (h : s.Pairs R s') (hn : R n n') (hm : R m m') :
    Agree R s s' (isAbove n m) (isAbove n' m') fun _ => Eq := by
  simp only [isAbove]
  refine agree_forest_bind ?_
  rw [h.forest.dominates_eq hn hm, h.forest.endlessAbove_eq hm]
  refine .ite Iff.rfl (fun _ => agree_pure h rfl) fun _ => ?_
  exact .ite Iff.rfl (fun _ => agree_throw_bind h _) fun _ => agree_pure h rfl

theorem checkNested_agree (outerName innerName : String) (h : s.Pairs R s') (hn : R n n')
    (hm : R m m') : Agree R s s' (checkNested outerName innerName n m)
      (checkNested outerName innerName n' m') fun _ _ _ => True := by
  simp only [checkNested]
  rw [h.forest.beq_eq hn hm]
  refine .ite Iff.rfl (fun _ => agree_pure h trivial) fun _ => ?_
  refine (isAbove_agree h hn hm).bind ?_
  rintro _ _ _ above _ _ ht rfl
  exact .ite Iff.rfl (fun _ => agree_pure ht trivial) fun _ => agree_throw ht _

theorem excise_agree (outer inner : String) (h : s.Pairs R s') :
    Agree R s s' (excise outer inner) (excise outer inner) fun _ _ _ => True := by
  simp only [excise]
  refine agree_node_bind h fun n n' hn => agree_node_bind h fun m m' hm => ?_
  refine (checkNested_agree outer inner h hn hm).bind fun R₁ t t' _ _ hle ht _ => ?_
  have hn := hle _ _ hn
  have hm := hle _ _ hm
  refine agree_forest_bind (agree_root_bind ?_)
  rw [Option.Rel.isNone_eq (ht.forest.parent_rel hn), bne, bne, ht.forest.beq_some_eq ht.root hn,
    ht.forest.beq_eq hn hm]
  refine .ite Iff.rfl (fun _ => agree_throw_bind ht _) fun _ => ?_
  refine .ite Iff.rfl (fun _ => dissolve_agree ht hm) fun _ => ?_
  refine (agree_edit ht (Forest.detach_agree ht.forest hm)).bind ?_
  exact fun _ _ _ _ _ hle ht _ => supersede_agree ht (hle _ _ hn) (.cons (hle _ _ hm) .nil)

/-! ## Putting nodes in -/

theorem targetOf_agree (p : Place) (h : s.Pairs R s') :
    Agree R s s' (targetOf p) (targetOf p) fun R => R := by
  simp only [targetOf]
  refine agree_node_bind h fun n n' hn => ?_
  have hparent := Option.Rel.isNone_eq (h.forest.parent_rel hn)
  cases p with
  | childOf => exact agree_pure h hn
  | _ =>
      refine agree_forest_bind ?_
      rw [hparent]
      exact .ite Iff.rfl (fun _ => agree_throw_bind h _) fun _ => agree_pure h hn

theorem putAt_agree (p : Place) (h : s.Pairs R s') (hn : R n n') :
    Agree R s s' (putAt n p) (putAt n' p) fun _ _ _ => True := by
  simp only [putAt]
  refine (targetOf_agree p h).bind fun R₁ t t' target target' hle ht htarget => ?_
  have hn := hle _ _ hn
  have hparent := ht.forest.parent_rel htarget
  refine agree_forest_bind ?_
  cases p with
  | childOf target index =>
      simp only
      rw [(ht.forest.children_rel htarget).length_eq]
      refine .ite Iff.rfl (fun _ => agree_throw_bind ht _) fun _ => ?_
      exact agree_edit ht (Forest.addChild_agree ht.forest htarget hn _)
  | _ =>
      refine agree_parent hparent (agree_throw ht _) fun parent parent' hp => agree_edit ht ?_
      refine (Forest.childIndex_agree ht.forest hp htarget).bind ?_
      rintro _ _ i _ hpairs rfl
      exact Forest.addChild_agree hpairs hp hn _

theorem plant_agree (u : Tree) (h : s.Pairs R s') :
    Agree R s s' (plant u) (plant u) fun R => R := by
  obtain ⟨R₁, hleads, hn⟩ := h.forest.plant u
  exact ⟨R₁, hleads, ⟨hleads.pairs, Option.Rel.mono h.root hleads.le, h.names_mono hleads.le⟩,
    .ok hn⟩

theorem duplicate_agree (h : s.Pairs R s') (hn : R n n') :
    Agree R s s' (duplicate n) (duplicate n') fun R => R := by
  simp only [duplicate]
  refine agree_forest_bind ?_
  rw [← h.forest.endlessBelow_eq hn]
  refine .ite Iff.rfl (fun _ => agree_throw_bind h _) fun hends => ?_
  rw [h.forest.tree_eq hn (Bool.not_eq_true _ ▸ hends)]
  exact plant_agree _ h

/-- Copies of a literal tree correspond, with their named nodes and feet. -/
def SameCopy (R : Pairing) (c c' : NodeId × List (String × NodeId) × Option NodeId) : Prop :=
  R c.1 c'.1 ∧ List.Forall₂ (SameEntry R) c.2.1 c'.2.1 ∧ Option.Rel R c.2.2 c'.2.2

theorem followEach_rel {f f' : Forest} (h : Forest.Pairs R f f') (hn : R n n')
    (named : List (String × List Nat)) : List.Forall₂ (SameEntry R)
      (named.filterMap fun (name, path) => (f.follow? n path).map (name, ·))
      (named.filterMap fun (name, path) => (f'.follow? n' path).map (name, ·)) := by
  refine List.rel_filterMap (R := Eq) ?_ (List.forall₂_same.mpr fun _ _ => rfl)
  rintro ⟨name, path⟩ _ rfl
  have hrel := h.follow?_rel hn path
  show Option.Rel _ (Option.map _ (f.follow? n path)) (Option.map _ (f'.follow? n' path))
  cases hm : f.follow? n path <;> cases hm' : f'.follow? n' path <;> rw [hm, hm'] at hrel <;>
    cases hrel
  · exact .none
  · rename_i hmm
    exact .some ⟨rfl, hmm⟩

theorem instantiate_agree (u : Template) (h : s.Pairs R s') :
    Agree R s s' (instantiate u) (instantiate u) SameCopy := by
  simp only [instantiate]
  refine (plant_agree u.tree h).bind fun R₁ t t' top top' _ ht htop => agree_forest_bind ?_
  refine agree_pure ht ⟨htop, followEach_rel ht.forest htop u.names, ?_⟩
  cases u.foot with
  | none => exact .none
  | some path => exact ht.forest.follow?_rel htop path

theorem materialize_agree (source : Source) (h : s.Pairs R s') :
    Agree R s s' (materialize source) (materialize source) fun R => R := by
  cases source with
  | node name =>
      simp only [materialize]
      exact agree_node_bind h fun n n' hn => duplicate_agree h hn
  | template u =>
      simp only [materialize]
      refine (instantiate_agree u h).bind ?_
      rintro R₁ t t' ⟨top, named, foot⟩ ⟨top', named', foot'⟩ _ ht ⟨htop, hnamed, _⟩
      exact (agree_bindAll ht hnamed).bind fun _ _ _ _ _ hle ht _ => agree_pure ht (hle _ _ htop)

theorem insert_agree (source : Source) (p : Place) (h : s.Pairs R s') :
    Agree R s s' (insert source p) (insert source p) fun _ _ _ => True := by
  simp only [insert]
  refine (targetOf_agree p h).bind fun _ _ _ _ _ _ ht _ => ?_
  exact (materialize_agree source ht).bind fun _ _ _ _ _ _ ht hcopy => putAt_agree p ht hcopy

theorem checkOutside_agree (name : String) (h : s.Pairs R s') (hn : R n n') (hm : R m m') :
    Agree R s s' (checkOutside name n m) (checkOutside name n' m') fun _ _ _ => True := by
  simp only [checkOutside]
  rw [h.forest.beq_eq hm hn]
  refine .ite Iff.rfl (fun _ => agree_throw_bind h _) fun _ => ?_
  refine (isAbove_agree h hn hm).bind ?_
  rintro _ _ _ above _ _ ht rfl
  exact .ite Iff.rfl (fun _ => agree_throw ht _) fun _ => agree_pure ht trivial

theorem move_agree (name : String) (p : Place) (h : s.Pairs R s') :
    Agree R s s' (move name p) (move name p) fun _ _ _ => True := by
  simp only [move]
  refine agree_node_bind h fun n n' hn => ?_
  refine (targetOf_agree p h).bind fun R₁ t t' m m' hle ht hm => ?_
  have hn := hle _ _ hn
  refine agree_forest_bind (agree_root_bind ?_)
  rw [Option.Rel.isNone_eq (ht.forest.parent_rel hn), ht.forest.beq_some_eq ht.root hn]
  refine .ite Iff.rfl (fun _ => agree_throw_bind ht _) fun _ => ?_
  refine (checkOutside_agree name ht hn hm).bind fun _ _ _ _ _ hle ht _ => ?_
  have hn := hle _ _ hn
  refine (agree_edit ht (Forest.detach_agree ht.forest hn)).bind fun _ _ _ _ _ hle ht _ => ?_
  exact putAt_agree p ht (hle _ _ hn)

/-- A node that is neither the root nor below another one has left the tree in both states. -/
theorem cutOff_iff (h : s.Pairs R s') (hn : R n n') :
    (s.root != some n && (s.forest.parent? n).isNone) =
      (s'.root != some n' && (s'.forest.parent? n').isNone) := by
  rw [bne, bne, h.forest.beq_some_eq h.root hn, Option.Rel.isNone_eq (h.forest.parent_rel hn)]

theorem replace_agree (name : String) (source : Source) (h : s.Pairs R s') :
    Agree R s s' (replace name source) (replace name source) fun _ _ _ => True := by
  simp only [replace]
  refine agree_node_bind h fun n n' hn => ?_
  refine (materialize_agree source h).bind fun R₁ t t' copy copy' hle ht hcopy => ?_
  have hn := hle _ _ hn
  refine agree_root_bind (agree_forest_bind ?_)
  rw [cutOff_iff ht hn]
  refine .ite Iff.rfl (fun _ => agree_throw_bind ht _) fun _ => ?_
  exact supersede_agree ht hn (.cons hcopy .nil)

theorem transferAll_agree {f f' : Forest} (h : Forest.Pairs R f f') (hn : R n n') (hm : R m m')
    (hns : List.Forall₂ R ns ns') :
    Forest.EditAgree R f f' (transferAll n m ns) (transferAll n' m' ns') fun _ _ => True := by
  induction hns generalizing f f' with
  | nil => exact Forest.editAgree_pure h trivial
  | cons hc _ ih =>
      refine (Forest.removeChild_agree h hn hc).bind fun _ _ _ _ h _ => ?_
      exact (Forest.addChild_agree h hm hc none).bind fun _ _ _ _ h _ => ih h

theorem adjoin_agree (aux : Template) (name : String) (h : s.Pairs R s') :
    Agree R s s' (adjoin aux name) (adjoin aux name) fun _ _ _ => True := by
  simp only [adjoin]
  refine agree_node_bind h fun n n' hn => agree_root_bind (agree_forest_bind ?_)
  rw [cutOff_iff h hn]
  refine .ite Iff.rfl (fun _ => agree_throw_bind h _) fun _ => ?_
  refine (instantiate_agree aux h).bind ?_
  rintro R₁ t t' ⟨top, named, foot⟩ ⟨top', named', foot'⟩ hle ht ⟨htop, hnamed, hfoot⟩
  cases hfoot with
  | none => exact agree_throw_bind ht _
  | some hfoot =>
      have hn := hle _ _ hn
      refine agree_forest_bind ?_
      have htransfer := transferAll_agree ht.forest hn hfoot (ht.forest.children_rel hn)
      refine (agree_edit ht htransfer).bind fun R₂ _ _ _ _ hle₂ ht _ => ?_
      refine (supersede_agree ht (hle₂ _ _ hn) (.cons (hle₂ _ _ htop) .nil)).bind ?_
      intro R₃ _ _ _ _ hle₃ ht _
      refine agree_bindAll ht (hnamed.imp fun _ _ he => ?_)
      exact ⟨he.1, hle₃ _ _ (hle₂ _ _ he.2)⟩

/-! ## Changing labels -/

theorem relabel_agree (name : String) (change : Relabeling) (h : s.Pairs R s') :
    Agree R s s' (relabel name change) (relabel name change) fun _ _ _ => True := by
  simp only [relabel]
  refine agree_node_bind h fun n n' hn => ?_
  cases change with
  | literal label => exact agree_setLabel h hn label
  | substitution r replacement =>
      refine agree_forest_bind ?_
      rw [← h.forest.label_eq hn]
      split
      · exact agree_setLabel h hn _
      · exact agree_throw h _

theorem labels_eq {f f' : Forest} (h : Forest.Pairs R f f') (hns : List.Forall₂ R ns ns') :
    (ns.filter (!f.isLeaf ·)).map f.label = (ns'.filter (!f'.isLeaf ·)).map f'.label := by
  induction hns with
  | nil => rfl
  | cons hc _ ih =>
      rw [List.filter_cons, List.filter_cons, h.isLeaf_eq hc]
      split
      · rw [List.map_cons, List.map_cons, h.label_eq hc, ih]
      · exact ih

theorem nextIndex_agree (h : s.Pairs R s') :
    Agree R s s' nextIndex nextIndex fun _ => Eq := by
  have hroot := h.root
  simp only [nextIndex]
  refine agree_root_bind ?_
  cases hr : s.root <;> cases hr' : s'.root <;> rw [hr, hr'] at hroot <;> cases hroot
  · exact agree_pure h rfl
  · rename_i hrr
    refine agree_forest_bind ?_
    rw [← h.forest.endlessBelow_eq hrr]
    refine .ite Iff.rfl (fun _ => agree_throw_bind h _) fun hends => ?_
    rw [labels_eq h.forest (h.forest.preorder_rel hrr (Bool.not_eq_true _ ▸ hends))]
    split
    · exact agree_pure h rfl
    · exact agree_throw h _

theorem attachIndex_agree (index : String) (h : s.Pairs R s') (hn : R n n') :
    Agree R s s' (attachIndex index n) (attachIndex index n') fun _ _ _ => True := by
  simp only [attachIndex]
  refine agree_forest_bind ?_
  rw [h.forest.label_eq hn]
  exact agree_setLabel h hn _

theorem attachEach_agree (index : String) (h : s.Pairs R s') (hns : List.Forall₂ R ns ns') :
    Agree R s s' (ns.forM (attachIndex index)) (ns'.forM (attachIndex index))
      fun _ _ _ => True := by
  induction ns generalizing R s s' ns' with
  | nil =>
      cases hns
      exact agree_pure h trivial
  | cons n ns ih =>
      cases hns with
      | cons hn hns =>
          exact (attachIndex_agree index h hn).bind fun _ _ _ _ _ hle ht _ => ih ht (hns.imp hle)

theorem nodes_agree (names : List String) (h : s.Pairs R s') :
    Agree R s s' (names.mapM node) (names.mapM node) fun R => List.Forall₂ R := by
  induction names with
  | nil => exact agree_pure h .nil
  | cons name names ih =>
      rw [List.mapM_cons]
      refine agree_node_bind h fun n n' hn => ih.bind fun _ _ _ ns ns' hle ht hns => ?_
      exact agree_pure ht (.cons (hle _ _ hn) hns)

theorem coindex_agree (names : List String) (h : s.Pairs R s') :
    Agree R s s' (coindex names) (coindex names) fun _ _ _ => True := by
  simp only [coindex]
  refine (nodes_agree names h).bind fun _ _ _ ns ns' _ h hns => (nextIndex_agree h).bind ?_
  rintro _ _ _ k _ hle h rfl
  split
  · exact attachEach_agree _ h (hns.imp hle)
  · exact agree_throw h _

end Surgery

open Surgery

variable {R : Pairing} {s s' : State}

/-- A statement has the same outcome in corresponding states, and they go on corresponding. -/
theorem Statement.apply_agree (st : Statement) (h : s.Pairs R s') :
    Agree R s s' st.apply st.apply fun _ _ _ => True := by
  cases st with
  | delete names => exact deleteAll_agree names h
  | prune names => exact pruneAll_agree names h
  | excise outer inner => exact excise_agree outer inner h
  | relabel name change => exact relabel_agree name change h
  | insert source place => exact insert_agree source place h
  | move name place => exact move_agree name place h
  | replace target source => exact replace_agree target source h
  | adjoin aux name => exact adjoin_agree aux name h
  | coindex names => exact coindex_agree names h

theorem Statement.applyAll_agree (sts : List Statement) (h : s.Pairs R s') :
    Agree R s s' (applyAll sts) (applyAll sts) fun _ _ _ => True := by
  induction sts generalizing R s s' with
  | nil => exact agree_pure h trivial
  | cons st sts ih =>
      simp only [applyAll]
      refine (st.apply_agree h).bind fun _ _ _ _ _ _ ht _ => agree_root_bind ?_
      rw [Option.Rel.isNone_eq ht.root]
      exact .ite Iff.rfl (fun _ => agree_pure ht trivial) fun _ => ih ht

end Treebank
