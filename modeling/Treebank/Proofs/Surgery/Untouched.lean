import Treebank.Diagnostic
import Treebank.Proofs.Forest.Standing
import Treebank.Proofs.Surgery.Linked
import Treebank.Proofs.Surgery.Naming

/-!
# What failing statements leave behind

A statement that makes a single edit looks before it changes any node: where it fails for a reason of
its own, it may have made new nodes and given them names, but the nodes that there were are as they
were. A move is the exception: it takes the node out before it counts the children at the new place.
-/

namespace Treebank

namespace Surgery

variable {α β : Type} {s s₀ s' : State} {names : List String} {f : Forest} {e : Error}
  {Q : α → State → Prop} {R : β → State → Prop} {F : Error → State → Prop}

/-- The root and every node that there was are as they were. At most there are new nodes, and names
among the given ones stand for some of them. -/
structure State.Spared (s : State) (names : List String) (s' : State) : Prop where
  root_eq : s'.root = s.root
  size_le : s.forest.size ≤ s'.forest.size
  node_eq : ∀ n < s.forest.size, s'.forest.node n = s.forest.node n
  lookup : ∀ name, s'.names.lookup name = s.names.lookup name ∨ name ∈ names ∧
    ∃ m, s'.names.lookup name = some m ∧ s.forest.size ≤ m ∧ m < s'.forest.size

theorem State.Spared.refl (s : State) (names : List String) : s.Spared names s where
  root_eq := rfl
  size_le := Nat.le_refl _
  node_eq _ _ := rfl
  lookup _ := Or.inl rfl

theorem State.spared_adds {tops : List NodeId} (names : List String)
    (hadds : Forest.Adds none tops s.forest f) : s.Spared names { s with forest := f } where
  root_eq := rfl
  size_le := hadds.size_le
  node_eq := hadds.node_eq
  lookup _ := Or.inl rfl

/-- The names of a literal tree stand for nodes of its copy. -/
theorem State.spared_copied (s : State) (t : Template) : s.Spared t.introduced (s.copied t) := by
  obtain ⟨_, hadds⟩ := s.forest.plant_adds t.tree
  refine ⟨s.root_copied t, ?_, ?_, fun name => ?_⟩
  · exact s.forest_copied t ▸ hadds.size_le
  · exact s.forest_copied t ▸ hadds.node_eq
  · refine (s.lookup_copied t name).imp_right ?_
    rintro ⟨m, hm, hlookup⟩
    refine ⟨mem_introduced_of_mem_namedNodes hm, m, hlookup, ?_⟩
    obtain ⟨⟨_, path⟩, _, hfollow⟩ := List.mem_filterMap.mp hm
    obtain ⟨_, hpath, ⟨⟩⟩ := Option.map_eq_some_iff.mp hfollow
    have hreaches : (s.forest.plant t.tree).2.Reaches (s.forest.plant t.tree).1 m := ⟨path, hpath⟩
    rw [s.forest_copied t]
    exact ⟨s.forest.size_le_of_reaches_plant t.tree hreaches,
      (Forest.treeAt_plant s.forest t.tree).lt_size_of_reaches hreaches⟩

/-! ## Steps that only look -/

/-- The step changes nothing, also when it fails. -/
def Looks (s : State) (x : Surgery α) : Prop := Concludes s x (fun _ s' => s' = s) fun _ s' => s' = s

theorem looks_pure (a : α) : Looks s (pure a : Surgery α) := rfl

theorem looks_throw (e : Error) : Looks s (throw e : Surgery α) := rfl

theorem Looks.bind_concludes {x : Surgery α} {k : α → Surgery β} (hx : Looks s x) (hF : ∀ e, F e s)
    (hk : ∀ a, Concludes s (k a) R F) : Concludes s (x >>= k) R F := by
  have hx' : Concludes s x (fun _ s' => s' = s) F := hx.mono (fun _ _ => id) fun e _ h => h ▸ hF e
  refine hx'.bind ?_
  rintro a _ rfl
  exact hk a

theorem Looks.bind {x : Surgery α} {k : α → Surgery β} (hx : Looks s x) (hk : ∀ a, Looks s (k a)) :
    Looks s (x >>= k) := hx.bind_concludes (fun _ => rfl) hk

theorem looks_node (s : State) (name : String) : Looks s (node name) := by
  rw [Looks, Concludes, ← runFrom, runFrom_node]
  cases s.names.lookup name <;> rfl

theorem looks_of_concludes {x : Surgery α} {P : α → Prop} {G : Error → Prop}
    (h : Concludes s x (fun a s' => s = s' ∧ P a) fun e s' => s = s' ∧ G e) : Looks s x :=
  h.mono (fun _ _ h => h.1.symm) fun _ _ h => h.1.symm

theorem looks_targetOf (s : State) (p : Place) : Looks s (targetOf p) :=
  looks_of_concludes (concludes_targetOf s p)

theorem looks_checkNested (s : State) (outerName innerName : String) (outer inner : NodeId) :
    Looks s (checkNested outerName innerName outer inner) :=
  looks_of_concludes (P := fun _ => _) (concludes_checkNested s outerName innerName outer inner)

theorem looks_nextIndex (s : State) : Looks s nextIndex := by
  simp only [nextIndex]
  refine concludes_root_bind ?_
  split
  · exact looks_pure _
  · refine concludes_forest_bind ?_
    split
    · exact looks_throw _
    · split
      · exact looks_pure _
      · exact looks_throw _

theorem looks_nodes (s : State) (names : List String) : Looks s (names.mapM node) := by
  induction names with
  | nil => exact looks_pure _
  | cons name names ih =>
      rw [List.mapM_cons]
      exact (looks_node s name).bind fun n => ih.bind fun ns => looks_pure _

/-! ## Steps that fail by an edit only -/

/-- In every state the step comes to its end, or a primitive edit is refused. -/
def Bare (x : Surgery α) : Prop := ∀ s, Concludes s x (fun _ _ => True) fun e _ => ¬e.Expected

theorem Bare.bind {x : Surgery α} {k : α → Surgery β} (hx : Bare x) (hk : ∀ a, Bare (k a)) :
    Bare (x >>= k) := fun s => (hx s).bind fun a s' _ => hk a s'

theorem bare_modify (g : State → State) : Bare (modify g) := fun _ => trivial

theorem bare_edit (c : Forest.Edit α) : Bare (edit c) := by
  intro s
  rw [Concludes, ← runFrom, runFrom_edit]
  rcases s.forest.runEdit c with ⟨_ | _, _⟩
  · exact id
  · trivial

theorem bare_supersede (n : NodeId) (others : List NodeId) : Bare (supersede n others) := by
  intro s
  simp only [supersede]
  refine concludes_root_bind ?_
  split
  · exact bare_modify _ s
  · exact (bare_edit _).bind (fun _ _ => concludes_pure trivial) s

theorem bare_attachIndices (index : String) (nodes : List NodeId) :
    Bare (nodes.forM (attachIndex index)) := by
  induction nodes with
  | nil => exact fun _ => trivial
  | cons n nodes ih =>
      exact Bare.bind (fun s => concludes_forest_bind (bare_modify _ s)) fun _ => ih

/-! ## Steps that spare what there is -/

/-- If the step fails for a reason of its own, it leaves what there was in the first state. -/
def Spares (s₀ : State) (names : List String) (s : State) (x : Surgery α) : Prop :=
  Concludes s x (fun _ _ => True) fun e s' => e.Expected → s₀.Spared names s'

theorem Bare.spares {x : Surgery α} (hx : Bare x) : Spares s₀ names s x :=
  (hx s).mono (fun _ _ => id) fun _ _ hne he => absurd he hne

theorem Looks.bind_spares {x : Surgery α} {k : α → Surgery β} (hx : Looks s x)
    (h : s₀.Spared names s) (hk : ∀ a, Spares s₀ names s (k a)) : Spares s₀ names s (x >>= k) :=
  hx.bind_concludes (fun _ _ => h) hk

theorem spares_throw (h : s₀.Spared names s) (e : Error) :
    Spares s₀ names s (throw e : Surgery α) := fun _ => h

theorem spares_throw_bind {k : α → Surgery β} (h : s₀.Spared names s) (e : Error) :
    Spares s₀ names s ((throw e : Surgery α) >>= k) := fun _ => h

theorem dissolve_spares (h : s₀.Spared names s) (name : String) (n : NodeId) :
    Spares s₀ names s (dissolve name n) := by
  simp only [dissolve]
  refine concludes_forest_bind (concludes_root_bind ?_)
  split
  · exact spares_throw_bind h _
  · exact ((bare_edit _).bind fun _ => bare_supersede _ _).spares

theorem excise_spares (s : State) (outerName innerName : String) :
    Spares s [] s (excise outerName innerName) := by
  have h := State.Spared.refl s []
  simp only [excise]
  refine (looks_node s outerName).bind_spares h fun outer => ?_
  refine (looks_node s innerName).bind_spares h fun inner => ?_
  refine (looks_checkNested s _ _ outer inner).bind_spares h fun _ => ?_
  refine concludes_forest_bind (concludes_root_bind ?_)
  split
  · exact spares_throw_bind h _
  · split
    · exact dissolve_spares h _ _
    · exact ((bare_edit _).bind fun _ => bare_supersede _ _).spares

theorem relabel_spares (s : State) (name : String) (change : Relabeling) :
    Spares s [] s (relabel name change) := by
  have h := State.Spared.refl s []
  simp only [relabel]
  refine (looks_node s name).bind_spares h fun n => ?_
  cases change with
  | literal label => exact (bare_modify _).spares
  | substitution r replacement =>
      refine concludes_forest_bind ?_
      split
      · exact (bare_modify _).spares
      · exact spares_throw h _

/-- A place that cannot be had is refused before a node is put there. -/
theorem putAt_spares (h : s₀.Spared names s) (n : NodeId) (p : Place) :
    Spares s₀ names s (putAt n p) := by
  simp only [putAt]
  refine (looks_targetOf s p).bind_spares h fun t => concludes_forest_bind ?_
  split
  · split
    · exact spares_throw_bind h _
    · exact (bare_edit _).spares
  · split
    · exact spares_throw h _
    · exact (bare_edit _).spares

theorem concludes_materialize (s : State) (source : Source) : Concludes s (materialize source)
    (fun copy s' => Forest.Adds none [copy] s.forest s'.forest ∧ s.Spared source.introduced s' ∧
      ∀ name, source = .node name → ∃ n, s.names.lookup name = some n)
    fun e s' => s' = s ∧ ∃ name n, source = .node name ∧
      (s.names.lookup name = none ∧ e = .unbound name ∨
        s.names.lookup name = some n ∧ s.forest.endlessBelow n = true ∧ e = .endless) := by
  cases source with
  | node name =>
      rw [materialize, Concludes, ← runFrom, runFrom_bind, runFrom_node]
      cases hn : s.names.lookup name with
      | none => exact ⟨rfl, name, 0, rfl, Or.inl ⟨hn, rfl⟩⟩
      | some n =>
          simp only []
          rw [runFrom_duplicate]
          cases hendless : s.forest.endlessBelow n with
          | true => exact ⟨rfl, name, n, rfl, Or.inr ⟨hn, hendless, rfl⟩⟩
          | false =>
              obtain ⟨_, hadds⟩ := s.forest.plant_adds (s.forest.tree n)
              refine ⟨hadds, State.spared_adds _ hadds, ?_⟩
              rintro _ ⟨⟩
              exact ⟨n, hn⟩
  | template t =>
      obtain ⟨_, hadds⟩ := s.forest.plant_adds t.tree
      rw [Concludes, ← runFrom, runFrom_materialize]
      exact ⟨s.forest_copied t ▸ hadds, s.spared_copied t, by simp⟩

theorem insert_spares (s : State) (source : Source) (p : Place) :
    Spares s source.introduced s (insert source p) := by
  have h := State.Spared.refl s source.introduced
  simp only [insert]
  refine (looks_targetOf s p).bind_spares h fun _ => ?_
  refine ((concludes_materialize s source).imp_error fun _ _ hsame _ => hsame.1 ▸ h).bind ?_
  exact fun copy s' hcopy => putAt_spares hcopy.2.1 copy p

theorem replace_spares (s : State) (name : String) (source : Source) :
    Spares s source.introduced s (replace name source) := by
  have h := State.Spared.refl s source.introduced
  simp only [replace]
  refine (looks_node s name).bind_spares h fun n => ?_
  refine ((concludes_materialize s source).imp_error fun _ _ hsame _ => hsame.1 ▸ h).bind ?_
  refine fun copy s' hcopy => concludes_root_bind (concludes_forest_bind ?_)
  split
  · exact spares_throw_bind hcopy.2.1 _
  · exact (bare_supersede _ _).spares

theorem adjoin_spares (s : State) (aux : Template) (name : String) :
    Spares s aux.introduced s (adjoin aux name) := by
  have h := State.Spared.refl s aux.introduced
  obtain ⟨_, hadds⟩ := s.forest.plant_adds aux.tree
  simp only [adjoin]
  refine (looks_node s name).bind_spares h fun n => concludes_root_bind (concludes_forest_bind ?_)
  split
  · exact spares_throw_bind h _
  · refine Concludes.bind (Q := fun _ s' => s.Spared aux.introduced s') (State.spared_adds _ hadds) ?_
    rintro ⟨top, named, foot⟩ s' h'
    cases foot with
    | none => exact spares_throw_bind h' _
    | some foot =>
        refine concludes_forest_bind (Bare.spares ?_)
        exact (bare_edit _).bind fun _ => (bare_supersede _ _).bind fun _ => bare_modify _

theorem coindex_spares (s : State) (names : List String) : Spares s [] s (coindex names) := by
  have h := State.Spared.refl s []
  simp only [coindex]
  refine (looks_nodes s names).bind_spares h fun nodes => ?_
  refine (looks_nextIndex s).bind_spares h fun k => ?_
  split
  · exact (bare_attachIndices _ nodes).spares
  · exact spares_throw h _

end Surgery

/-! ## Single edits -/

/-- The statement makes a single edit of the tree, or changes labels. It does not make edits one by
one, and does not take a node out to put it elsewhere. -/
def Statement.ChecksFirst : Statement → Prop
  | delete _ | prune _ | move .. => False
  | _ => True

open Surgery

theorem Statement.apply_spares (st : Statement) (s : State) (hst : st.ChecksFirst) :
    Spares s st.introduced s st.apply := by
  cases st with
  | delete | prune | move => exact hst.elim
  | excise outer inner => exact excise_spares s outer inner
  | relabel name change => exact relabel_spares s name change
  | insert source p => exact insert_spares s source p
  | replace name source => exact replace_spares s name source
  | adjoin aux name => exact adjoin_spares s aux name
  | coindex names => exact coindex_spares s names

theorem Surgery.Error.expected_of_isPlaced {e : Surgery.Error}
    (h : (Fault.surgery e).isPlaced = true) : e.Expected := by
  cases e with
  | refused | endless => exact absurd h Bool.false_ne_true
  | _ => trivial

/-- A single edit that fails with a failure that is reported with its place, in whatever state, leaves
the root and every node that there was as they were. At most it has made new nodes and given them names
of its literal tree. -/
theorem Statement.spared_of_failure (st : Statement) (s s' : State) (hst : st.ChecksFirst)
    {e : Surgery.Error} (hrun : runFrom s st.apply = (.error e, s'))
    (he : (Fault.surgery e).isPlaced = true) : s.Spared st.introduced s' :=
  (st.apply_spares s hst).of_error hrun (Surgery.Error.expected_of_isPlaced he)

/-- A node that has been deleted cannot be replaced; the name of the literal tree is known all the
same. -/
theorem Statement.spared_of_late_replacement :
    let t := Tree.node "S" [.node "NP" [.node "dog" []], .node "VP" [.node "barked" []]]
    let s := (State.start t [("np", ⟨.node "NP" [.node "dog" []], [(0, t)]⟩)]).run [.delete ["np"]]
    let literal : Template := ⟨.node "X" [.node "y" []], [("x", [])], none, "(X=x y)"⟩
    let st : Statement := .replace "np" (.template literal)
    st.ChecksFirst ∧ (Fault.surgery (.cutOff "np")).isPlaced = true ∧
      s.names.lookup "x" = none ∧ ∃ s', runFrom s st.apply = (.error (.cutOff "np"), s') ∧
        s'.names.lookup "x" = some 5 ∧ s.Spared ["x"] s' := by
  intro t s literal st
  obtain ⟨s', hs'⟩ : ∃ s', s' = (runFrom s st.apply).2 := ⟨_, rfl⟩
  have hfailure : (runFrom s st.apply).1 = .error (.cutOff "np") := by decide +kernel
  have hrun : runFrom s st.apply = (.error (.cutOff "np"), s') := Prod.ext hfailure hs'.symm
  refine ⟨trivial, rfl, by decide +kernel, s', hrun, ?_, ?_⟩
  · rw [hs']
    decide +kernel
  · exact Statement.spared_of_failure st s s' trivial hrun rfl

/-! ## Moves -/

namespace Surgery

/-- The node was below another one and has been taken out, and nothing else is changed. The target
then has no place of that number for a child, and the node is not put anywhere. -/
def State.Stranded (s : State) (name : String) (p : Place) (e : Error) (s' : State) : Prop :=
  ∃ n q t index, s.names.lookup name = some n ∧ s.root ≠ some n ∧ s.forest.parent? n = some q ∧
    s.names.lookup p.target = some t ∧ t ≠ n ∧ s.forest.dominates n t = false ∧
    p.index? = some index ∧ s' = { s with forest := s.forest.unlink q n } ∧
    s'.forest.parent? n = none ∧ ¬HasSlot index (s'.forest.children t).length ∧
    e = .noSuchPlace index p.target (s'.forest.children t).length

/-- A place that is refused is one below a node with another number of children, or beside a topmost
node. -/
theorem concludes_putAt {t : NodeId} {p : Place} (n : NodeId) (ht : s.names.lookup p.target = some t) :
    Concludes s (putAt n p) (fun _ _ => True) fun e s' => e.Expected → s = s' ∧
      (p.index? = none ∧ s.forest.parent? t = none ∨
        ∃ index, p.index? = some index ∧ ¬HasSlot index (s.forest.children t).length ∧
          e = .noSuchPlace index p.target (s.forest.children t).length) := by
  simp only [putAt]
  refine Concludes.bind (Q := fun k s' => s = s' ∧ k = t) ?_ ?_
  · rw [Concludes, ← runFrom, runFrom_targetOf ht]
    split
    · rename_i htop
      split at htop
      · cases htop
      · cases htop
        exact ⟨rfl, rfl⟩
    · rename_i htop
      split at htop
      · rename_i hsister
        cases htop
        exact fun _ => ⟨rfl, Or.inl hsister⟩
      · cases htop
  · rintro _ _ ⟨rfl, rfl⟩
    refine concludes_forest_bind ?_
    split
    · split
      · rename_i hout
        refine concludes_throw_bind fun _ => ⟨rfl, Or.inr ⟨_, rfl, fun hslot => ?_, rfl⟩⟩
        simp only [Bool.or_eq_true, decide_eq_true_eq] at hout
        exact hout.elim (Int.not_lt.mpr hslot.1) (Int.not_lt.mpr hslot.2)
      · exact (bare_edit _ _).imp_error fun _ _ hne he => absurd he hne
    · split
      · rename_i hchild _ htop
        refine concludes_throw fun _ => ⟨rfl, Or.inl ⟨?_, htop⟩⟩
        cases p with
        | childOf name index => exact (hchild name index rfl).elim
        | leftOf name | rightOf name => rfl
      · exact (bare_edit _ _).imp_error fun _ _ hne he => absurd he hne

theorem concludes_move (s : State) (name : String) (p : Place) :
    Concludes s (move name p) (fun _ _ => True) fun e s' => e.Expected →
      (s = s' ∧ ∀ index target count, e ≠ .noSuchPlace index target count) ∨
        s.Stranded name p e s' := by
  simp only [move]
  refine concludes_node_bind (fun _ _ => Or.inl ⟨rfl, by simp⟩) fun n hn => ?_
  refine ((concludes_targetOf s p).imp_error ?_).bind ?_
  · rintro e _ ⟨rfl, rfl | rfl⟩ _
    · exact Or.inl ⟨rfl, by simp⟩
    · exact Or.inl ⟨rfl, by simp⟩
  rintro t _ ⟨rfl, ht, hsister⟩
  refine concludes_forest_bind (concludes_root_bind ?_)
  split
  · exact concludes_throw_bind fun _ => Or.inl ⟨rfl, by simp⟩
  rename_i hroot
  simp only [Bool.or_eq_true, beq_iff_eq, Option.isNone_iff_eq_none, not_or] at hroot
  refine ((concludes_checkOutside s name n t).imp_error ?_).bind ?_
  · rintro e _ ⟨rfl, rfl | rfl⟩ he
    · exact Or.inl ⟨rfl, by simp⟩
    · exact he.elim
  rintro _ _ ⟨rfl, hne, hbelow⟩
  refine Concludes.bind (Q := fun _ s' => ∃ q, s.forest.parent? n = some q ∧
    s' = { s with forest := s.forest.unlink q n }) ?_ ?_
  · refine concludes_edit (Forest.concludes_detach s.forest n) ?_ fun _ _ _ he => he.elim
    rintro _ _ (⟨hnone, _⟩ | ⟨q, hq, _, rfl⟩)
    · exact absurd hnone hroot.2
    · exact ⟨q, hq, rfl⟩
  rintro _ _ ⟨q, hq, rfl⟩
  have hparent := Forest.parent?_unlink (Forest.lt_size_of_parent? hq) q
  refine (concludes_putAt (s := { s with forest := s.forest.unlink q n }) n ht).imp_error ?_
  rintro e _ he hexpected
  obtain ⟨rfl, ⟨hindex, htop⟩ | ⟨index, hindex, hslot, rfl⟩⟩ := he hexpected
  · -- what is above the target is the same as when the place was checked
    rw [hparent, if_neg hne] at htop
    exact absurd (hsister hindex) (by simp [htop])
  · refine Or.inr ⟨n, q, t, index, hn, hroot.1, hq, ht, hne, hbelow, hindex, rfl, ?_, hslot, rfl⟩
    exact (hparent n).trans (if_pos rfl)

end Surgery

/-- A move that fails, in whatever state, has changed nothing, unless the target has no place of that
number for a child: then the node is left out of the tree. -/
theorem Statement.unmoved_or_stranded (s s' : State) (name : String) (p : Place)
    {e : Surgery.Error} (hrun : runFrom s (move name p).apply = (.error e, s'))
    (he : (Fault.surgery e).isPlaced = true) :
    (s = s' ∧ ∀ index target count, e ≠ .noSuchPlace index target count) ∨
      s.Stranded name p e s' :=
  (concludes_move s name p).of_error hrun (Surgery.Error.expected_of_isPlaced he)

/-- A node that cannot be put below itself stays where it is. -/
theorem Statement.unmoved_into_itself :
    let np := Tree.node "NP" [.node "DT" [.node "the" []]]
    let t := Tree.node "S" [np, .node "VP" [.node "barked" []]]
    let s := State.start t
      [("np", ⟨np, [(0, t)]⟩), ("dt", ⟨.node "DT" [.node "the" []], [(0, np), (0, t)]⟩)]
    let p : Place := .childOf "dt" 1
    runFrom s (move "np" p).apply = (.error (.movesIntoSelf "np"), s) ∧
      (Fault.surgery (.movesIntoSelf "np")).isPlaced = true ∧
      ((s = s ∧ ∀ index target count,
          Surgery.Error.movesIntoSelf "np" ≠ .noSuchPlace index target count) ∨
        s.Stranded "np" p (.movesIntoSelf "np") s) := by
  intro np t s p
  have hrun : runFrom s (move "np" p).apply = (.error (.movesIntoSelf "np"), s) := by
    refine Prod.ext ?_ ?_
    · decide +kernel
    · decide +kernel
  exact ⟨hrun, rfl, Statement.unmoved_or_stranded s s "np" p hrun rfl⟩

/-- A node is to become the fifth child of another one, which has a single child: the move fails, and
the node has lost its parent. -/
theorem Statement.stranded_at_fifth_place :
    let t := Tree.node "S" [.node "NP" [.node "x" []], .node "VP" [.node "y" []]]
    let s := State.start t
      [("n", ⟨.node "NP" [.node "x" []], [(0, t)]⟩), ("v", ⟨.node "VP" [.node "y" []], [(1, t)]⟩)]
    let st : Statement := .move "n" (.childOf "v" 5)
    Statement.read "move n >5 v" = .ok st ∧
      (runFrom s st.apply).1 = .error (.noSuchPlace 5 "v" 1) ∧
      (Fault.surgery (.noSuchPlace 5 "v" 1)).isPlaced = true ∧
      s.names.lookup "n" = some 1 ∧ s.forest.parent? 1 = some 0 ∧
      (runFrom s st.apply).2.forest.parent? 1 = none := by
  decide +kernel

end Treebank
