import Mathlib.Tactic.Tauto
import Treebank.Proofs.Forest.Descent
import Treebank.Proofs.Site
import Treebank.Proofs.Surgery.Index
import Treebank.Proofs.Surgery.Soundness

/-!
# How statements fail

A step looks up the names that its statement refers to, and some steps make further names known. A
name once known stays known. So a statement fails for want of a name only if that name was unknown
before, and it does not fail for a literal tree or a replacement text that has been checked.
-/

namespace Treebank

/-! ## Checked statements -/

/-- The addresses that a literal tree comes with lead to nodes of it. -/
structure Template.Located (t : Template) : Prop where
  names : ∀ e ∈ t.names, (t.tree.get? e.2).isSome
  foot : ∀ path, t.foot = some path → (t.tree.get? path).isSome

/-- The foot of the literal tree is the leaf `v`. -/
structure Template.FootAt (t : Template) (v : Site) : Prop where
  isIn : v.In t.tree
  foot_eq : t.foot = some v.address
  isLeaf : v.tree.children = []

def Source.Located : Source → Prop
  | .node _ => True
  | .template t => t.Located

/-- The replacement text does not refer to a group name that the expression does not have. -/
def Relabeling.Grouped : Relabeling → Prop
  | .literal _ => True
  | .substitution r replacement =>
    ∀ name place, r.pieces replacement ≠ .error (.malformed (.unknownName name) place)

/-- The literal tree of the statement is located, that of an adjunction has a foot, and a replacement
text refers to groups that there are. -/
def Statement.Checked : Statement → Prop
  | .relabel _ change => change.Grouped
  | .insert source _ => source.Located
  | .replace _ source => source.Located
  | .adjoin aux _ => aux.Located ∧ aux.foot.isSome
  | _ => True

namespace Surgery

variable {α β : Type} {s s' : State} {names : List String} {L : Prop}

/-! ## Steps that have to do with no names -/

/-- The failure has nothing to do with names, literal trees, replacement texts and numbers. -/
def Error.Plain : Error → Prop
  | .unbound _ | .footless | .unknownGroup _ | .badIndex _ => False
  | _ => True

/-- The step leaves the names as they are and fails plainly. -/
def Plain (x : Surgery α) : Prop :=
  ∀ s, (x.runFrom s).2.names = s.names ∧ ∀ e, (x.runFrom s).1 = .error e → e.Plain

theorem plain_pure (a : α) : Plain (pure a : Surgery α) := fun _ => ⟨rfl, nofun⟩

theorem plain_throw {e : Error} (h : e.Plain) : Plain (throw e : Surgery α) := by
  intro s
  refine ⟨rfl, ?_⟩
  rintro _ ⟨⟩
  exact h

theorem plain_throw_bind {e : Error} {f : α → Surgery β} (h : e.Plain) :
    Plain ((throw e : Surgery α) >>= f) := plain_throw h

theorem plain_forest : Plain forest := fun _ => ⟨rfl, nofun⟩

theorem plain_root : Plain root := fun _ => ⟨rfl, nofun⟩

theorem plain_modify {g : State → State} (h : ∀ s, (g s).names = s.names) :
    Plain (modify g : Surgery Unit) := fun s => ⟨h s, nofun⟩

theorem plain_setRoot (r : Option NodeId) : Plain (setRoot r) := plain_modify fun _ => rfl

theorem plain_edit (e : Forest.Edit α) : Plain (edit e) := by
  intro s
  rw [runFrom_edit]
  rcases s.forest.runEdit e with ⟨r | a, f⟩
  · refine ⟨rfl, ?_⟩
    rintro _ ⟨⟩
    trivial
  · exact ⟨rfl, nofun⟩

theorem Plain.bind {x : Surgery α} {f : α → Surgery β} (hx : Plain x) (hf : ∀ a, Plain (f a)) :
    Plain (x >>= f) := by
  intro s
  obtain ⟨hnames, herror⟩ := hx s
  rw [runFrom_bind]
  rcases hrun : runFrom s x with ⟨e | a, s'⟩
  · rw [hrun] at hnames herror
    refine ⟨hnames, ?_⟩
    rintro _ ⟨⟩
    exact herror e rfl
  · rw [hrun] at hnames
    obtain ⟨hnames', herror'⟩ := hf a s'
    exact ⟨hnames'.trans hnames, herror'⟩

theorem plain_remove (n : NodeId) : Plain (remove n) := by
  simp only [remove]
  refine plain_root.bind fun r => ?_
  split
  · exact (plain_setRoot none).bind fun _ => plain_pure _
  · refine plain_forest.bind fun f => ?_
    split
    · exact plain_pure _
    · exact (plain_edit _).bind fun _ => plain_pure _

theorem plain_removeEmptied (fuel : Nat) (n : NodeId) : Plain (removeEmptied fuel n) := by
  induction fuel generalizing n with
  | zero => exact plain_pure _
  | succ fuel ih =>
      simp only [removeEmptied]
      refine plain_root.bind fun r => plain_forest.bind fun f => ?_
      split
      · exact plain_pure _
      · refine (plain_remove n).bind fun above => ?_
        cases above with
        | none => exact plain_pure _
        | some p => exact ih p

theorem plain_supersede (n : NodeId) (others : List NodeId) : Plain (supersede n others) := by
  simp only [supersede]
  refine plain_root.bind fun r => ?_
  split
  · exact plain_setRoot _
  · exact (plain_edit _).bind fun _ => plain_pure _

theorem plain_dissolve (name : String) (n : NodeId) : Plain (dissolve name n) := by
  simp only [dissolve]
  refine plain_forest.bind fun f => plain_root.bind fun r => ?_
  split
  · exact plain_throw_bind trivial
  · exact (plain_edit _).bind fun _ => plain_supersede n _

theorem plain_isAbove (a b : NodeId) : Plain (isAbove a b) := by
  simp only [isAbove]
  refine plain_forest.bind fun f => ?_
  split
  · exact plain_pure _
  · split
    · exact plain_throw_bind trivial
    · exact plain_pure _

theorem plain_checkNested (outerName innerName : String) (outer inner : NodeId) :
    Plain (checkNested outerName innerName outer inner) := by
  simp only [checkNested]
  split
  · exact plain_pure _
  · refine (plain_isAbove outer inner).bind fun above => ?_
    split
    · exact plain_pure _
    · exact plain_throw trivial

theorem plain_checkOutside (name : String) (n target : NodeId) :
    Plain (checkOutside name n target) := by
  simp only [checkOutside]
  split
  · exact plain_throw_bind trivial
  · refine (plain_isAbove n target).bind fun above => ?_
    split
    · exact plain_throw trivial
    · exact plain_pure _

theorem plain_plant (t : Tree) : Plain (plant t) := fun _ => ⟨rfl, nofun⟩

theorem plain_duplicate (n : NodeId) : Plain (duplicate n) := by
  simp only [duplicate]
  refine plain_forest.bind fun f => ?_
  split
  · exact plain_throw_bind trivial
  · exact plain_plant _

theorem plain_setLabel (n : NodeId) (label : String) : Plain (setLabel n label) :=
  plain_modify fun _ => rfl

theorem plain_attachIndex (index : String) (n : NodeId) : Plain (attachIndex index n) :=
  plain_forest.bind fun _ => plain_setLabel n _

/-! ## Steps that look names up -/

/-- Every name that stands for a node goes on doing so. -/
def State.Keeps (s s' : State) : Prop :=
  ∀ name, (s.names.lookup name).isSome → (s'.names.lookup name).isSome

theorem State.Keeps.refl (s : State) : s.Keeps s := fun _ h => h

theorem State.Keeps.trans {s'' : State} (h : s.Keeps s') (h' : s'.Keeps s'') : s.Keeps s'' :=
  fun name hname => h' name (h name hname)

theorem State.keeps_of_eq (h : s'.names = s.names) : s.Keeps s' := by
  intro name hname
  rw [h]
  exact hname

theorem State.lookup_bind_isSome (s : State) (name other : String) (n : NodeId) :
    ((s.bind name n).names.lookup other).isSome ↔
      other = name ∨ (s.names.lookup other).isSome := by
  rw [State.lookup_bind]
  split
  · rename_i hother
    simp [hother]
  · rename_i hother
    simp [hother]

theorem State.lookup_bindAll_isSome (s : State) (named : List (String × NodeId)) (other : String) :
    ((s.bindAll named).names.lookup other).isSome ↔
      other ∈ named.map (·.1) ∨ (s.names.lookup other).isSome := by
  induction named generalizing s with
  | nil => simp [State.bindAll]
  | cons e named ih =>
      have hstep : s.bindAll (e :: named) = (s.bind e.1 e.2).bindAll named := rfl
      rw [hstep, ih, State.lookup_bind_isSome, List.map_cons, List.mem_cons]
      tauto

theorem State.keeps_bindAll (s : State) (named : List (String × NodeId)) :
    s.Keeps (s.bindAll named) :=
  fun name hname => (s.lookup_bindAll_isSome named name).mpr (Or.inr hname)

/-- In this state, the failure is one that a step may have which looks these names up. Faults of
numbers have a reason of their own. -/
def Error.Due (L : Prop) (names : List String) (s : State) : Error → Prop
  | .unbound name => name ∈ names ∧ s.names.lookup name = none
  | .footless | .unknownGroup _ => False
  | .badIndex _ => L
  | _ => True

theorem Error.Plain.due {e : Error} (h : e.Plain) : e.Due L names s := by
  cases e <;> first | exact h.elim | trivial

theorem Error.Due.keeps {e : Error} (hkeeps : s.Keeps s') (h : e.Due L names s') :
    e.Due L names s := by
  cases e with
  | unbound name =>
      refine ⟨h.1, Option.not_isSome_iff_eq_none.mp fun hname => ?_⟩
      have hname' := hkeeps name hname
      rw [h.2] at hname'
      exact absurd hname' Bool.false_ne_true
  | _ => exact h

/-- The step keeps the names and comes to its end as told, or it fails for a reason that is due. -/
def Tame (L : Prop) (names : List String) (s : State) (x : Surgery α) (Q : α → State → Prop) :
    Prop :=
  match x.runFrom s with
  | (.ok a, s') => s.Keeps s' ∧ Q a s'
  | (.error e, _) => e.Due L names s

variable {Q : α → State → Prop} {R : β → State → Prop}

theorem tame_pure {a : α} (h : Q a s) : Tame L names s (pure a) Q := ⟨.refl s, h⟩

theorem tame_throw {e : Error} (h : e.Due L names s) : Tame L names s (throw e) Q := h

theorem tame_throw_bind {e : Error} {f : α → Surgery β} (h : e.Due L names s) :
    Tame L names s ((throw e : Surgery α) >>= f) R := h

theorem Plain.tame {x : Surgery α} (h : Plain x) :
    Tame L names s x fun _ s' => s'.names = s.names := by
  obtain ⟨hnames, herror⟩ := h s
  unfold Tame
  split
  · rename_i hrun
    rw [hrun] at hnames
    exact ⟨State.keeps_of_eq hnames, hnames⟩
  · rename_i e s' hrun
    rw [hrun] at herror
    exact (herror e rfl).due

theorem Tame.mono {Q' : α → State → Prop} {x : Surgery α} (h : Tame L names s x Q)
    (hQ : ∀ a s', Q a s' → Q' a s') : Tame L names s x Q' := by
  unfold Tame at h ⊢
  split
  · rename_i a s' hrun
    rw [hrun] at h
    exact ⟨h.1, hQ a s' h.2⟩
  · rename_i hrun
    rw [hrun] at h
    exact h

theorem Tame.bind {x : Surgery α} {f : α → Surgery β} (hx : Tame L names s x Q)
    (hf : ∀ a s', Q a s' → Tame L names s' (f a) R) : Tame L names s (x >>= f) R := by
  rw [Tame] at hx ⊢
  rw [runFrom_bind]
  rcases hrun : runFrom s x with ⟨e | a, s'⟩
  · rw [hrun] at hx
    exact hx
  · rw [hrun] at hx
    obtain ⟨hkeeps, hQ⟩ := hx
    have hrest := hf a s' hQ
    rw [Tame] at hrest
    rcases hrun' : runFrom s' (f a) with ⟨e | b, s''⟩
    · rw [hrun'] at hrest
      simp only [hrun']
      exact hrest.keeps hkeeps
    · rw [hrun'] at hrest
      simp only [hrun']
      exact ⟨hkeeps.trans hrest.1, hrest.2⟩

/-- A plain step changes nothing that looking names up depends on. -/
theorem Plain.bind_tame {x : Surgery α} {f : α → Surgery β} (hx : Plain x)
    (hf : ∀ a s', s'.names = s.names → Tame L names s' (f a) R) :
    Tame L names s (x >>= f) R := hx.tame.bind hf

theorem tame_node_bind {name : String} {f : NodeId → Surgery β} (hname : name ∈ names)
    (hf : ∀ n, Tame L names s (f n) R) : Tame L names s (node name >>= f) R := by
  rw [Tame, runFrom_bind, runFrom_node]
  cases hn : s.names.lookup name with
  | none => exact ⟨hname, hn⟩
  | some n => exact hf n

theorem tame_targetOf {p : Place} (hp : p.target ∈ names) :
    Tame L names s (targetOf p) fun _ s' => s'.names = s.names := by
  simp only [targetOf]
  refine tame_node_bind hp fun t => Plain.tame ?_
  split
  · exact plain_pure t
  · refine plain_forest.bind fun f => ?_
    split
    · exact plain_throw_bind trivial
    · exact plain_pure t

theorem tame_putAt {p : Place} (hp : p.target ∈ names) (n : NodeId) :
    Tame L names s (putAt n p) fun _ s' => s'.names = s.names := by
  simp only [putAt]
  refine (tame_targetOf hp).bind fun t s' hs' => ?_
  refine Tame.mono (Plain.tame (plain_forest.bind fun f => ?_)) fun _ _ h => h.trans hs'
  split
  · split
    · exact plain_throw_bind trivial
    · exact plain_edit _
  · split
    · exact plain_throw trivial
    · exact plain_edit _

/-! ## Literal trees -/

/-- All names are kept if all their paths lead to nodes. -/
theorem map_fst_followed {f : Forest} {top : NodeId} {named : List (String × List Nat)}
    (h : ∀ e ∈ named, ∃ m, f.follow? top e.2 = some m) :
    (named.filterMap fun (name, path) => (f.follow? top path).map (name, ·)).map (·.1) =
      named.map (·.1) := by
  induction named with
  | nil => rfl
  | cons e named ih =>
      obtain ⟨he, hnamed⟩ := List.forall_mem_cons.mp h
      obtain ⟨m, hm⟩ := he
      simp only [List.filterMap_cons, hm, Option.map_some, List.map_cons]
      rw [ih hnamed]

/-- Of a located literal tree, all names are found again in a copy, and the foot. -/
theorem tame_instantiate {t : Template} (ht : t.Located) :
    Tame L names s (instantiate t) fun copy s' => s'.names = s.names ∧
      copy.2.1.map (·.1) = t.introduced ∧ (t.foot.isSome → copy.2.2.isSome) := by
  have hhangs := s.forest.hangs_plant t.tree
  have hfollow : ∀ path, (t.tree.get? path).isSome →
      ∃ m, (s.forest.plant t.tree).2.follow? (s.forest.plant t.tree).1 path = some m := by
    intro path hpath
    obtain ⟨u, hu⟩ := Option.isSome_iff_exists.mp hpath
    obtain ⟨m, hm, _⟩ := hhangs.exists_follow? hu
    exact ⟨m, hm⟩
  rw [Tame, runFrom_instantiate]
  refine ⟨State.keeps_of_eq rfl, rfl, ?_, ?_⟩
  · exact map_fst_followed fun e he => hfollow e.2 (ht.names e he)
  · intro hfoot
    obtain ⟨path, hpath⟩ := Option.isSome_iff_exists.mp hfoot
    obtain ⟨m, hm⟩ := hfollow path (ht.foot path hpath)
    refine Option.isSome_iff_exists.mpr ⟨m, ?_⟩
    show t.foot.bind _ = _
    rw [hpath]
    exact hm

/-- These names stand for nodes. -/
def State.Knows (s : State) (known : List String) : Prop :=
  ∀ name ∈ known, (s.names.lookup name).isSome

theorem tame_bindAll {named : List (String × NodeId)} {known : List String}
    (h : named.map (·.1) = known) :
    Tame L names s (modify fun s => s.bindAll named) fun _ s' => s'.Knows known := by
  refine ⟨s.keeps_bindAll named, fun name hname => ?_⟩
  exact (s.lookup_bindAll_isSome named name).mpr (Or.inl (h ▸ hname))

theorem State.Knows.keeps {known : List String} (h : s.Knows known) (hkeeps : s.Keeps s') :
    s'.Knows known := fun name hname => hkeeps name (h name hname)

theorem tame_materialize {source : Source} (hsource : source.Located)
    (hnames : source.referenced ⊆ names) :
    Tame L names s (materialize source) fun _ s' => s'.Knows source.introduced := by
  cases source with
  | node name =>
      simp only [materialize]
      refine tame_node_bind (hnames (List.mem_singleton_self name)) fun n => ?_
      exact (plain_duplicate n).tame.mono fun _ _ _ _ h => absurd h List.not_mem_nil
  | template t =>
      simp only [materialize]
      refine (tame_instantiate hsource).bind ?_
      rintro ⟨top, named, foot⟩ s' ⟨_, hnamed, _⟩
      exact (tame_bindAll hnamed).bind fun _ _ hknows => tame_pure hknows

/-! ## Statements -/

theorem tame_deleteAll {targets : List String} (h : targets ⊆ names) :
    Tame L names s (deleteAll targets) fun _ _ => True := by
  induction targets generalizing s with
  | nil => exact tame_pure trivial
  | cons name targets ih =>
      rw [List.cons_subset] at h
      simp only [deleteAll]
      refine tame_node_bind h.1 fun n => (plain_remove n).bind_tame fun _ s' _ => ?_
      refine plain_root.bind_tame fun r s'' _ => ?_
      split
      · exact tame_pure trivial
      · exact ih h.2

theorem tame_pruneAll {targets : List String} (h : targets ⊆ names) :
    Tame L names s (pruneAll targets) fun _ _ => True := by
  induction targets generalizing s with
  | nil => exact tame_pure trivial
  | cons name targets ih =>
      rw [List.cons_subset] at h
      simp only [pruneAll]
      refine tame_node_bind h.1 fun n => (plain_remove n).bind_tame fun above s' _ => ?_
      refine plain_root.bind_tame fun r s'' _ => ?_
      split
      · exact tame_pure trivial
      · cases above with
        | none => exact ih h.2
        | some p =>
            exact plain_forest.bind_tame fun f _ _ =>
              (plain_removeEmptied _ p).bind_tame fun _ _ _ => ih h.2

theorem tame_excise {outer inner : String} (houter : outer ∈ names) (hinner : inner ∈ names) :
    Tame L names s (excise outer inner) fun _ _ => True := by
  simp only [excise]
  refine tame_node_bind houter fun o => tame_node_bind hinner fun i => ?_
  refine Tame.mono (Plain.tame ?_) fun _ _ _ => trivial
  refine (plain_checkNested outer inner o i).bind fun _ => plain_forest.bind fun f =>
    plain_root.bind fun r => ?_
  split
  · exact plain_throw_bind trivial
  · split
    · exact plain_dissolve inner i
    · exact (plain_edit _).bind fun _ => plain_supersede o [i]

theorem tame_relabel {name : String} {change : Relabeling} (hname : name ∈ names)
    (hchange : change.Grouped) : Tame L names s (relabel name change) fun _ _ => True := by
  simp only [relabel]
  refine tame_node_bind hname fun n => Tame.mono (Plain.tame ?_) fun _ _ _ => trivial
  cases change with
  | literal label => exact plain_setLabel n label
  | substitution r replacement =>
      refine plain_forest.bind fun f => ?_
      split
      · exact plain_setLabel n _
      · rename_i e he
        refine plain_throw ?_
        have hgroup : ∀ g place, e ≠ .malformed (.unknownName g) place := by
          rintro g place rfl
          refine hchange g place ?_
          simp only [Regex.substitute] at he
          cases hpieces : r.pieces replacement with
          | ok pieces =>
              rw [hpieces] at he
              cases he
          | error e =>
              rw [hpieces] at he
              cases he
              rfl
        unfold Error.ofReplacement
        split
        · exact absurd rfl (hgroup _ _)
        · trivial

theorem tame_insert {source : Source} {place : Place} (hsource : source.Located)
    (hnames : source.referenced ⊆ names) (hplace : place.target ∈ names) :
    Tame L names s (insert source place) fun _ s' => s'.Knows source.introduced := by
  simp only [insert]
  refine (tame_targetOf hplace).bind fun _ _ _ => ?_
  refine (tame_materialize hsource hnames).bind fun copy s' hknows => ?_
  refine (tame_putAt hplace copy).mono fun _ s'' hs'' => hknows.keeps (State.keeps_of_eq hs'')

theorem tame_move {name : String} {place : Place} (hname : name ∈ names)
    (hplace : place.target ∈ names) : Tame L names s (move name place) fun _ _ => True := by
  simp only [move]
  refine tame_node_bind hname fun n => (tame_targetOf hplace).bind fun t _ _ => ?_
  refine plain_forest.bind_tame fun f _ _ => plain_root.bind_tame fun r _ _ => ?_
  split
  · exact tame_throw_bind trivial
  · refine (plain_checkOutside name n t).bind_tame fun _ _ _ => ?_
    refine (plain_edit _).bind_tame fun _ _ _ => ?_
    exact (tame_putAt hplace n).mono fun _ _ _ => trivial

theorem tame_replace {target : String} {source : Source} (hsource : source.Located)
    (htarget : target ∈ names) (hnames : source.referenced ⊆ names) :
    Tame L names s (replace target source) fun _ s' => s'.Knows source.introduced := by
  simp only [replace]
  refine tame_node_bind htarget fun n => ?_
  refine (tame_materialize hsource hnames).bind fun copy s' hknows => ?_
  refine Tame.mono (Plain.tame (plain_root.bind fun r => plain_forest.bind fun f => ?_))
    fun _ s'' hs'' => hknows.keeps (State.keeps_of_eq hs'')
  split
  · exact plain_throw_bind trivial
  · exact plain_supersede n [copy]

theorem tame_adjoin {aux : Template} {name : String} (haux : aux.Located)
    (hfoot : aux.foot.isSome) (hname : name ∈ names) :
    Tame L names s (adjoin aux name) fun _ s' => s'.Knows aux.introduced := by
  simp only [adjoin]
  refine tame_node_bind hname fun n => plain_root.bind_tame fun r _ _ =>
    plain_forest.bind_tame fun f _ _ => ?_
  split
  · exact tame_throw_bind trivial
  · refine (tame_instantiate haux).bind ?_
    rintro ⟨top, named, foot⟩ s' ⟨_, hnamed, hfound⟩
    cases foot with
    | none => exact absurd (hfound hfoot) Bool.false_ne_true
    | some foot =>
        refine plain_forest.bind_tame fun g _ _ => (plain_edit _).bind_tame fun _ _ _ => ?_
        exact (plain_supersede n [top]).bind_tame fun _ _ _ => tame_bindAll hnamed

/-- The root has, or has below it, a node with a long index. -/
def State.HasLongIndex (s : State) : Prop :=
  ∃ r, s.root = some r ∧ ∃ n ∈ s.forest.preorder r, LongIndex (s.forest.label n)

theorem tame_nodes {targets : List String} (h : targets ⊆ names) :
    Tame L names s (targets.mapM node) fun _ s' => s' = s := by
  induction targets with
  | nil => exact tame_pure rfl
  | cons name targets ih =>
      rw [List.cons_subset] at h
      rw [List.mapM_cons]
      refine tame_node_bind h.1 fun n => (ih h.2).bind ?_
      rintro ns _ rfl
      exact tame_pure rfl

theorem runFrom_nextIndex {r : NodeId} (h : s.root = some r) : nextIndex.runFrom s =
    if s.forest.endlessBelow r then (.error .endless, s)
    else match freshIndex (((s.forest.preorder r).filter (!s.forest.isLeaf ·)).map
      s.forest.label) with
    | .ok k => (.ok k, s)
    | .error e => (.error (.badIndex e), s) := by
  rw [nextIndex, runFrom_root_bind, h]
  show (forest >>= _).runFrom s = _
  rw [runFrom_forest_bind]
  cases s.forest.endlessBelow r with
  | true => rfl
  | false =>
      show runFrom s (match freshIndex _ with
        | .ok k => pure k
        | .error e => throw (.badIndex e)) = _
      split <;> rfl

theorem tame_nextIndex : Tame s.HasLongIndex names s nextIndex fun k _ =>
    s.HasLongIndex ∨ Text.writeNat k = .ok (toString k) := by
  cases hroot : s.root with
  | none =>
      have hrun : nextIndex.runFrom s = (.ok 1, s) := by
        rw [nextIndex, runFrom_root_bind, hroot]
        rfl
      rw [Tame, hrun]
      exact ⟨.refl s, Or.inr (Text.writeNat_of_lt (Nat.one_lt_pow (by decide) (by decide)))⟩
  | some r =>
      have hlong : (∃ l ∈ ((s.forest.preorder r).filter (!s.forest.isLeaf ·)).map s.forest.label,
          LongIndex l) → s.HasLongIndex := by
        rintro ⟨l, hl, hlong⟩
        obtain ⟨n, hn, rfl⟩ := List.mem_map.mp hl
        exact ⟨r, hroot, n, List.mem_of_mem_filter hn, hlong⟩
      rw [Tame, runFrom_nextIndex hroot]
      cases s.forest.endlessBelow r with
      | true => trivial
      | false =>
          simp only [Bool.false_eq_true, if_false]
          rcases freshIndex_cases (((s.forest.preorder r).filter (!s.forest.isLeaf ·)).map
            s.forest.label) with hindex | ⟨k, hk, hwritten⟩
          · cases freshIndex (((s.forest.preorder r).filter (!s.forest.isLeaf ·)).map
              s.forest.label) with
            | ok k => exact ⟨.refl s, Or.inl (hlong hindex)⟩
            | error e => exact hlong hindex
          · rw [hk]
            exact ⟨.refl s, Or.inr hwritten⟩

theorem tame_coindex {targets : List String} (h : targets ⊆ names) :
    Tame s.HasLongIndex names s (coindex targets) fun _ _ => True := by
  simp only [coindex]
  refine (tame_nodes h).bind ?_
  rintro nodes _ rfl
  refine tame_nextIndex.bind fun k s' hk => ?_
  split
  · refine Tame.mono (Plain.tame ?_) fun _ _ _ => trivial
    induction nodes with
    | nil => exact plain_pure _
    | cons n nodes ih => exact (plain_attachIndex _ n).bind fun _ => ih
  · rename_i e hwritten
    refine tame_throw (hk.resolve_right ?_)
    rw [hwritten]
    intro hok
    cases hok

end Surgery

open Surgery

/-- A checked statement fails only for a reason that is due; it makes known what it introduces. -/
theorem Statement.apply_tame (st : Statement) (s : State) (h : st.Checked) :
    Tame s.HasLongIndex st.referenced s st.apply fun _ s' => s'.Knows st.introduced := by
  cases st with
  | delete names => exact (tame_deleteAll (List.Subset.refl _)).mono fun _ _ _ => nofun
  | prune names => exact (tame_pruneAll (List.Subset.refl _)).mono fun _ _ _ => nofun
  | excise outer inner =>
      exact (tame_excise (by simp [referenced]) (by simp [referenced])).mono fun _ _ _ => nofun
  | relabel name change =>
      exact (tame_relabel (List.mem_singleton_self name) h).mono fun _ _ _ => nofun
  | insert source place =>
      exact tame_insert h (List.subset_append_left _ _) (by simp [referenced])
  | move name place =>
      exact (tame_move (by simp [referenced]) (by simp [referenced])).mono fun _ _ _ => nofun
  | replace target source =>
      exact tame_replace h List.mem_cons_self (List.subset_cons_self _ _)
  | adjoin aux name => exact tame_adjoin h.1 h.2 (List.mem_singleton_self name)
  | coindex names => exact (tame_coindex (List.Subset.refl _)).mono fun _ _ _ => nofun

end Treebank
