import Treebank.Proofs.Surgery.Run

/-!
# Names made known by literal trees

A statement with a literal tree acts on the node that a name stands for before the statement. So it
should not matter which names the literal tree makes known. This is so for replacements and
adjunctions. An insertion looks its target up again when the copy is there: if the literal tree makes
that very name known, the insertion acts on the copy.
-/

namespace Treebank

/-! ## Other names for literal trees -/

/-- The literal tree with other names for its nodes. -/
def Template.rename (other : String → String) (t : Template) : Template :=
  { t with names := t.names.map fun (name, path) => (other name, path) }

def Source.rename (other : String → String) : Source → Source
  | .node name => .node name
  | .template t => .template (t.rename other)

/-- The statement with other names for the nodes of its literal tree. -/
def Statement.rename (other : String → String) : Statement → Statement
  | .insert source place => .insert (source.rename other) place
  | .replace target source => .replace target (source.rename other)
  | .adjoin aux name => .adjoin (aux.rename other) name
  | st => st

@[simp]
theorem Template.tree_rename (other : String → String) (t : Template) :
    (t.rename other).tree = t.tree := rfl

@[simp]
theorem Template.foot_rename (other : String → String) (t : Template) :
    (t.rename other).foot = t.foot := rfl

theorem Template.introduced_rename (other : String → String) (t : Template) :
    (t.rename other).introduced = t.introduced.map other := by
  simp [introduced, rename, Function.comp_def]

end Treebank

namespace Treebank.Surgery

variable {α β : Type} {s s' : State} {n m : Nat} {t : Template} {p : Place}
  {other : String → String}

/-! ## Steps that do not depend on names -/

/-- The states have the same forest and the same root; their names may stand for different nodes. -/
structure State.Alike (s s' : State) : Prop where
  forest_eq : s.forest = s'.forest
  root_eq : s.root = s'.root

theorem State.Alike.refl (s : State) : s.Alike s := ⟨rfl, rfl⟩

/-- The steps come to the same outcome and leave the same forest and root behind. -/
def SameEdit (s s' : State) (x y : Surgery α) : Prop :=
  (runFrom s x).1 = (runFrom s' y).1 ∧ (runFrom s x).2.Alike (runFrom s' y).2

theorem SameEdit.refl (s : State) (x : Surgery α) : SameEdit s s x x := ⟨rfl, .refl _⟩

theorem SameEdit.bind {x y : Surgery α} {f g : α → Surgery β} (hxy : SameEdit s s' x y)
    (hfg : ∀ a t t', t.Alike t' → SameEdit t t' (f a) (g a)) :
    SameEdit s s' (x >>= f) (y >>= g) := by
  obtain ⟨hresult, halike⟩ := hxy
  rw [SameEdit, runFrom_bind, runFrom_bind]
  rcases hx : runFrom s x with ⟨e | a, t⟩
  · rcases hy : runFrom s' y with ⟨e' | b, t'⟩
    · rw [hx, hy] at hresult halike
      cases hresult
      exact ⟨rfl, halike⟩
    · rw [hx, hy] at hresult
      exact nomatch hresult
  · rcases hy : runFrom s' y with ⟨e' | b, t'⟩
    · rw [hx, hy] at hresult
      exact nomatch hresult
    · rw [hx, hy] at hresult halike
      cases hresult
      exact hfg a t t' halike

/-- The step neither looks names up nor binds them. -/
def Nameless (x : Surgery α) : Prop := ∀ s s', s.Alike s' → SameEdit s s' x x

theorem nameless_pure (a : α) : Nameless (pure a : Surgery α) := fun _ _ h => ⟨rfl, h⟩

theorem nameless_throw (e : Error) : Nameless (throw e : Surgery α) := fun _ _ h => ⟨rfl, h⟩

/-- What would come after a failure does not count. -/
theorem sameEdit_throw_bind (h : s.Alike s') (e : Error) (f g : α → Surgery β) :
    SameEdit s s' ((throw e : Surgery α) >>= f) ((throw e : Surgery α) >>= g) := ⟨rfl, h⟩

theorem nameless_forest : Nameless forest :=
  fun _ _ h => ⟨congrArg (Except.ok (ε := Error)) h.forest_eq, h⟩

theorem nameless_root : Nameless root :=
  fun _ _ h => ⟨congrArg (Except.ok (ε := Error)) h.root_eq, h⟩

theorem nameless_setRoot (r : Option NodeId) : Nameless (setRoot r) :=
  fun _ _ h => ⟨rfl, h.forest_eq, rfl⟩

theorem nameless_edit (e : Forest.Edit α) : Nameless (edit e) := by
  intro s s' h
  rw [SameEdit, runFrom_edit, runFrom_edit, h.forest_eq]
  split
  · exact ⟨rfl, rfl, h.root_eq⟩
  · exact ⟨rfl, rfl, h.root_eq⟩

theorem Nameless.bind {x : Surgery α} {f : α → Surgery β} (hx : Nameless x)
    (hf : ∀ a, Nameless (f a)) : Nameless (x >>= f) :=
  fun s s' h => (hx s s' h).bind fun a t t' h' => hf a t t' h'

theorem nameless_supersede (n : NodeId) (others : List NodeId) : Nameless (supersede n others) := by
  simp only [supersede]
  refine nameless_root.bind fun r => ?_
  split
  · exact nameless_setRoot _
  · exact (nameless_edit _).bind fun _ => nameless_pure _

/-- A step that looks one name up, which stands for the same node in both states. -/
theorem sameEdit_node_bind {name : String} {g : NodeId → Surgery β} (h : s.Alike s')
    (hname : s.names.lookup name = s'.names.lookup name) (hg : ∀ n, Nameless (g n)) :
    SameEdit s s' (node name >>= g) (node name >>= g) := by
  rw [SameEdit, runFrom_bind, runFrom_bind, runFrom_node, runFrom_node, hname]
  cases s'.names.lookup name with
  | none => exact ⟨rfl, h⟩
  | some n => exact hg n s s' h

theorem sameEdit_targetOf_bind {p : Place} {g : NodeId → Surgery β} (h : s.Alike s')
    (hname : s.names.lookup p.target = s'.names.lookup p.target) (hg : ∀ n, Nameless (g n)) :
    SameEdit s s' (targetOf p >>= g) (targetOf p >>= g) := by
  simp only [targetOf, bind_assoc]
  refine sameEdit_node_bind h hname fun t => ?_
  split
  · rw [pure_bind]
    exact hg t
  · rw [bind_assoc]
    refine nameless_forest.bind fun f => ?_
    split
    · exact fun _ _ h => sameEdit_throw_bind h _ _ _
    · rw [pure_bind]
      exact hg t

theorem sameEdit_putAt {p : Place} (h : s.Alike s')
    (hname : s.names.lookup p.target = s'.names.lookup p.target) :
    SameEdit s s' (putAt n p) (putAt n p) := by
  simp only [putAt]
  refine sameEdit_targetOf_bind h hname fun t => nameless_forest.bind fun f => ?_
  split
  · split
    · exact fun _ _ h => sameEdit_throw_bind h _ _ _
    · exact nameless_edit _
  · split
    · exact nameless_throw _
    · exact nameless_edit _

/-! ## Copies of literal trees -/

/-- The state with a copy of a literal tree in its forest, the names of which are known. -/
def State.copied (s : State) (t : Template) : State :=
  let (top, forest) := s.forest.plant t.tree
  { s with forest := forest }.bindAll (namedNodes t forest top)

theorem runFrom_materialize (s : State) (t : Template) :
    (materialize (.template t)).runFrom s = (.ok (s.forest.plant t.tree).1, s.copied t) := rfl

theorem State.forest_copied (s : State) (t : Template) :
    (s.copied t).forest = (s.forest.plant t.tree).2 := by
  rw [copied, forest_bindAll]

theorem State.root_copied (s : State) (t : Template) : (s.copied t).root = s.root := by
  rw [copied, root_bindAll]

theorem State.lookup_copied (s : State) (t : Template) (name : String) :
    (s.copied t).names.lookup name = s.names.lookup name ∨
      ∃ m, (name, m) ∈ namedNodes t (s.forest.plant t.tree).2 (s.forest.plant t.tree).1 ∧
        (s.copied t).names.lookup name = some m :=
  lookup_bindAll _ _ name

theorem State.lookup_copied_of_not_mem {name : String} (s : State) (h : name ∉ t.introduced) :
    (s.copied t).names.lookup name = s.names.lookup name := by
  rcases s.lookup_copied t name with hsame | ⟨m, hm, _⟩
  · exact hsame
  · exact absurd (mem_introduced_of_mem_namedNodes hm) h

theorem State.exists_lookup_copied {name : String} (s : State) (t : Template)
    (h : s.names.lookup name = some n) : ∃ m, (s.copied t).names.lookup name = some m := by
  rcases s.lookup_copied t name with hsame | ⟨m, _, hm⟩
  · exact ⟨n, hsame.trans h⟩
  · exact ⟨m, hm⟩

/-- A name that a copy makes known stands for a node of the copy, not for an earlier one. -/
theorem State.Sound.size_le_of_lookup_copied {name : String} (hs : s.Sound)
    (hm : (s.copied t).names.lookup name = some m) (hne : s.names.lookup name ≠ some m) :
    s.forest.size ≤ m := by
  obtain ⟨_, hadds⟩ := s.forest.plant_adds t.tree
  have htop := (hadds.tops_new _ (List.mem_singleton_self _)).1
  rcases s.lookup_copied t name with hsame | ⟨k, hk, hlookup⟩
  · exact absurd (hsame.symm.trans hm) hne
  · rw [hlookup, Option.some.injEq] at hm
    subst hm
    have hcov := covers_of_mem_namedNodes (hs.wellFormed.linked.adds hadds) hk
    refine Nat.le_of_not_lt fun hlt => ?_
    exact absurd (hadds.lt_size_of_covers hs.wellFormed hcov hlt) (Nat.not_lt_of_le htop)

/-! ## Places -/

/-- A place for a child is among those of the children and the new one. -/
def HasSlot (index : Int) (count : Nat) : Prop :=
  0 ≤ slotOf index count ∧ slotOf index count ≤ count

instance (index : Int) (count : Nat) : Decidable (HasSlot index count) :=
  inferInstanceAs (Decidable (_ ∧ _))

/-- Why no node can be put in the place, if the name of the place stands for this node. -/
def refusal? (f : Forest) (t : NodeId) : Place → Option Error
  | .childOf name index =>
    let count := (f.children t).length
    if HasSlot index count then none else some (.noSuchPlace index name count)
  | .leftOf name | .rightOf name => if (f.parent? t).isNone then some (.sisterOfRoot name) else none

/-- The node under which a place is, if the name of the place stands for this node. -/
def above? (f : Forest) (t : NodeId) : Place → Option NodeId
  | .childOf .. => some t
  | _ => f.parent? t

/-- The name of the place stands for the node, and a sister is put only next to a node with a
parent. -/
structure State.Resolves (s : State) (p : Place) (n : NodeId) : Prop where
  lookup_eq : s.names.lookup p.target = some n
  has_parent : p.index? = none → (s.forest.parent? n).isSome

theorem runFrom_targetOf {p : Place} (h : s.names.lookup p.target = some n) :
    (targetOf p).runFrom s = if p.index? = none ∧ s.forest.parent? n = none
      then (.error (.sisterOfRoot p.target), s) else (.ok n, s) := by
  rw [targetOf, runFrom_bind, runFrom_node, h]
  cases p with
  | childOf name index => rfl
  | leftOf name | rightOf name =>
      show runFrom s (forest >>= _) = _
      rw [runFrom_forest_bind]
      cases hp : s.forest.parent? n with
      | none => rfl
      | some q => rfl

theorem targetOf_cases (s : State) (p : Place) :
    (∃ n, s.Resolves p n ∧ (targetOf p).runFrom s = (.ok n, s)) ∨
      (∀ n, ¬s.Resolves p n) ∧ ∃ e, (targetOf p).runFrom s = (.error e, s) := by
  cases hn : s.names.lookup p.target with
  | none =>
      refine Or.inr ⟨fun n h => ?_, .unbound p.target, ?_⟩
      · rw [h.lookup_eq] at hn
        cases hn
      · rw [targetOf, runFrom_bind, runFrom_node, hn]
  | some n =>
      rw [runFrom_targetOf hn]
      split
      · rename_i htop
        refine Or.inr ⟨fun m hm => ?_, _, rfl⟩
        rw [hm.lookup_eq, Option.some.injEq] at hn
        have hparent := hm.has_parent htop.1
        rw [hn, htop.2] at hparent
        exact absurd hparent Bool.false_ne_true
      · rename_i hplace
        refine Or.inl ⟨n, ⟨hn, fun hindex => ?_⟩, rfl⟩
        exact Option.isSome_iff_ne_none.mpr fun hp => hplace ⟨hindex, hp⟩

theorem runFrom_putAt_of_refusal {p : Place} {t : NodeId} {e : Error} (n : NodeId)
    (ht : s.names.lookup p.target = some t) (he : refusal? s.forest t p = some e) :
    (putAt n p).runFrom s = (.error e, s) := by
  rw [putAt, runFrom_bind, runFrom_targetOf ht]
  cases p with
  | childOf name index =>
      simp only [refusal?] at he
      split at he
      · cases he
      · rename_i hslot
        cases he
        have hout : (decide (slotOf index (s.forest.children t).length < 0) ||
            decide (slotOf index (s.forest.children t).length > (s.forest.children t).length)) := by
          simp only [HasSlot] at hslot
          simp only [Bool.or_eq_true, decide_eq_true_eq]
          omega
        show runFrom s (forest >>= _) = _
        rw [runFrom_forest_bind]
        simp only [hout, if_true]
        rfl
  | leftOf name | rightOf name =>
      simp only [refusal?] at he
      split at he
      · rename_i hp
        cases he
        rw [if_pos ⟨rfl, Option.isNone_iff_eq_none.mp hp⟩]
        rfl
      · cases he

/-- The slot of the place among the children of the node `q`, under which it is. -/
def slotUnder (f : Forest) (q t : NodeId) : Place → Nat
  | .childOf _ index => (slotOf index (f.children q).length).toNat
  | .leftOf _ => (f.children q).idxOf t
  | .rightOf _ => (f.children q).idxOf t + 1

/-- A topmost node comes to stand in the slot of the place. -/
theorem runFrom_putAt {p : Place} {t : Nat} (hwf : s.forest.WellFormed)
    (htop : s.forest.parent? n = none) (ht : s.names.lookup p.target = some t)
    (he : refusal? s.forest t p = none) :
    ∃ q, above? s.forest t p = some q ∧
      slotUnder s.forest q t p ≤ (s.forest.children q).length ∧
      (putAt n p).runFrom s =
        (.ok (), { s with forest := s.forest.link q n (slotUnder s.forest q t p) }) := by
  have hsister := fun (q : Nat) (hp : s.forest.parent? t = some q) =>
    achieves_addSister hwf hp htop p
  rw [putAt, runFrom_bind, runFrom_targetOf ht]
  cases p with
  | childOf name index =>
      simp only [refusal?] at he
      split at he
      · rename_i hslot
        obtain ⟨hlow, hhigh⟩ := hslot
        have hin : (decide (slotOf index (s.forest.children t).length < 0) ||
            decide (slotOf index (s.forest.children t).length > (s.forest.children t).length)) =
            false := by
          simp only [Bool.or_eq_false_iff, decide_eq_false_iff_not]
          omega
        have hadd : s.forest.Achieves
            (Forest.addChild t n (some (slotOf index (s.forest.children t).length))) _ :=
          Forest.achieves_addChild htop hlow hhigh
        obtain ⟨_, _, hrun, rfl⟩ := hadd
        refine ⟨t, rfl, by simp only [slotUnder]; omega, ?_⟩
        show runFrom s (forest >>= _) = _
        rw [runFrom_forest_bind]
        simp only [hin, Bool.false_eq_true, if_false]
        rw [runFrom_edit, hrun]
        rfl
      · cases he
  | leftOf name | rightOf name =>
      simp only [refusal?] at he
      cases hp : s.forest.parent? t with
      | none => simp [hp] at he
      | some q =>
          obtain ⟨_, _, hrun, _, hi, rfl, rfl⟩ := hsister q hp
          refine ⟨q, hp, hi, ?_⟩
          show runFrom s (forest >>= _) = _
          rw [runFrom_forest_bind]
          simp only [hp] at hrun ⊢
          rw [runFrom_edit, hrun]
          rfl

theorem exists_runFrom_putAt {p : Place} {t : Nat} (hwf : s.forest.WellFormed)
    (hn : n < s.forest.size) (htop : s.forest.parent? n = none)
    (ht : s.names.lookup p.target = some t) (he : refusal? s.forest t p = none) :
    ∃ f, (putAt n p).runFrom s = (.ok (), { s with forest := f }) ∧
      f.parent? n = above? s.forest t p := by
  obtain ⟨q, hq, _, hrun⟩ := runFrom_putAt hwf htop ht he
  exact ⟨_, hrun, by rw [Forest.parent?_link hn, if_pos rfl, hq]⟩

theorem alike_copied (s : State) (t : Template) (other : String → String) :
    (s.copied t).Alike (s.copied (t.rename other)) where
  forest_eq := by
    rw [State.forest_copied, State.forest_copied]
    rfl
  root_eq := by rw [State.root_copied, State.root_copied]

theorem sameEdit_materialize (s : State) (source : Source) (other : String → String) :
    SameEdit s s (materialize source) (materialize (source.rename other)) := by
  cases source with
  | node name => exact .refl s _
  | template t =>
      rw [SameEdit, runFrom_materialize]
      exact ⟨rfl, alike_copied s t other⟩

/-! ## Replacing and adjoining -/

theorem sameEdit_replace (s : State) (name : String) (source : Source) (other : String → String) :
    SameEdit s s (replace name source) (replace name (source.rename other)) := by
  simp only [replace, SameEdit, runFrom_bind s (node name), runFrom_node]
  cases s.names.lookup name with
  | none => exact ⟨rfl, .refl s⟩
  | some n =>
      refine (sameEdit_materialize s source other).bind fun copy t t' h => ?_
      refine Nameless.bind nameless_root (fun r => nameless_forest.bind fun f => ?_) t t' h
      split
      · exact fun _ _ h => sameEdit_throw_bind h _ _ _
      · exact nameless_supersede n [copy]

theorem sameEdit_adjoin (s : State) (aux : Template) (name : String) (other : String → String) :
    SameEdit s s (adjoin aux name) (adjoin (aux.rename other) name) := by
  simp only [adjoin, SameEdit, runFrom_bind s (node name), runFrom_node]
  cases s.names.lookup name with
  | none => exact ⟨rfl, .refl s⟩
  | some n =>
      simp only [runFrom_root_bind, runFrom_forest_bind]
      split
      · exact sameEdit_throw_bind (.refl s) _ _ _
      · simp only [runFrom_bind s (instantiate _), runFrom_instantiate, Template.tree_rename,
          Template.foot_rename]
        split
        · exact sameEdit_throw_bind (.refl _) _ _ _
        · refine SameEdit.bind (nameless_forest _ _ (.refl _)) fun f t t' h => ?_
          refine (nameless_edit _ t t' h).bind fun _ t t' h => ?_
          refine (nameless_supersede n _ t t' h).bind fun _ t t' h => ⟨rfl, ?_, ?_⟩
          · show (t.bindAll _).forest = (t'.bindAll _).forest
            rw [State.forest_bindAll, State.forest_bindAll, h.forest_eq]
          · show (t.bindAll _).root = (t'.bindAll _).root
            rw [State.root_bindAll, State.root_bindAll, h.root_eq]

/-! ## Inserting -/

/-- The literal tree makes the name of the place known, and the place is not refused for one reason
at the node that the name stood for and at the one that it stands for then. -/
def Shadows (s : State) (t : Template) (p : Place) : Prop :=
  ∃ n m, s.Resolves p n ∧ (s.copied t).names.lookup p.target = some m ∧ m ≠ n ∧
    ¬∃ e, refusal? (s.copied t).forest n p = some e ∧ refusal? (s.copied t).forest m p = some e

theorem runFrom_insert (t : Template) (hrun : (targetOf p).runFrom s = (.ok n, s)) :
    (insert (.template t) p).runFrom s =
      (putAt (s.forest.plant t.tree).1 p).runFrom (s.copied t) := by
  rw [insert, runFrom_bind, hrun]
  show runFrom s (materialize _ >>= _) = _
  rw [runFrom_bind, runFrom_materialize]

theorem sameEdit_insert (hfresh : p.target ∉ (t.rename other).introduced) (h : ¬Shadows s t p) :
    SameEdit s s (insert (.template t) p) (insert (.template (t.rename other)) p) := by
  rcases targetOf_cases s p with ⟨n, hn, hrun⟩ | ⟨_, e, hrun⟩
  · have hlookup := (s.lookup_copied_of_not_mem hfresh).trans hn.lookup_eq
    have halike := alike_copied s t other
    obtain ⟨m, hm⟩ := s.exists_lookup_copied t hn.lookup_eq
    rw [SameEdit, runFrom_insert t hrun, runFrom_insert _ hrun]
    by_cases hmn : m = n
    · exact sameEdit_putAt halike (by rw [hm, hlookup, hmn])
    · -- both nodes refuse the new one in the same way
      obtain ⟨e, hen, hem⟩ := Classical.not_not.mp fun hno => h ⟨n, m, hn, hm, hmn, hno⟩
      rw [halike.forest_eq] at hen
      rw [runFrom_putAt_of_refusal _ hm hem, runFrom_putAt_of_refusal _ hlookup hen]
      exact ⟨rfl, halike⟩
  · rw [SameEdit, insert, insert, runFrom_bind, runFrom_bind, hrun]
    exact ⟨rfl, .refl s⟩

/-- In the copy the place is under a later node than in the tree. -/
theorem above?_ne (hs : s.Sound) {f : Forest} {top : Nat}
    (hadds : Forest.Adds none [top] s.forest f) (hn : n < s.forest.size)
    (hm : s.forest.size ≤ m) (hp : refusal? f m p = none) :
    above? f m p ≠ above? f n p := by
  cases p with
  | childOf name index =>
      intro heq
      have hmn : m = n := Option.some.inj heq
      omega
  | leftOf name | rightOf name =>
      simp only [refusal?] at hp
      intro heq
      simp only [above?, hadds.parent?_old hn] at heq
      cases hq : f.parent? m with
      | none => simp [hq] at hp
      | some q =>
          have hmtop : m ∉ [top] := by
            intro hmem
            rw [hadds.parent?_top m hmem] at hq
            exact nomatch hq
          obtain ⟨k, hk, _, hkm⟩ := hadds.parent?_new m hmtop hm (Forest.lt_size_of_parent? hq)
          have hold := hs.wellFormed.parent_lt_size (heq.symm.trans hkm)
          exact absurd hold (Nat.not_lt_of_le hk)

/-- The place is at another node, and is not refused for one reason at both. -/
theorem not_sameEdit_putAt {top : Nat} (h : s.Alike s') (hwf : s.forest.WellFormed)
    (hlt : top < s.forest.size) (htop : s.forest.parent? top = none)
    (hm : s.names.lookup p.target = some m) (hn : s'.names.lookup p.target = some n)
    (hno : ¬∃ e, refusal? s.forest n p = some e ∧ refusal? s.forest m p = some e)
    (habove : refusal? s.forest m p = none → above? s.forest m p ≠ above? s.forest n p) :
    ¬SameEdit s s' (putAt top p) (putAt top p) := by
  rintro ⟨hresult, hforest, _⟩
  have hforest' := h.forest_eq
  cases hrm : refusal? s.forest m p with
  | some e =>
      rw [runFrom_putAt_of_refusal top hm hrm] at hresult
      cases hrn : refusal? s.forest n p with
      | some e' =>
          rw [hforest'] at hrn
          rw [runFrom_putAt_of_refusal top hn hrn] at hresult
          cases hresult
          exact hno ⟨e, hforest' ▸ hrn, hrm⟩
      | none =>
          rw [hforest'] at hwf hlt htop hrn
          obtain ⟨f, hrun, _⟩ := exists_runFrom_putAt hwf hlt htop hn hrn
          rw [hrun] at hresult
          exact nomatch hresult
  | none =>
      obtain ⟨f, hrun, hparent⟩ := exists_runFrom_putAt hwf hlt htop hm hrm
      rw [hrun] at hresult hforest
      cases hrn : refusal? s.forest n p with
      | some e =>
          rw [hforest'] at hrn
          rw [runFrom_putAt_of_refusal top hn hrn] at hresult
          exact nomatch hresult
      | none =>
          rw [hforest'] at hwf hlt htop hrn
          obtain ⟨f', hrun', hparent'⟩ := exists_runFrom_putAt hwf hlt htop hn hrn
          rw [hrun'] at hforest
          -- both runs put the node in; the forests differ in what is above it
          refine habove hrm ?_
          rw [← hparent, show f = f' from hforest, hparent', hforest']

theorem not_sameEdit_insert (hs : s.Sound) (hfresh : p.target ∉ (t.rename other).introduced)
    (h : Shadows s t p) :
    ¬SameEdit s s (insert (.template t) p) (insert (.template (t.rename other)) p) := by
  obtain ⟨n, m, hn, hm, hmn, hno⟩ := h
  obtain ⟨_, hadds⟩ := s.forest.plant_adds t.tree
  have hmem := List.mem_singleton_self (s.forest.plant t.tree).1
  have hnlt := hs.names_known _ _ hn.lookup_eq
  have hlookup := (s.lookup_copied_of_not_mem hfresh).trans hn.lookup_eq
  have hnew : s.forest.size ≤ m := by
    refine hs.size_le_of_lookup_copied hm ?_
    rw [hn.lookup_eq, ne_eq, Option.some.injEq]
    exact Ne.symm hmn
  have hrun : (targetOf p).runFrom s = (.ok n, s) := by
    rcases targetOf_cases s p with ⟨k, hk, hrun⟩ | ⟨hnone, _⟩
    · have hkn := hk.lookup_eq.symm.trans hn.lookup_eq
      rw [Option.some.injEq] at hkn
      rw [hrun, hkn]
    · exact absurd hn (hnone n)
  rw [← s.forest_copied t] at hadds
  rw [SameEdit, runFrom_insert t hrun, runFrom_insert _ hrun]
  refine not_sameEdit_putAt (alike_copied s t other) (hs.wellFormed.adds hadds) ?_ ?_ hm hlookup hno
    fun hrm => above?_ne hs hadds hnlt hnew hrm
  · exact (hadds.tops_new _ hmem).2
  · exact hadds.parent?_top _ hmem

end Treebank.Surgery

namespace Treebank

open Surgery

/-! ## Statements -/

/-- The statement inserts a literal tree that makes the name of its own place known, and this makes a
difference. -/
def Statement.Shadowed (s : State) : Statement → Prop
  | .insert (.template t) p => Shadows s t p
  | _ => False

/-- Other names for the nodes of its literal tree make no difference to what a statement does: it
acts on the nodes that the names stood for before. In a sound state the insertions whose own place is
shadowed are all the exceptions. -/
theorem Statement.rename_sameEdit (st : Statement) (s : State) (other : String → String)
    (hfresh : ∀ name ∈ st.introduced, other name ∉ st.referenced) :
    (¬st.Shadowed s → SameEdit s s st.apply (st.rename other).apply) ∧
      (s.Sound → st.Shadowed s → ¬SameEdit s s st.apply (st.rename other).apply) := by
  cases st with
  | insert source p =>
      cases source with
      | node name => exact ⟨fun _ => .refl s _, fun _ h => h.elim⟩
      | template t =>
          have hfresh' : p.target ∉ (t.rename other).introduced := by
            rw [Template.introduced_rename]
            intro hmem
            obtain ⟨name, hname, heq⟩ := List.mem_map.mp hmem
            exact hfresh name hname (by simp [referenced, heq])
          exact ⟨sameEdit_insert hfresh', fun hs => not_sameEdit_insert hs hfresh'⟩
  | replace target source =>
      exact ⟨fun _ => sameEdit_replace s target source other, fun _ h => h.elim⟩
  | adjoin aux name => exact ⟨fun _ => sameEdit_adjoin s aux name other, fun _ h => h.elim⟩
  | delete | prune | excise | relabel | move | coindex =>
      exact ⟨fun _ => .refl s _, fun _ h => h.elim⟩

/-- A literal tree takes the place of a node, or is put under it; it makes the name of the node
known. -/
theorem Statement.rename_replacement_and_insertion :
    let np := Tree.node "NP" [.node "DT" [.node "the" []], .node "NN" [.node "dog" []]]
    let t := Tree.node "S" [np, .node "VP" [.node "barked" []]]
    let s := State.start t [("n", ⟨np, [(0, t)]⟩)]
    let literal : Template := ⟨.node "X" [.node "x" []], [("n", [])], none, "(X=n x)"⟩
    let replacement : Statement := .replace "n" (.template literal)
    let insertion : Statement := .insert (.template literal) (.childOf "n" 1)
    SameEdit s s replacement.apply (replacement.rename fun _ => "m").apply ∧
      insertion.Shadowed s ∧
      ¬SameEdit s s insertion.apply (insertion.rename fun _ => "m").apply := by
  intro np t s literal replacement insertion
  have hshadowed : insertion.Shadowed s := by
    refine ⟨1, 8, ⟨by rfl, nofun⟩, by rfl, by decide, ?_⟩
    rintro ⟨e, he, _⟩
    exact nomatch he
  refine ⟨?_, hshadowed, ?_⟩
  · exact (rename_sameEdit replacement s (fun _ => "m") (by decide)).1 id
  · exact (rename_sameEdit insertion s (fun _ => "m") (by decide)).2 (State.sound_start t _)
      hshadowed

/-- A literal tree is to come directly before a node, and makes the name of the node known: its copy,
which has no parent, is taken for the node. -/
theorem Statement.insertion_next_to_itself :
    let np := Tree.node "NP" [.node "DT" [.node "the" []], .node "NN" [.node "dog" []]]
    let t := Tree.node "S" [np, .node "VP" [.node "VBD" [.node "barked" []]]]
    let s := State.start t [("n", ⟨np, [(0, t)]⟩)]
    let literal : Template := ⟨.node "X" [.node "x" []], [("n", [])], none, "(X=n x)"⟩
    let st : Statement := .insert (.template literal) (.leftOf "n")
    (∀ name ∈ st.introduced, (fun _ => "m") name ∉ st.referenced) ∧
      (runFrom s st.apply).1 = .error (.sisterOfRoot "n") ∧
      (runFrom s (st.rename fun _ => "m").apply).1 = .ok () ∧
      ¬SameEdit s s st.apply (st.rename fun _ => "m").apply := by
  refine ⟨by decide, rfl, rfl, ?_⟩
  rintro ⟨hresult, _⟩
  have hok : (.error (.sisterOfRoot "n") : Except Surgery.Error Unit) = .ok () := hresult
  exact nomatch hok

end Treebank
