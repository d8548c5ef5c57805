import Treebank.Proofs.Basic
import Treebank.Proofs.Forest.Edit
import Treebank.Proofs.Forest.Planting
import Treebank.Surgery

/-!
# Sound states of surgery

In a sound state the forest is well formed, the root is a topmost node, and names stand for nodes of
the forest. Steps of surgery are told about by what they leave behind when they come to their end;
when they fail, the state is sound all the same, and no primitive edit is to blame.
-/

namespace Treebank.Surgery

/-! ## Names -/

namespace State

variable {s : State} {name other : String} {n : Nat} {named : List (String × NodeId)}

/-- A name stands for the node that it was bound to last. -/
theorem lookup_bind (s : State) (name other : String) (n : NodeId) :
    (s.bind name n).names.lookup other = if other = name then some n else s.names.lookup other := by
  rw [bind]
  split
  · rename_i hbound
    obtain ⟨k, hk⟩ := Option.isSome_iff_exists.mp hbound
    rw [lookup_map fun _ => n]
    split
    · rename_i hother
      rw [hother, hk]
      rfl
    · rfl
  · rename_i hfree
    rw [List.lookup_append]
    by_cases hother : other = name
    · subst hother
      simp only [Option.not_isSome_iff_eq_none] at hfree
      simp [hfree]
    · rw [List.lookup_cons, beq_eq_false_iff_ne.mpr hother, if_neg hother]
      simp

@[simp]
theorem forest_bind (s : State) (name : String) (n : NodeId) :
    (s.bind name n).forest = s.forest := by
  rw [bind]
  split <;> rfl

@[simp]
theorem root_bind (s : State) (name : String) (n : NodeId) : (s.bind name n).root = s.root := by
  rw [bind]
  split <;> rfl

@[simp]
theorem forest_bindAll (s : State) (named : List (String × NodeId)) :
    (s.bindAll named).forest = s.forest := by
  induction named generalizing s with
  | nil => rfl
  | cons e named ih => exact (ih (s.bind e.1 e.2)).trans (forest_bind s e.1 e.2)

@[simp]
theorem root_bindAll (s : State) (named : List (String × NodeId)) :
    (s.bindAll named).root = s.root := by
  induction named generalizing s with
  | nil => rfl
  | cons e named ih => exact (ih (s.bind e.1 e.2)).trans (root_bind s e.1 e.2)

/-- Of the nodes that a name is bound to the last one counts. -/
theorem lookup_bindAll_eq (s : State) (named : List (String × NodeId)) (other : String) :
    (s.bindAll named).names.lookup other =
      (named.reverse.lookup other).or (s.names.lookup other) := by
  induction named generalizing s with
  | nil => rfl
  | cons e named ih =>
      obtain ⟨name, n⟩ := e
      refine (ih (s.bind name n)).trans ?_
      rw [lookup_bind, List.reverse_cons, List.lookup_append, Option.or_assoc]
      by_cases hother : other = name
      · simp [hother]
      · rw [if_neg hother, List.lookup_cons, beq_eq_false_iff_ne.mpr hother]
        rfl

/-- A name stands for what it stood for before, or for a node that it has just been bound to. -/
theorem lookup_bindAll (s : State) (named : List (String × NodeId)) (other : String) :
    (s.bindAll named).names.lookup other = s.names.lookup other ∨
      ∃ m, (other, m) ∈ named ∧ (s.bindAll named).names.lookup other = some m := by
  rw [lookup_bindAll_eq]
  cases hm : named.reverse.lookup other with
  | none => exact Or.inl rfl
  | some m =>
      obtain ⟨l₁, l₂, hnamed, _⟩ := List.lookup_eq_some_iff.mp hm
      refine Or.inr ⟨m, List.mem_reverse.mp ?_, rfl⟩
      simp [hnamed]

theorem lookup_bindAll_of_not_mem (s : State) (h : other ∉ named.map (·.1)) :
    (s.bindAll named).names.lookup other = s.names.lookup other := by
  rcases s.lookup_bindAll named other with hsame | ⟨m, hmem, _⟩
  · exact hsame
  · exact absurd (List.mem_map_of_mem hmem) h

/-- The forest is well formed, the root is one of its topmost nodes, and names stand for its nodes. -/
structure Sound (s : State) : Prop where
  wellFormed : s.forest.WellFormed
  root_top : ∀ r, s.root = some r → r < s.forest.size ∧ s.forest.parent? r = none
  names_known : ∀ name n, s.names.lookup name = some n → n < s.forest.size

theorem Sound.bind (h : s.Sound) (hn : n < s.forest.size) : (s.bind name n).Sound where
  wellFormed := by
    rw [forest_bind]
    exact h.wellFormed
  root_top := by
    rw [forest_bind, root_bind]
    exact h.root_top
  names_known other k hk := by
    rw [lookup_bind] at hk
    rw [forest_bind]
    split at hk
    · exact Option.some.inj hk ▸ hn
    · exact h.names_known other k hk

theorem Sound.bindAll (h : s.Sound) (hnamed : ∀ e ∈ named, e.2 < s.forest.size) :
    (s.bindAll named).Sound := by
  induction named generalizing s with
  | nil => exact h
  | cons e named ih =>
      obtain ⟨he, hnamed⟩ := List.forall_mem_cons.mp hnamed
      refine ih (s := s.bind e.1 e.2) (h.bind he) ?_
      rw [forest_bind]
      exact hnamed

/-- Moving nodes keeps a state sound as long as the root is not put under another node. -/
theorem Sound.moves {f : Forest} {cs : List Nat} {q : Option Nat} (h : s.Sound)
    (hmoves : s.forest.Moves f cs q) (hroot : ∀ r, s.root = some r → r ∈ cs → q = none) :
    { s with forest := f : State }.Sound where
  wellFormed := hmoves.wellFormed
  root_top r hr := by
    obtain ⟨hlt, htop⟩ := h.root_top r hr
    refine ⟨hmoves.size_eq ▸ hlt, ?_⟩
    rw [hmoves.parent?_eq]
    split
    · rename_i hmem
      exact hroot r hr hmem
    · exact htop
  names_known name n hn := hmoves.size_eq ▸ h.names_known name n hn

/-- A state stays sound when trees are added to its forest. -/
theorem Sound.adds {f : Forest} {tops : List Nat} (h : s.Sound)
    (hadds : Forest.Adds none tops s.forest f) : { s with forest := f : State }.Sound where
  wellFormed := h.wellFormed.adds hadds
  root_top r hr := by
    obtain ⟨hlt, htop⟩ := h.root_top r hr
    exact ⟨Nat.lt_of_lt_of_le hlt hadds.size_le, (hadds.parent?_old hlt).trans htop⟩
  names_known name n hn := Nat.lt_of_lt_of_le (h.names_known name n hn) hadds.size_le

theorem Sound.setRoot {root : Option Nat} (h : s.Sound)
    (hroot : ∀ r, root = some r → r < s.forest.size ∧ s.forest.parent? r = none) :
    { s with root := root : State }.Sound where
  wellFormed := h.wellFormed
  root_top := hroot
  names_known := h.names_known

/-- A node that has a parent is not the root. -/
theorem Sound.ne_root {p : Nat} (h : s.Sound) (hp : s.forest.parent? n = some p) :
    s.root ≠ some n := by
  intro hroot
  rw [(h.root_top n hroot).2] at hp
  exact nomatch hp

end State

/-! ## What steps leave behind -/

/-- The failure is not that of a primitive edit, nor that of a walk without end. -/
def Error.Expected : Error → Prop
  | .refused _ | .endless => False
  | _ => True

variable {α β : Type} {s : State} {Q : α → State → Prop} {R : β → State → Prop}

/-- Carried out in this state, the step comes to its end as told, or it fails, without a primitive
edit being refused or a walk going on for ever, and leaves a sound state behind. -/
def Meets (s : State) (x : Surgery α) (Q : α → State → Prop) : Prop :=
  match x.runFrom s with
  | (.ok a, s') => Q a s'
  | (.error e, s') => s'.Sound ∧ e.Expected

theorem meets_pure {a : α} (h : Q a s) : Meets s (pure a) Q := h

theorem meets_throw {e : Error} (hs : s.Sound) (he : e.Expected) :
    Meets s (throw e : Surgery α) Q := ⟨hs, he⟩

theorem meets_modify {Q : PUnit → State → Prop} {g : State → State} (h : Q ⟨⟩ (g s)) :
    Meets s (modify g) Q := h

theorem Meets.mono {Q' : α → State → Prop} {x : Surgery α} (h : Meets s x Q)
    (hQ : ∀ a s', Q a s' → Q' a s') : Meets s x Q' := by
  unfold Meets at h ⊢
  split
  · rename_i a s' hrun
    rw [hrun] at h
    exact hQ a s' h
  · rename_i e s' hrun
    rw [hrun] at h
    exact h

theorem runFrom_bind (s : State) (x : Surgery α) (g : α → Surgery β) :
    (x >>= g).runFrom s = match x.runFrom s with
      | (.ok a, s') => (g a).runFrom s'
      | (.error e, s') => (.error e, s') := by
  rw [runFrom, run_bind, runFrom]
  rcases x.run.run s with ⟨_ | _, _⟩ <;> rfl

theorem runFrom_forest_bind (s : State) (g : Forest → Surgery β) :
    (forest >>= g).runFrom s = (g s.forest).runFrom s := rfl

theorem runFrom_root_bind (s : State) (g : Option NodeId → Surgery β) :
    (root >>= g).runFrom s = (g s.root).runFrom s := rfl

theorem Meets.bind {x : Surgery α} {g : α → Surgery β} (hx : Meets s x Q)
    (hg : ∀ a s', Q a s' → Meets s' (g a) R) : Meets s (x >>= g) R := by
  rw [Meets] at hx ⊢
  rw [runFrom_bind]
  split at hx
  · rename_i a s' _
    exact hg a s' hx
  · exact hx

theorem meets_throw_bind {e : Error} {g : α → Surgery β} (hs : s.Sound) (he : e.Expected) :
    Meets s ((throw e : Surgery α) >>= g) R := ⟨hs, he⟩

theorem meets_forest_bind {g : Forest → Surgery β} (h : Meets s (g s.forest) R) :
    Meets s (forest >>= g) R := h

theorem meets_root_bind {g : Option NodeId → Surgery β} (h : Meets s (g s.root) R) :
    Meets s (root >>= g) R := h

theorem runFrom_node (s : State) (name : String) : (node name).runFrom s =
    match s.names.lookup name with
    | some n => (.ok n, s)
    | none => (.error (.unbound name), s) := by
  show StateT.run (ExceptT.run (match s.names.lookup name with
    | some n => pure n
    | none => throw (Error.unbound name) : Surgery NodeId)) s = _
  split <;> rfl

theorem meets_node_bind {name : String} {g : NodeId → Surgery β} (hs : s.Sound)
    (h : ∀ n, s.names.lookup name = some n → Meets s (g n) R) : Meets s (node name >>= g) R := by
  rw [Meets, runFrom_bind, runFrom_node]
  cases hn : s.names.lookup name with
  | none => exact ⟨hs, trivial⟩
  | some n => exact h n hn

theorem runFrom_edit (s : State) (e : Forest.Edit α) : (edit e).runFrom s =
    match s.forest.runEdit e with
    | (.ok a, f) => (.ok a, { s with forest := f })
    | (.error r, f) => (.error (.refused r), { s with forest := f }) := by
  rw [edit, runFrom_forest_bind]
  rcases s.forest.runEdit e with ⟨_ | _, _⟩ <;> rfl

/-- A primitive edit that is carried out. -/
theorem meets_edit {e : Forest.Edit α} {P : α → Forest → Prop} (h : Forest.Achieves s.forest e P)
    (hQ : ∀ a f, P a f → Q a { s with forest := f }) : Meets s (edit e) Q := by
  obtain ⟨a, f, hrun, hP⟩ := h
  rw [Meets, runFrom_edit, hrun]
  exact hQ a f hP

/-! ## Steps and their failures -/

section
variable {F : Error → State → Prop}

theorem concludes_forest_bind {g : Forest → Surgery β} (h : Concludes s (g s.forest) R F) :
    Concludes s (forest >>= g) R F := h

theorem concludes_root_bind {g : Option NodeId → Surgery β} (h : Concludes s (g s.root) R F) :
    Concludes s (root >>= g) R F := h

theorem concludes_node_bind {name : String} {g : NodeId → Surgery β}
    (hnone : s.names.lookup name = none → F (.unbound name) s)
    (h : ∀ n, s.names.lookup name = some n → Concludes s (g n) R F) :
    Concludes s (node name >>= g) R F := by
  rw [Concludes, ← runFrom, runFrom_bind, runFrom_node]
  cases hn : s.names.lookup name with
  | none => exact hnone hn
  | some n => exact h n hn

theorem concludes_edit {e : Forest.Edit α} {P : α → Forest → Prop} {G : Forest.Error → Forest → Prop}
    (h : Concludes s.forest e P G) (hQ : ∀ a f, P a f → Q a { s with forest := f })
    (hF : ∀ r f, G r f → F (.refused r) { s with forest := f }) : Concludes s (edit e) Q F := by
  rw [Concludes, ← Forest.runEdit] at h
  rw [Concludes, ← runFrom, runFrom_edit]
  rcases hrun : s.forest.runEdit e with ⟨r | a, f⟩
  · rw [hrun] at h
    exact hF r f h
  · rw [hrun] at h
    exact hQ a f h

end

/-! ## The nodes of names -/

/-- The nodes that the names stand for. -/
def State.denoted (s : State) (names : List String) : List NodeId :=
  names.filterMap (s.names.lookup ·)

theorem State.denoted_cons {name : String} {names : List String} {n : NodeId}
    (hn : s.names.lookup name = some n) :
    s.denoted (name :: names) = n :: s.denoted names := List.filterMap_cons_some hn

/-- Names that stand for nodes are all looked up. -/
theorem runFrom_mapM_node {names : List String}
    (hnames : ∀ name ∈ names, ∃ n, s.names.lookup name = some n) :
    (names.mapM node).runFrom s = (.ok (s.denoted names), s) := by
  induction names with
  | nil => rfl
  | cons name names ih =>
      obtain ⟨⟨n, hn⟩, hnames⟩ := List.forall_mem_cons.mp hnames
      rw [List.mapM_cons, runFrom_bind, runFrom_node, hn, State.denoted_cons hn]
      simp only []
      rw [runFrom_bind, ih hnames]
      rfl

/-! ## Steps that come to their end -/

/-- Carried out in this state, the step comes to its end, in a state as told. -/
def Succeeds (s : State) (x : Surgery Unit) (Q : State → Prop) : Prop :=
  ∃ s', x.runFrom s = (.ok (), s') ∧ Q s'

theorem Succeeds.mono {x : Surgery Unit} {Q Q' : State → Prop} (h : Succeeds s x Q)
    (hQ : ∀ s', Q s' → Q' s') : Succeeds s x Q' := h.imp fun s' hs' => ⟨hs'.1, hQ s' hs'.2⟩

theorem Succeeds.bind {x y : Surgery Unit} {Q Q' : State → Prop} (h : Succeeds s x Q)
    (hy : ∀ s', Q s' → Succeeds s' y Q') : Succeeds s (x >>= fun _ => y) Q' := by
  obtain ⟨s', hrun, hQ⟩ := h
  rw [Succeeds, runFrom_bind, hrun]
  exact hy s' hQ

/-- A primitive edit is carried out, and the step goes on from there whatever it gives back. -/
theorem succeeds_edit_bind {e : Forest.Edit α} {P : α → Forest → Prop} {x : Surgery Unit}
    {Q : State → Prop} (h : s.forest.Achieves e P)
    (hx : ∀ a f, P a f → Succeeds { s with forest := f } x Q) :
    Succeeds s (edit e >>= fun _ => x) Q := by
  obtain ⟨a, f, hrun, hP⟩ := h
  obtain ⟨s', hrun', hQ⟩ := hx a f hP
  refine ⟨s', ?_, hQ⟩
  rw [runFrom_bind, runFrom_edit, hrun]
  exact hrun'

end Treebank.Surgery
