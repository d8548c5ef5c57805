import Mathlib.Data.List.Forall2
import Treebank.Proofs.Forest.Planting

/-!
# Pairs of nodes that correspond

A pairing tells which nodes of two forests correspond to each other, one to one. Corresponding nodes
have the same label and corresponding surroundings, and so it stays when both forests are edited in
the same way; new nodes make new pairs, and nodes without a partner stay untouched.
-/

namespace Treebank

/-- Which nodes of one forest correspond to which nodes of another. -/
abbrev Pairing := NodeId → NodeId → Prop

variable {R R₁ R₂ : Pairing}

structure Node.Alike (R : Pairing) (v v' : Node) : Prop where
  label_eq : v.label = v'.label
  parent_rel : Option.Rel R v.parent v'.parent
  children_rel : List.Forall₂ R v.children v'.children

theorem Option.Rel.mono {α β : Type} {P Q : α → β → Prop} {a : Option α} {b : Option β}
    (h : Option.Rel P a b) (hle : ∀ a b, P a b → Q a b) : Option.Rel Q a b := by
  cases h with
  | none => exact .none
  | some h => exact .some (hle _ _ h)

theorem Option.Rel.isSome_eq {α β : Type} {P : α → β → Prop} {a : Option α} {b : Option β}
    (h : Option.Rel P a b) : a.isSome = b.isSome := by cases h <;> rfl

theorem Option.Rel.isNone_eq {α β : Type} {P : α → β → Prop} {a : Option α} {b : Option β}
    (h : Option.Rel P a b) : a.isNone = b.isNone := by cases h <;> rfl

theorem Option.Rel.eq_none {α β : Type} {P : α → β → Prop} {b : Option β}
    (h : Option.Rel P none b) : b = none := by cases h; rfl

theorem Option.Rel.exists_eq_some {α β : Type} {P : α → β → Prop} {a : α} {b : Option β}
    (h : Option.Rel P (some a) b) : ∃ c, b = some c ∧ P a c := by
  cases h with
  | some h => exact ⟨_, rfl, h⟩

theorem Node.Alike.mono {v v' : Node} (h : v.Alike R v') (hle : ∀ a b, R a b → R₁ a b) :
    v.Alike R₁ v' where
  label_eq := h.label_eq
  parent_rel := Option.Rel.mono h.parent_rel hle
  children_rel := h.children_rel.imp hle

namespace Forest

variable {f f' g g' h h' : Forest} {n n' a b : NodeId}

/-- The pairing is one to one, and nodes that correspond are alike. -/
structure Pairs (R : Pairing) (f f' : Forest) : Prop where
  unique : Relator.BiUnique R
  lt_left : ∀ {a b}, R a b → a < f.size
  lt_right : ∀ {a b}, R a b → b < f'.size
  alike : ∀ {a b}, R a b → (f.node a).Alike R (f'.node b)

namespace Pairs

theorem label_eq (hpairs : Pairs R f f') (hn : R n n') : f.label n = f'.label n' :=
  (hpairs.alike hn).label_eq

theorem parent_rel (hpairs : Pairs R f f') (hn : R n n') :
    Option.Rel R (f.parent? n) (f'.parent? n') := (hpairs.alike hn).parent_rel

theorem children_rel (hpairs : Pairs R f f') (hn : R n n') :
    List.Forall₂ R (f.children n) (f'.children n') := (hpairs.alike hn).children_rel

theorem eq_iff {m m' : NodeId} (hpairs : Pairs R f f') (hn : R n n') (hm : R m m') :
    n = m ↔ n' = m' := by
  constructor
  · rintro rfl
    exact hpairs.unique.2 hn hm
  · rintro rfl
    exact hpairs.unique.1 hn hm

theorem beq_eq {m m' : NodeId} (hpairs : Pairs R f f') (hn : R n n') (hm : R m m') :
    (n == m) = (n' == m') := by
  rw [Bool.eq_iff_iff, beq_iff_eq, beq_iff_eq]
  exact hpairs.eq_iff hn hm

theorem eq_some_iff {r r' : Option NodeId} (hpairs : Pairs R f f') (hr : Option.Rel R r r')
    (hn : R n n') : r = some n ↔ r' = some n' := by
  cases hr with
  | none => simp
  | some hr => simpa using hpairs.eq_iff hr hn

theorem beq_some_eq {r r' : Option NodeId} (hpairs : Pairs R f f') (hr : Option.Rel R r r')
    (hn : R n n') : (r == some n) = (r' == some n') := by
  rw [Bool.eq_iff_iff, beq_iff_eq, beq_iff_eq]
  exact hpairs.eq_some_iff hr hn

theorem isLeaf_eq (hpairs : Pairs R f f') (hn : R n n') : f.isLeaf n = f'.isLeaf n' := by
  rw [isLeaf, isLeaf, Bool.eq_iff_iff, List.isEmpty_iff_length_eq_zero,
    List.isEmpty_iff_length_eq_zero, (hpairs.children_rel hn).length_eq]

/-- The first forest may change where nothing corresponds. -/
theorem congr_left (hpairs : Pairs R f f')
    (hsize : f.size ≤ g.size) (hkept : ∀ a b, R a b → g.node a = f.node a) : Pairs R g f' where
  unique := hpairs.unique
  lt_left hab := Nat.lt_of_lt_of_le (hpairs.lt_left hab) hsize
  lt_right := hpairs.lt_right
  alike hab := by
    rw [hkept _ _ hab]
    exact hpairs.alike hab

end Pairs

/-- From a pairing of two forests, edits of them lead to one of the edited forests. -/
structure Leads (R : Pairing) (f f' : Forest) (R₁ : Pairing) (g g' : Forest) : Prop where
  pairs : Pairs R₁ g g'
  le : ∀ a b, R a b → R₁ a b
  size_le_left : f.size ≤ g.size
  size_le_right : f'.size ≤ g'.size
  fresh : ∀ a b, R₁ a b → R a b ∨ f.size ≤ a ∧ f'.size ≤ b
  kept_left : ∀ a, a < f.size → (∀ b, ¬R a b) → g.node a = f.node a
  kept_right : ∀ b, b < f'.size → (∀ a, ¬R a b) → g'.node b = f'.node b

theorem Pairs.leads (hpairs : Pairs R f f') : Leads R f f' R f f' where
  pairs := hpairs
  le _ _ hn := hn
  size_le_left := Nat.le_refl _
  size_le_right := Nat.le_refl _
  fresh _ _ hn := Or.inl hn
  kept_left _ _ _ := rfl
  kept_right _ _ _ := rfl

/-- Nodes that are new in the first forest make no pairs. -/
theorem Pairs.leads_left (hpairs : Pairs R f f') (hsize : f.size ≤ g.size)
    (hkept : ∀ n, n < f.size → g.node n = f.node n) : Leads R f f' R g f' where
  pairs := hpairs.congr_left hsize fun a _ hab => hkept a (hpairs.lt_left hab)
  le _ _ hn := hn
  size_le_left := hsize
  size_le_right := Nat.le_refl _
  fresh _ _ hn := Or.inl hn
  kept_left a ha _ := hkept a ha
  kept_right _ _ _ := rfl

theorem Leads.trans (h₁ : Leads R f f' R₁ g g') (h₂ : Leads R₁ g g' R₂ h h') :
    Leads R f f' R₂ h h' where
  pairs := h₂.pairs
  le a b hn := h₂.le a b (h₁.le a b hn)
  size_le_left := Nat.le_trans h₁.size_le_left h₂.size_le_left
  size_le_right := Nat.le_trans h₁.size_le_right h₂.size_le_right
  fresh a b hn := by
    rcases h₂.fresh a b hn with hn | ⟨ha, hb⟩
    · exact h₁.fresh a b hn
    · exact Or.inr ⟨Nat.le_trans h₁.size_le_left ha, Nat.le_trans h₁.size_le_right hb⟩
  kept_left a ha halone := by
    rw [h₂.kept_left a (Nat.lt_of_lt_of_le ha h₁.size_le_left), h₁.kept_left a ha halone]
    intro b hn
    rcases h₁.fresh a b hn with hn | ⟨hnew, _⟩
    · exact halone b hn
    · exact absurd ha (Nat.not_lt_of_le hnew)
  kept_right b hb halone := by
    rw [h₂.kept_right b (Nat.lt_of_lt_of_le hb h₁.size_le_right), h₁.kept_right b hb halone]
    intro a hn
    rcases h₁.fresh a b hn with hn | ⟨_, hnew⟩
    · exact halone a hn
    · exact absurd hb (Nat.not_lt_of_le hnew)

/-! ## Changes of one node -/

/-- The same change of corresponding nodes. -/
theorem Pairs.adjust (hpairs : Pairs R f f') (hn : R n n') {change change' : Node → Node}
    (hchange : (change (f.node n)).Alike R (change' (f'.node n'))) :
    Leads R f f' R (f.adjust n change) (f'.adjust n' change') where
  pairs := {
    unique := hpairs.unique
    lt_left := fun ha => (size_adjust f n change).symm ▸ hpairs.lt_left ha
    lt_right := fun ha => (size_adjust f' n' change').symm ▸ hpairs.lt_right ha
    alike := by
      intro a b ha
      rw [node_adjust (hpairs.lt_left hn), node_adjust (hpairs.lt_right hn)]
      by_cases han : a = n
      · rw [if_pos han, if_pos ((hpairs.eq_iff ha hn).mp han)]
        exact hchange
      · rw [if_neg han, if_neg fun hbn => han ((hpairs.eq_iff ha hn).mpr hbn)]
        exact hpairs.alike ha }
  le _ _ hn := hn
  size_le_left := Nat.le_of_eq (size_adjust f n change).symm
  size_le_right := Nat.le_of_eq (size_adjust f' n' change').symm
  fresh _ _ hn := Or.inl hn
  kept_left a _ halone := by
    rw [node_adjust (hpairs.lt_left hn), if_neg]
    rintro rfl
    exact halone _ hn
  kept_right b _ halone := by
    rw [node_adjust (hpairs.lt_right hn), if_neg]
    rintro rfl
    exact halone _ hn

theorem Pairs.setLabel (hpairs : Pairs R f f') (hn : R n n') (label : String) :
    Leads R f f' R (f.setLabel n label) (f'.setLabel n' label) :=
  hpairs.adjust hn ⟨rfl, hpairs.parent_rel hn, hpairs.children_rel hn⟩

theorem Pairs.setParent {p p' : Option NodeId} (hpairs : Pairs R f f') (hn : R n n')
    (hp : Option.Rel R p p') : Leads R f f' R (f.setParent n p) (f'.setParent n' p') :=
  hpairs.adjust hn ⟨hpairs.label_eq hn, hp, hpairs.children_rel hn⟩

theorem Pairs.setChildren {cs cs' : List NodeId} (hpairs : Pairs R f f') (hn : R n n')
    (hcs : List.Forall₂ R cs cs') : Leads R f f' R (f.setChildren n cs) (f'.setChildren n' cs') :=
  hpairs.adjust hn ⟨hpairs.label_eq hn, hpairs.parent_rel hn, hcs⟩

/-! ## New nodes -/

/-- The next new nodes of two forests make a pair. -/
theorem Pairs.alloc {p p' : Option NodeId} (hpairs : Pairs R f f') (hp : Option.Rel R p p')
    (label : String) : Leads R f f' (fun a b => R a b ∨ a = f.size ∧ b = f'.size)
      (f.alloc label p).2 (f'.alloc label p').2 where
  pairs := {
    unique := by
      constructor
      · rintro a b c (ha | ⟨rfl, rfl⟩) (hb | ⟨rfl, hc⟩)
        · exact hpairs.unique.1 ha hb
        · exact absurd (hpairs.lt_right ha) (hc ▸ Nat.lt_irrefl _)
        · exact absurd (hpairs.lt_right hb) (Nat.lt_irrefl _)
        · rfl
      · rintro a b c (hb | ⟨rfl, rfl⟩) (hc | ⟨ha, rfl⟩)
        · exact hpairs.unique.2 hb hc
        · exact absurd (hpairs.lt_left hb) (ha ▸ Nat.lt_irrefl _)
        · exact absurd (hpairs.lt_left hc) (Nat.lt_irrefl _)
        · rfl
    lt_left := by
      rintro a b (ha | ⟨rfl, _⟩)
      · exact (size_alloc f label p).symm ▸ Nat.lt_succ_of_lt (hpairs.lt_left ha)
      · exact (size_alloc f label p).symm ▸ Nat.lt_succ_self _
    lt_right := by
      rintro a b (ha | ⟨_, rfl⟩)
      · exact (size_alloc f' label p').symm ▸ Nat.lt_succ_of_lt (hpairs.lt_right ha)
      · exact (size_alloc f' label p').symm ▸ Nat.lt_succ_self _
    alike := by
      rintro a b (ha | ⟨rfl, rfl⟩)
      · rw [node_alloc, node_alloc, if_neg (Nat.ne_of_lt (hpairs.lt_left ha)),
          if_neg (Nat.ne_of_lt (hpairs.lt_right ha))]
        exact (hpairs.alike ha).mono fun _ _ => Or.inl
      · rw [node_alloc, node_alloc, if_pos rfl, if_pos rfl]
        exact ⟨rfl, Option.Rel.mono hp fun _ _ => Or.inl, .nil⟩ }
  le _ _ := Or.inl
  size_le_left := by simp
  size_le_right := by simp
  fresh a b hn := by
    rcases hn with hn | ⟨rfl, rfl⟩
    · exact Or.inl hn
    · exact Or.inr ⟨Nat.le_refl _, Nat.le_refl _⟩
  kept_left a ha _ := by rw [node_alloc, if_neg (Nat.ne_of_lt ha)]
  kept_right b hb _ := by rw [node_alloc, if_neg (Nat.ne_of_lt hb)]

mutual
/-- Trees planted under corresponding nodes correspond. -/
theorem Pairs.plantUnder : (t : Tree) → {R : Pairing} → {f f' : Forest} → {p p' : Option NodeId} →
    Pairs R f f' → Option.Rel R p p' →
    ∃ R₁, Leads R f f' R₁ (plantUnder p t f).2 (plantUnder p' t f').2 ∧
      R₁ (plantUnder p t f).1 (plantUnder p' t f').1
  | .node l cs, R, f, f', p, p', hpairs, hp => by
      have halloc := hpairs.alloc hp l
      obtain ⟨R₁, hall, hids⟩ := Pairs.plantAllUnder cs halloc.pairs (Or.inr ⟨rfl, rfl⟩)
      have hn : R₁ f.size f'.size := hall.le _ _ (Or.inr ⟨rfl, rfl⟩)
      refine ⟨R₁, ?_, hn⟩
      exact (halloc.trans hall).trans (hall.pairs.setChildren hn hids)
theorem Pairs.plantAllUnder : (ts : List Tree) → {R : Pairing} → {f f' : Forest} →
    {p p' : NodeId} → Pairs R f f' → R p p' →
    ∃ R₁, Leads R f f' R₁ (plantAllUnder p ts f).2 (plantAllUnder p' ts f').2 ∧
      List.Forall₂ R₁ (plantAllUnder p ts f).1 (plantAllUnder p' ts f').1
  | [], R, f, f', p, p', hpairs, _ => ⟨R, hpairs.leads, .nil⟩
  | t :: ts, R, f, f', p, p', hpairs, hp => by
      obtain ⟨R₁, hfirst, hn⟩ := Pairs.plantUnder t hpairs (.some hp)
      obtain ⟨R₂, hrest, hns⟩ := Pairs.plantAllUnder ts hfirst.pairs (hfirst.le _ _ hp)
      exact ⟨R₂, hfirst.trans hrest, .cons (hrest.le _ _ hn) hns⟩
end

theorem Pairs.plant (hpairs : Pairs R f f') (t : Tree) :
    ∃ R₁, Leads R f f' R₁ (f.plant t).2 (f'.plant t).2 ∧ R₁ (f.plant t).1 (f'.plant t).1 :=
  hpairs.plantUnder t .none

end Forest

end Treebank
