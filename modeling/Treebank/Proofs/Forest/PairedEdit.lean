import Treebank.Forest.Edit
import Treebank.Proofs.Basic
import Treebank.Proofs.Forest.Pairing

/-!
# The same edits of corresponding nodes

A primitive edit of corresponding nodes has the same outcome in both forests, refusals included, and
leaves the nodes corresponding as before.
-/

namespace Treebank

variable {α β γ δ ε : Type}

/-- Both outcomes are results, of which the relation holds, or both are the same failure. -/
inductive SameOutcome (Q : α → β → Prop) : Except ε α → Except ε β → Prop where
  | ok {a : α} {b : β} : Q a b → SameOutcome Q (.ok a) (.ok b)
  | error {e : ε} : SameOutcome Q (.error e) (.error e)

theorem SameOutcome.mono {Q Q' : α → β → Prop} {x : Except ε α} {x' : Except ε β}
    (h : SameOutcome Q x x') (hQ : ∀ a b, Q a b → Q' a b) : SameOutcome Q' x x' := by
  cases h with
  | ok h => exact .ok (hQ _ _ h)
  | error => exact .error

/-! ## Corresponding lists -/

section

variable {R : Pairing} {l l' : List NodeId} {c c' : NodeId}

theorem forall₂_insertIdx (h : List.Forall₂ R l l') (hc : R c c') (i : Nat) :
    List.Forall₂ R (l.insertIdx i c) (l'.insertIdx i c') := by
  induction h generalizing i with
  | nil =>
      cases i with
      | zero => exact .cons hc .nil
      | succ i => exact .nil
  | cons hd h ih =>
      cases i with
      | zero => exact .cons hc (.cons hd h)
      | succ i => exact .cons hd (ih i)

theorem forall₂_eraseIdx (h : List.Forall₂ R l l') (i : Nat) :
    List.Forall₂ R (l.eraseIdx i) (l'.eraseIdx i) := by
  induction h generalizing i with
  | nil => exact .nil
  | cons hd h ih =>
      cases i with
      | zero => exact h
      | succ i => exact .cons hd (ih i)

theorem head?_rel (h : List.Forall₂ R l l') : Option.Rel R l.head? l'.head? := by
  cases h with
  | nil => exact .none
  | cons hd _ => exact .some hd

end

namespace Forest

variable {R : Pairing} {f f' g g' : Forest} {n n' p p' c c' : NodeId} {cs cs' : List NodeId}
  {Q : α → β → Prop} {S : γ → δ → Prop}

theorem Pairs.idxOf?_eq (h : Pairs R f f') (hcs : List.Forall₂ R cs cs') (hc : R c c') :
    cs.idxOf? c = cs'.idxOf? c' := by
  induction hcs with
  | nil => rfl
  | cons hd _ ih => rw [List.idxOf?_cons, List.idxOf?_cons, h.beq_eq hd hc, ih]

/-- The edits have the same outcome, up to what corresponds, and nodes go on corresponding. -/
def EditAgree (R : Pairing) (f f' : Forest) (x : Edit α) (x' : Edit β) (Q : α → β → Prop) : Prop :=
  Leads R f f' R (f.runEdit x).2 (f'.runEdit x').2 ∧ SameOutcome Q (f.runEdit x).1 (f'.runEdit x').1

theorem editAgree_pure {a : α} {b : β} (h : Pairs R f f') (hQ : Q a b) :
    EditAgree R f f' (pure a) (pure b) Q := ⟨h.leads, .ok hQ⟩

theorem editAgree_throw (h : Pairs R f f') (e : Error) :
    EditAgree R f f' (throw e : Edit α) (throw e : Edit β) Q := ⟨h.leads, .error⟩

theorem editAgree_throw_bind {k : α → Edit γ} {k' : β → Edit δ} (h : Pairs R f f') (e : Error) :
    EditAgree R f f' ((throw e : Edit α) >>= k) ((throw e : Edit β) >>= k') S :=
  ⟨h.leads, .error⟩

theorem editAgree_set (h : Leads R f f' R g g') :
    EditAgree R f f' (set g : Edit PUnit) (set g' : Edit PUnit) fun _ _ => True :=
  ⟨h, .ok trivial⟩

theorem editAgree_modify {m m' : Forest → Forest} (h : Leads R f f' R (m f) (m' f')) :
    EditAgree R f f' (modify m : Edit PUnit) (modify m' : Edit PUnit) fun _ _ => True :=
  ⟨h, .ok trivial⟩

theorem EditAgree.get_bind {k k' : Forest → Edit γ} {S : γ → γ → Prop}
    (h : EditAgree R f f' (k f) (k' f') S) : EditAgree R f f' (get >>= k) (get >>= k') S := h

theorem runEdit_bind (f : Forest) (x : Edit α) (k : α → Edit β) :
    f.runEdit (x >>= k) = match f.runEdit x with
      | (.ok a, g) => g.runEdit (k a)
      | (.error e, g) => (.error e, g) := by
  rw [runEdit, run_bind, runEdit]
  rcases x.run.run f with ⟨_ | _, _⟩ <;> rfl

theorem EditAgree.bind {x : Edit α} {x' : Edit β} {k : α → Edit γ} {k' : β → Edit δ}
    (hx : EditAgree R f f' x x' Q)
    (hk : ∀ g g' a b, Pairs R g g' → Q a b → EditAgree R g g' (k a) (k' b) S) :
    EditAgree R f f' (x >>= k) (x' >>= k') S := by
  obtain ⟨hleads, houtcome⟩ := hx
  rw [EditAgree, runEdit_bind, runEdit_bind]
  rcases hrun : f.runEdit x with ⟨r, g⟩
  rcases hrun' : f'.runEdit x' with ⟨r', g'⟩
  rw [hrun, hrun'] at hleads houtcome
  cases houtcome with
  | error => exact ⟨hleads, .error⟩
  | ok hQ =>
      obtain ⟨hmore, hrest⟩ := hk g g' _ _ hleads.pairs hQ
      exact ⟨hleads.trans hmore, hrest⟩

theorem EditAgree.ite {b b' : Prop} [Decidable b] [Decidable b'] {x y : Edit α} {x' y' : Edit β}
    (hb : b ↔ b') (hx : b → EditAgree R f f' x x' Q) (hy : ¬b → EditAgree R f f' y y' Q) :
    EditAgree R f f' (if b then x else y) (if b' then x' else y') Q := by
  by_cases h : b
  · rw [if_pos h, if_pos (hb.mp h)]
    exact hx h
  · rw [if_neg h, if_neg fun h' => h (hb.mpr h')]
    exact hy h

/-! ## The primitive edits -/

theorem addChild_agree (h : Pairs R f f') (hp : R p p') (hc : R c c') (slot : Option Int) :
    EditAgree R f f' (addChild p c slot) (addChild p' c' slot) fun _ _ => True := by
  have hsiblings := h.children_rel hp
  have hlength := hsiblings.length_eq
  simp only [addChild]
  refine EditAgree.get_bind ?_
  rw [← h.label_eq hp, ← h.label_eq hc, ← hlength, ← Option.Rel.isSome_eq (h.parent_rel hc)]
  refine .ite Iff.rfl (fun _ => editAgree_throw_bind h _) fun _ => ?_
  refine .ite Iff.rfl (fun _ => editAgree_throw_bind h _) fun _ => editAgree_set ?_
  have hset := h.setChildren hp
    (forall₂_insertIdx hsiblings hc (slot.getD (f.children p).length).toNat)
  exact hset.trans (hset.pairs.setParent hc (.some hp))

theorem childIndex_agree (h : Pairs R f f') (hp : R p p') (hc : R c c') :
    EditAgree R f f' (childIndex p c) (childIndex p' c') Eq := by
  simp only [childIndex]
  refine EditAgree.get_bind ?_
  rw [← h.label_eq hp, ← h.label_eq hc, ← h.idxOf?_eq (h.children_rel hp) hc]
  split
  · exact editAgree_pure h rfl
  · exact editAgree_throw h _

theorem removeChild_agree (h : Pairs R f f') (hp : R p p') (hc : R c c') :
    EditAgree R f f' (removeChild p c) (removeChild p' c') Eq := by
  simp only [removeChild]
  refine (childIndex_agree h hp hc).bind ?_
  rintro g g' i _ hpairs rfl
  refine EditAgree.bind (editAgree_modify ?_) fun _ _ _ _ hpairs _ => editAgree_pure hpairs rfl
  have hset := hpairs.setChildren hp (forall₂_eraseIdx (hpairs.children_rel hp) i)
  exact hset.trans (hset.pairs.setParent hc .none)

/-- A removed child has no parent any more, and all other nodes keep theirs. -/
theorem runEdit_childIndex (f : Forest) (p c : NodeId) :
    f.runEdit (childIndex p c) = match (f.children p).idxOf? c with
      | some i => (.ok i, f)
      | none => (.error (.notAChild (f.label c) (f.label p)), f) := by
  have hget : f.runEdit get = (.ok f, f) := rfl
  simp only [childIndex, runEdit_bind, hget]
  cases (f.children p).idxOf? c with
  | none => rfl
  | some i => rfl

theorem parent?_of_runEdit_removeChild {i : Nat} (h : f.runEdit (removeChild p c) = (.ok i, g))
    (hc : c < f.size) (m : NodeId) : g.parent? m = if m = c then none else f.parent? m := by
  rw [removeChild, runEdit_bind, runEdit_childIndex] at h
  split at h
  · rename_i i' g' hrun
    split at hrun
    · cases hrun
      have hg : g = (f.setChildren p ((f.children p).eraseIdx i')).setParent c none :=
        (congrArg Prod.snd h).symm
      rw [hg, parent?_setParent (by simpa using hc), parent?_setChildren]
    · cases hrun
  · cases h

theorem detach_agree (h : Pairs R f f') (hn : R n n') :
    EditAgree R f f' (detach n) (detach n') Eq := by
  have hparent := h.parent_rel hn
  simp only [detach]
  refine EditAgree.get_bind ?_
  cases hp : f.parent? n <;> cases hp' : f'.parent? n' <;> rw [hp, hp'] at hparent <;> cases hparent
  · exact editAgree_pure h rfl
  · rename_i hpp
    simp only [map_eq_pure_bind]
    exact (removeChild_agree h hpp hn).bind fun _ _ _ _ hpairs hi =>
      editAgree_pure hpairs (congrArg some hi)

theorem addChildren_agree (h : Pairs R f f') (hp : R p p') (slot : Nat)
    (hcs : List.Forall₂ R cs cs') :
    EditAgree R f f' (addChildren p slot cs) (addChildren p' slot cs') fun _ _ => True := by
  induction hcs generalizing f f' slot with
  | nil => exact editAgree_pure h trivial
  | cons hc _ ih =>
      exact (addChild_agree h hp hc _).bind fun _ _ _ _ hpairs _ => ih hpairs (slot + 1)

theorem replaceWith_agree (h : Pairs R f f') (hn : R n n') (hcs : List.Forall₂ R cs cs') :
    EditAgree R f f' (replaceWith n cs) (replaceWith n' cs') R := by
  have hparent := h.parent_rel hn
  simp only [replaceWith]
  refine EditAgree.get_bind ?_
  cases hp : f.parent? n <;> cases hp' : f'.parent? n' <;> rw [hp, hp'] at hparent <;> cases hparent
  · rw [← h.label_eq hn]
    exact editAgree_throw h _
  · rename_i hpp
    refine (removeChild_agree h hpp hn).bind ?_
    rintro _ _ i _ hpairs rfl
    exact (addChildren_agree hpairs hpp i hcs).bind fun _ _ _ _ hpairs _ =>
      editAgree_pure hpairs hpp

end Forest

end Treebank
