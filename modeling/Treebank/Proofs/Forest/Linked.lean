import Treebank.Forest.Edit
import Treebank.Proofs.Basic
import Treebank.Proofs.Forest.Edit
import Treebank.Proofs.Forest.Planting

/-!
# Edits keep a forest linked

A node may be put under itself, and the way up from it then does not end. But every primitive edit
leaves the forest linked all the same, also when it is refused half-way, and it changes nothing for the
topmost nodes but for those that it puts in.
-/

namespace Treebank.Forest

variable {f f' f'' : Forest} {c n m p : Nat} {cs ds : List Nat}

/-- The second forest is linked and has the nodes of the first one. Nodes that are topmost in the first
one are so in the second one, apart from the given ones. -/
structure Shifts (cs : List Nat) (f f' : Forest) : Prop where
  linked : f'.Linked
  size_eq : f'.size = f.size
  parent?_top : ∀ m ∉ cs, f.parent? m = none → f'.parent? m = none

theorem Linked.shifts (h : f.Linked) (cs : List Nat) : Shifts cs f f := ⟨h, rfl, fun _ _ h => h⟩

theorem Shifts.mono (h : Shifts cs f f') (hsub : cs ⊆ ds) : Shifts ds f f' :=
  ⟨h.linked, h.size_eq, fun m hm => h.parent?_top m fun hmem => hm (hsub hmem)⟩

theorem Shifts.trans (h : Shifts cs f f') (h' : Shifts cs f' f'') : Shifts cs f f'' where
  linked := h'.linked
  size_eq := h'.size_eq.trans h.size_eq
  parent?_top m hm htop := h'.parent?_top m hm (h.parent?_top m hm htop)

/-! ## Single edits -/

theorem concludes_childIndex (f : Forest) (p c : Nat) : Concludes f (childIndex p c)
    (fun i f' => f = f' ∧ (f.children p).idxOf? c = some i) fun _ f' => f' = f := by
  simp only [childIndex]
  refine concludes_get_bind ?_
  split
  · rename_i i hi
    exact concludes_pure ⟨rfl, hi⟩
  · exact concludes_throw rfl

theorem concludes_removeChild (f : Forest) (p c : Nat) : Concludes f (removeChild p c)
    (fun _ f' => c ∈ f.children p ∧ f' = f.unlink p c) fun _ f' => f' = f := by
  simp only [removeChild]
  refine (concludes_childIndex f p c).bind ?_
  rintro i _ ⟨rfl, hi⟩
  have hmem : c ∈ f.children p := by
    by_contra hne
    rw [List.idxOf?_eq_none_iff.mpr hne] at hi
    cases hi
  refine Concludes.bind (Q := fun _ f' => f' = _) (concludes_modify rfl) ?_
  rintro _ _ rfl
  refine concludes_pure ⟨hmem, ?_⟩
  rw [unlink, List.erase_eq_eraseIdx, hi]

theorem concludes_addChild (f : Forest) (p c : Nat) (slot : Option Int) :
    Concludes f (addChild p c slot)
    (fun _ f' => f.parent? c = none ∧ ∃ i ≤ (f.children p).length, f' = f.link p c i)
    fun _ f' => f' = f := by
  simp only [addChild]
  refine concludes_get_bind ?_
  split
  · exact concludes_throw_bind rfl
  · rename_i htop
    split
    · exact concludes_throw_bind rfl
    · rename_i hslot
      simp only [Bool.or_eq_true, decide_eq_true_eq, not_or, Int.not_lt] at hslot
      refine concludes_set ⟨by simpa using htop, (slot.getD (f.children p).length).toNat, ?_, rfl⟩
      omega

theorem concludes_detach (f : Forest) (n : Nat) : Concludes f (detach n)
    (fun _ f' => f.parent? n = none ∧ f' = f ∨
      ∃ p, f.parent? n = some p ∧ n ∈ f.children p ∧ f' = f.unlink p n) fun _ f' => f' = f := by
  simp only [detach]
  refine concludes_get_bind ?_
  cases hp : f.parent? n with
  | none => exact concludes_pure (Or.inl ⟨rfl, rfl⟩)
  | some p =>
      simp only [map_eq_pure_bind]
      refine (concludes_removeChild f p n).bind fun _ f' h => concludes_pure (Or.inr ⟨p, rfl, h⟩)

/-- A child that is taken out is a topmost node. -/
theorem Linked.shifts_unlink (h : f.Linked) (hc : c ∈ f.children p) :
    Shifts [] f (f.unlink p c) ∧ (f.unlink p c).parent? c = none := by
  have hp := h.mem_children.mp hc
  have hparent := parent?_unlink (lt_size_of_parent? hp) p
  refine ⟨⟨h.unlink hp, size_unlink f p c, fun m _ htop => (hparent m).trans ?_⟩,
    (hparent c).trans (if_pos rfl)⟩
  rw [htop]
  exact ite_self none

theorem Linked.concludes_removeChild (h : f.Linked) (p c : Nat) : Concludes f (removeChild p c)
    (fun _ f' => Shifts [] f f' ∧ f'.parent? c = none) fun _ f' => Shifts [] f f' := by
  refine (Forest.concludes_removeChild f p c).mono ?_ ?_
  · rintro _ _ ⟨hc, rfl⟩
    exact h.shifts_unlink hc
  · rintro _ _ rfl
    exact h.shifts []

theorem Linked.concludes_addChild (h : f.Linked) (hc : c < f.size) (hp : p < f.size)
    (slot : Option Int) : Concludes f (addChild p c slot) (fun _ f' => Shifts [c] f f')
      fun _ f' => Shifts [c] f f' := by
  refine (Forest.concludes_addChild f p c slot).mono ?_ ?_
  · rintro _ _ ⟨htop, i, hi, rfl⟩
    refine ⟨h.link hc hp htop hi, size_link .., fun m hm hparent => ?_⟩
    refine (parent?_link hc p _ m).trans ?_
    rw [if_neg (by simpa using hm)]
    exact hparent
  · rintro _ _ rfl
    exact h.shifts [c]

theorem Linked.concludes_detach (h : f.Linked) (n : Nat) : Concludes f (detach n)
    (fun _ f' => Shifts [] f f' ∧ f'.parent? n = none) fun _ f' => Shifts [] f f' := by
  refine (Forest.concludes_detach f n).mono ?_ ?_
  · rintro _ _ (⟨hp, rfl⟩ | ⟨p, _, hc, rfl⟩)
    · exact ⟨h.shifts [], hp⟩
    · exact h.shifts_unlink hc
  · rintro _ _ rfl
    exact h.shifts []

/-! ## Several nodes at once -/

theorem Linked.concludes_addChildren (h : f.Linked) (hp : p < f.size) (cs : List Nat)
    (hcs : ∀ c ∈ cs, c < f.size) (slot : Nat) : Concludes f (addChildren p slot cs)
      (fun _ f' => Shifts cs f f') fun _ f' => Shifts cs f f' := by
  induction cs generalizing f slot with
  | nil => exact concludes_pure (h.shifts [])
  | cons c cs ih =>
      obtain ⟨hc, hcs⟩ := List.forall_mem_cons.mp hcs
      have hfirst : ∀ {f'}, Shifts [c] f f' → Shifts (c :: cs) f f' := fun h => h.mono (by simp)
      simp only [addChildren]
      refine ((h.concludes_addChild hc hp _).imp_error fun _ _ => hfirst).bind
        fun _ f' hput => ?_
      have hrest : ∀ {f''}, Shifts cs f' f'' → Shifts (c :: cs) f f'' :=
        fun h => (hfirst hput).trans (h.mono (List.subset_cons_self c cs))
      exact (ih hput.linked (hput.size_eq ▸ hp) (fun d hd => hput.size_eq ▸ hcs d hd) _).mono
        (fun _ _ => hrest) fun _ _ => hrest

theorem Linked.concludes_replaceWith (h : f.Linked) (n : Nat) (others : List Nat)
    (hothers : ∀ c ∈ others, c < f.size) : Concludes f (replaceWith n others)
      (fun _ f' => Shifts others f f') fun _ f' => Shifts others f f' := by
  simp only [replaceWith]
  refine concludes_get_bind ?_
  cases hp : f.parent? n with
  | none => exact concludes_throw (h.shifts others)
  | some p =>
      have hout : ∀ {f'}, Shifts [] f f' → Shifts others f f' :=
        fun h => h.mono (List.nil_subset others)
      refine ((h.concludes_removeChild p n).mono (fun _ _ h => h.1) fun _ _ => hout).bind
        fun i f' hremoved => ?_
      have hp' : p < f'.size := hremoved.size_eq ▸ h.parent_lt_size hp
      have hput := hremoved.linked.concludes_addChildren hp' others
        (fun c hc => hremoved.size_eq ▸ hothers c hc) i
      exact (hput.mono (fun _ _ => (hout hremoved).trans) fun _ _ => (hout hremoved).trans).bind
        fun _ _ hin => concludes_pure hin

end Treebank.Forest
