import Treebank.Proofs.Site

/-!
# Trees in the place of others

At an address of a tree another tree is put in the place of the one that is there.
-/

namespace Treebank

namespace Tree

variable {t c : Tree} {path : List Nat} {i : Nat}

/-- The tree with another one at an address; an address that leads nowhere changes nothing. -/
def replaceAt : Tree → List Nat → Tree → Tree
  | _, [], x => x
  | .node l cs, i :: path, x => .node l (cs.modify i fun c => c.replaceAt path x)

@[simp]
theorem replaceAt_nil (t x : Tree) : t.replaceAt [] x = x := by rw [replaceAt]

theorem replaceAt_cons (t : Tree) (i : Nat) (path : List Nat) (x : Tree) :
    t.replaceAt (i :: path) x = .node t.label (t.children.modify i fun c => c.replaceAt path x) := by
  cases t
  rfl

theorem get?_cons_eq_some :
    t.get? (i :: path) = some c ↔ ∃ d, t.children[i]? = some d ∧ d.get? path = some c := by
  rw [get?]
  cases t.children[i]? with
  | none => simp
  | some d => simp

theorem modify_congr {cs : List Tree} {g g' : Tree → Tree} (hc : cs[i]? = some c) (h : g c = g' c) :
    cs.modify i g = cs.modify i g' := by
  refine List.ext_getElem? fun j => ?_
  rw [List.getElem?_modify, List.getElem?_modify]
  by_cases hij : i = j
  · subst hij
    simp [hc, h]
  · simp [hij]

/-- What is put further down is put into what the first part of the address leads to. -/
theorem replaceAt_append (h : t.get? path = some c) (rest : List Nat) (x : Tree) :
    t.replaceAt (path ++ rest) x = t.replaceAt path (c.replaceAt rest x) := by
  induction path generalizing t with
  | nil =>
      cases t
      obtain rfl := Option.some.inj h
      rw [List.nil_append, replaceAt_nil]
  | cons i path ih =>
      obtain ⟨d, hd, hc⟩ := get?_cons_eq_some.mp h
      rw [List.cons_append, replaceAt_cons, replaceAt_cons]
      exact congrArg (node t.label) (modify_congr hd (ih hc))

theorem replaceAt_self (h : t.get? path = some c) : t.replaceAt path c = t := by
  induction path generalizing t with
  | nil =>
      cases t
      obtain rfl := Option.some.inj h
      exact replaceAt_nil _ _
  | cons i path ih =>
      obtain ⟨d, hd, hc⟩ := get?_cons_eq_some.mp h
      have hsame : t.children.modify i (fun c' => c'.replaceAt path c) = t.children.modify i id :=
        modify_congr hd (ih hc)
      rw [replaceAt_cons, hsame, List.modify_id]
      cases t
      rfl

/-- A tree in the place of a child stands between the children before and after it. -/
theorem replaceAt_child (h : t.children[i]? = some c) (x : Tree) : t.replaceAt [i] x =
    .node t.label (t.children.take i ++ x :: t.children.drop (i + 1)) := by
  obtain ⟨hi, _⟩ := List.getElem?_eq_some_iff.mp h
  simp only [replaceAt_cons, replaceAt_nil]
  rw [List.modify_eq_take_cons_drop hi]

end Tree

/-- The addresses in the tree of a site are those of sites further down. -/
theorem Site.In.exists_of_get? {t c : Tree} {u : Site} {path : List Nat} (hu : u.In t)
    (h : u.tree.get? path = some c) :
    ∃ v : Site, v.In t ∧ v.address = u.address ++ path ∧ v.tree = c := by
  induction path generalizing u with
  | nil =>
      obtain ⟨⟨l, cs⟩, above⟩ := u
      exact ⟨_, hu, (List.append_nil _).symm, Option.some.inj h⟩
  | cons i path ih =>
      obtain ⟨d, hd, hc⟩ := Tree.get?_cons_eq_some.mp h
      obtain ⟨v, hv, haddress, htree⟩ := ih (.child hu hd) hc
      refine ⟨v, hv, ?_, htree⟩
      rw [haddress, address_child, List.append_assoc]
      rfl

end Treebank
