import Treebank.Proofs.Forest.Position
import Treebank.Proofs.Forest.Splice

/-!
# Putting a new tree in the slot of a node

A tree of new nodes takes the slot of a node, and some of the children of the node may have moved into
the new tree before. In the tree above, just what is at the address of the node is another one then.
-/

namespace Treebank.Forest

variable {f f' f₁ f₂ : Forest} {a b c m n p r t top : Nat} {moved l : List Nat} {path : List Nat}

/-! ## One node in the place of another -/

theorem map_eq_self_of_not_mem (h : a ∉ l) : (l.map fun c => if c = a then b else c) = l := by
  refine (List.map_congr_left fun c hc => ?_).trans (List.map_id l)
  rw [if_neg, id]
  rintro rfl
  exact h hc

/-- Where the node `b` is among children in the place of `a`, the tree of `b` is in the place of that of
`a`. -/
theorem WellFormed.tree_replaceAt (hf : f.WellFormed) (hf' : f'.WellFormed)
    (hpath : f.follow? n path = some a)
    (hsame : ∀ k, f.Covers n k → ¬f.Covers a k → f'.label k = f.label k ∧
      f'.children k = (f.children k).map fun c => if c = a then b else c) :
    f'.tree (if n = a then b else n) = (f.tree n).replaceAt path (f'.tree b) := by
  induction path generalizing n with
  | nil =>
      rw [if_pos (Option.some.inj hpath), Tree.replaceAt_nil]
  | cons i path ih =>
      obtain ⟨c, hc, hpath⟩ := Option.bind_eq_some_iff.mp hpath
      have hp := hf.mem_children.mp (List.mem_of_getElem? hc)
      have hca := hf.covers_follow? path hpath
      have hout : ¬f.Covers a n := fun hcov => (hf.grounded c).not_covers hp (hca.trans hcov)
      have hna : n ≠ a := fun hna => hout (hna ▸ .self)
      obtain ⟨hlabel, hchildren⟩ := hsame n .self hout
      have hbelow : ∀ d, f.parent? d = some n → ∀ k, f.Covers d k → f.Covers n k :=
        fun d hd k hk => .trans (.under hd .self) hk
      rw [if_neg hna, hf'.tree_eq, hf.tree_eq n, Tree.replaceAt_cons, hlabel, hchildren]
      refine congrArg (Tree.node _) (List.ext_getElem? fun j => ?_)
      simp only [Tree.children, List.getElem?_modify, List.getElem?_map]
      by_cases hij : i = j
      · subst hij
        have hplaced := ih hpath fun k hk => hsame k (hbelow c hp k hk)
        simp [hc, hplaced]
      · -- the other children stand beside the way down, and nothing below them changes
        cases hd : (f.children n)[j]? with
        | none => simp [hij]
        | some d =>
            have hpd := hf.mem_children.mp (List.mem_of_getElem? hd)
            have hdc : d ≠ c := by
              rintro rfl
              obtain ⟨hi, _⟩ := List.getElem?_eq_some_iff.mp hc
              exact hij ((List.getElem?_inj hi (hf.nodup_children n)).mp (hc.trans hd.symm))
            have hbeside : ∀ k, f.Covers d k → ¬f.Covers a k :=
              fun k => hf.not_covers_beside hp hca hpd hdc
            have hda : d ≠ a := fun hda => hbeside d .self (hda ▸ .self)
            have htree : f'.tree d = f.tree d := by
              refine (hf.same_below hf' fun k hk => ?_).2
              obtain ⟨hklabel, hkchildren⟩ := hsame k (hbelow d hpd k hk) (hbeside k hk)
              have hak : a ∉ f.children k := fun hak =>
                hbeside a (.under (hf.mem_children.mp hak) hk) .self
              exact ⟨hklabel, hkchildren.trans (map_eq_self_of_not_mem hak)⟩
            simp [hij, hda, htree]

/-- Steps that can be taken down go on to lead to the same node when children are only added after
those there are. -/
theorem Linked.follow?_mono (hf : f.Linked)
    (hinitial : ∀ k, f.Covers n k → f.children k <+: f'.children k)
    (hpath : f.follow? n path = some m) : f'.follow? n path = some m := by
  induction path generalizing n with
  | nil => exact hpath
  | cons i path ih =>
      obtain ⟨c, hc, hpath⟩ := Option.bind_eq_some_iff.mp hpath
      have hp := hf.mem_children.mp (List.mem_of_getElem? hc)
      obtain ⟨l, hl⟩ := hinitial n .self
      obtain ⟨hi, _⟩ := List.getElem?_eq_some_iff.mp hc
      rw [follow?, ← hl, List.getElem?_append_left hi, hc, Option.bind_some]
      exact ih (fun k hk => hinitial k (.trans (.under hp .self) hk)) hpath

/-! ## Further nodes -/

/-- The second forest is the first one with further nodes. One of them, `top`, is a topmost one, and the
nodes `moved` may have come to stand under others. -/
structure Extends (f f' : Forest) (top : NodeId) (moved : List NodeId) : Prop where
  wellFormed : f'.WellFormed
  label_eq : ∀ n < f.size, f'.label n = f.label n
  parent?_eq : ∀ n < f.size, n ∉ moved → f'.parent? n = f.parent? n
  children_eq : ∀ n < f.size, f'.children n = (f.children n).filter (· ∉ moved)
  top_new : f.size ≤ top ∧ top < f'.size
  parent?_top : f'.parent? top = none

theorem Adds.extends (h : Adds none [top] f f') (hf : f.WellFormed) : f.Extends f' top [] where
  wellFormed := hf.adds h
  label_eq n hn := by rw [label, label, h.node_eq n hn]
  parent?_eq n hn _ := h.parent?_old hn
  children_eq n hn := by simp [h.children_old hn]
  top_new := h.tops_new top (List.mem_singleton_self top)
  parent?_top := h.parent?_top top (List.mem_singleton_self top)

theorem Extends.transfer (h : f.Extends f₁ top []) (htransfers : f₁.Transfers f₂ moved p)
    (hp : f.size ≤ p) (hmoved : ∀ c ∈ moved, c < f.size) : f.Extends f₂ top moved where
  wellFormed := htransfers.moves.wellFormed
  label_eq n hn := (htransfers.label_eq n).trans (h.label_eq n hn)
  parent?_eq n hn hmem :=
    (htransfers.moves.parent?_of_not_mem hmem).trans (h.parent?_eq n hn List.not_mem_nil)
  children_eq n hn := by
    have hne : n ≠ p := Nat.ne_of_lt (Nat.lt_of_lt_of_le hn hp)
    rw [htransfers.children_ne n hne, h.children_eq n hn, filter_not_mem_append, List.nil_append]
  top_new := htransfers.moves.size_eq ▸ h.top_new
  parent?_top := by
    rw [htransfers.moves.parent?_of_not_mem, h.parent?_top]
    exact fun hmem => absurd (hmoved top hmem) (Nat.not_lt_of_le h.top_new.1)

/-- Above a node that has not moved, nor a node above it, there are no further nodes. -/
theorem Extends.lt_size_of_covers (h : f.Extends f' top moved) (hf : f.WellFormed)
    (hcov : f'.Covers a n) (hn : n < f.size) (hmoved : ∀ c ∈ moved, ¬f.Covers c n) : a < f.size := by
  induction hcov with
  | self => exact hn
  | @under n p hp _ ih =>
      rw [h.parent?_eq n hn fun hmem => hmoved n hmem .self] at hp
      exact ih (hf.parent_lt_size hp) fun c hc hcp => hmoved c hc (.under hp hcp)

/-! ## The slot -/

/-- The second forest is the first one with further nodes, of which `top` has taken the slot of `t`. The
nodes `moved` have left `t`; the other nodes are where they were. -/
structure Plugs (f f' : Forest) (t top : NodeId) (moved : List NodeId) : Prop where
  wellFormed : f'.WellFormed
  top_new : f.size ≤ top
  label_eq : ∀ n < f.size, f'.label n = f.label n
  parent?_top : f'.parent? top = f.parent? t
  parent?_out : f'.parent? t = none
  parent?_eq : ∀ n < f.size, n ≠ t → n ∉ moved → f'.parent? n = f.parent? n
  slot : ∀ p, f.parent? t = some p →
    f'.children p = (f.children p).map fun c => if c = t then top else c
  children_out : f'.children t = (f.children t).filter (· ∉ moved)
  children_eq : ∀ n < f.size, n ≠ t → f.parent? t ≠ some n → f'.children n = f.children n

section
variable (h : f.Extends f₁ top moved) (hf : f.WellFormed) (hlt : t < f.size)
  (hmoved : ∀ c ∈ moved, f.parent? c = some t)
include h hf hmoved

theorem Extends.children_of_ne (hn : n < f.size) (hne : n ≠ t) : f₁.children n = f.children n :=
  (h.children_eq n hn).trans (hf.filter_children_of_ne hmoved hne)

include hlt

theorem Extends.plugs_top (ht : f.parent? t = none) : f.Plugs f₁ t top moved where
  wellFormed := h.wellFormed
  top_new := h.top_new.1
  label_eq := h.label_eq
  parent?_top := h.parent?_top.trans ht.symm
  parent?_out := (h.parent?_eq t hlt fun hmem => (hf.grounded t).ne_parent (hmoved t hmem) rfl).trans ht
  parent?_eq n hn _ := h.parent?_eq n hn
  slot p hp := absurd (ht.symm.trans hp) (by simp)
  children_out := h.children_eq t hlt
  children_eq n hn hne _ := h.children_of_ne hf hmoved hn hne

theorem Extends.plugs_slot (hp : f.parent? t = some p) (hout : f₁.Moves f' [t] none)
    (hin : f'.Moves f₂ [top] (some p))
    (hgroup : f₁.Regroups f₂ p ((f₁.children p).flatMap fun c => if c = t then [top] else [c])) :
    f.Plugs f₂ t top moved := by
  have hold : ∀ n < f.size, n ∉ [top] := fun n hn hmem =>
    absurd (List.mem_singleton.mp hmem ▸ hn) (Nat.not_lt_of_le h.top_new.1)
  have htp := (hf.grounded t).ne_parent hp
  refine ⟨hin.wellFormed, h.top_new.1, fun n hn => (hgroup.label_eq n).trans (h.label_eq n hn),
    ?_, ?_, ?_, ?_, ?_, ?_⟩
  · rw [hin.parent?_of_mem (List.mem_singleton_self top), hp]
  · rw [hin.parent?_of_not_mem (hold t hlt), hout.parent?_of_mem (List.mem_singleton_self t)]
  · intro n hn hnt hmem
    rw [hin.parent?_of_not_mem (hold n hn), hout.parent?_of_not_mem (by simpa using hnt)]
    exact h.parent?_eq n hn hmem
  · intro q hq
    obtain rfl : p = q := Option.some.inj (hp.symm.trans hq)
    rw [hgroup.children_at, h.children_of_ne hf hmoved (hf.parent_lt_size hp) htp.symm,
      List.map_eq_flatMap]
    exact List.flatMap_congr fun c _ => by split <;> rfl
  · rw [hgroup.children_ne t htp, h.children_eq t hlt]
  · intro n hn hnt hnp
    rw [hgroup.children_ne n fun hn => hnp (hn ▸ hp), h.children_of_ne hf hmoved hn hnt]

end

namespace Plugs

variable (h : f.Plugs f' t top moved) (hf : f.WellFormed)
include h hf

theorem children_of_not_covers (hlt : n < f.size) (hn : ¬f.Covers t n) :
    f'.children n = (f.children n).map fun c => if c = t then top else c := by
  by_cases hslot : f.parent? t = some n
  · exact h.slot n hslot
  · have ht : t ∉ f.children n := fun ht => hslot (hf.mem_children.mp ht)
    rw [map_eq_self_of_not_mem ht, h.children_eq n hlt (fun hnt => hn (hnt ▸ .self)) hslot]

/-- In the tree above the node, the new tree is at the address of the node. -/
theorem tree_eq (hr : r < f.size) (hpath : f.follow? r path = some t) :
    f'.tree (if r = t then top else r) = (f.tree r).replaceAt path (f'.tree top) :=
  hf.tree_replaceAt h.wellFormed hpath fun k hk hout =>
    ⟨h.label_eq k (hk.lt_size hr), h.children_of_not_covers hf (hk.lt_size hr) hout⟩

theorem carries (hlt : m < f.size) (hm : ¬f.Covers m t) : f.Carries f' m :=
  hf.carries h.wellFormed fun k hk => ⟨h.label_eq k (hk.lt_size hlt),
    h.children_eq k (hk.lt_size hlt) (fun hkt => hm (hkt ▸ hk)) fun hp => hm (.under hp hk)⟩

/-- The earlier nodes in the new tree are those that hang from the nodes moved. -/
theorem of_covers_top (hcov : f'.Covers top n) (hn : n < f.size) :
    ∃ c ∈ moved, f.Covers c n := by
  induction hcov with
  | self => exact absurd hn (Nat.not_lt_of_le h.top_new)
  | @under n p hp _ ih =>
      by_cases hmem : n ∈ moved
      · exact ⟨n, hmem, .self⟩
      · have hnt : n ≠ t := by
          rintro rfl
          rw [h.parent?_out] at hp
          cases hp
        rw [h.parent?_eq n hn hnt hmem] at hp
        obtain ⟨c, hc, hcov⟩ := ih (hf.parent_lt_size hp)
        exact ⟨c, hc, .under hp hcov⟩

end Plugs

/-! ## Adjoining -/

/-- A tree of new nodes, planted in the forest `f₁`, has taken the slot of `t` in the forest `f'`, and
the children of `t` have been put under its node `foot`. -/
structure Adjoins (f f₁ f' : Forest) (t top foot : NodeId) : Prop where
  adds : Adds none [top] f f₁
  covers_foot : f₁.Covers top foot
  plugs : f.Plugs f' t top (f.children t)
  label_eq : ∀ k, f₁.Covers top k → f'.label k = f₁.label k
  children_foot : f'.children foot = f₁.children foot ++ f.children t
  children_ne : ∀ k, f₁.Covers top k → k ≠ foot → f'.children k = f₁.children k

/-- After the transfer of the children, what is in the tree stays when that takes the slot. -/
theorem Adds.adjoins (hadds : Adds none [top] f f₁) (hf : f.WellFormed) {foot : NodeId}
    (hfoot : f₁.Covers top foot) (htransfers : f₁.Transfers f₂ (f.children t) foot)
    (hplugs : f.Plugs f' t top (f.children t))
    (hsame : ∀ k, f₂.Covers top k → f'.label k = f₂.label k ∧ f'.children k = f₂.children k) :
    f.Adjoins f₁ f' t top foot := by
  have hwf := hf.adds hadds
  have hold : ∀ c ∈ f.children t, c < f.size := fun c hc =>
    lt_size_of_parent? (hf.mem_children.mp hc)
  have hsame' : ∀ k, f₁.Covers top k → f'.label k = f₂.label k ∧ f'.children k = f₂.children k := by
    intro k hk
    apply hsame
    rw [htransfers.moves.covers_iff fun c hc => hadds.not_covers hf (hold c hc) hk]
    exact hk
  refine ⟨hadds, hfoot, hplugs, ?_, ?_, ?_⟩
  · intro k hk
    rw [(hsame' k hk).1, htransfers.label_eq]
  · rw [(hsame' foot hfoot).2, htransfers.children_at]
  · intro k hk hne
    rw [(hsame' k hk).2, htransfers.children_ne k hne, filter_not_mem_eq_self]
    intro d hd hmem
    exact hadds.not_covers hf (hold d hmem) (.under (hwf.mem_children.mp hd) hk) .self

namespace Adjoins

variable {foot : NodeId} (h : f.Adjoins f₁ f' t top foot) (hf : f.WellFormed)
include h hf

theorem follow?_eq (hpath : f₁.follow? top path = some m) : f'.follow? top path = some m := by
  refine (hf.adds h.adds).linked.follow?_mono (fun k hk => ?_) hpath
  by_cases hfoot : k = foot
  · rw [hfoot, h.children_foot]
    exact List.prefix_append _ _
  · rw [h.children_ne k hk hfoot]

/-- The children that were put under the foot are those of `t`, with all below them. -/
theorem carries (hc : c ∈ f.children t) : f.Carries f' c := by
  have hp := hf.mem_children.mp hc
  exact h.plugs.carries hf (lt_size_of_parent? hp) ((hf.grounded c).not_covers hp)

/-- The tree is the one planted, with the children under the foot. -/
theorem tree_top (hpath : f₁.follow? top path = some foot) (hleaf : f₁.children foot = []) :
    f'.tree top =
      (f₁.tree top).replaceAt path (.node (f₁.label foot) ((f.children t).map f.tree)) := by
  have hwf := hf.adds h.adds
  have hfoot : f'.tree foot = .node (f₁.label foot) ((f.children t).map f.tree) := by
    rw [h.plugs.wellFormed.tree_eq, h.label_eq foot h.covers_foot, h.children_foot, hleaf,
      List.nil_append]
    exact congrArg _ (List.map_congr_left fun c hc => (h.carries hf hc).tree_eq)
  have hplaced := hwf.tree_replaceAt h.plugs.wellFormed (b := foot) hpath fun k hk hout => by
    refine ⟨h.label_eq k hk, ?_⟩
    rw [h.children_ne k hk fun hkf => hout (hkf ▸ .self)]
    exact ((List.map_congr_left fun c _ => by split <;> simp [*]).trans (List.map_id _)).symm
  rw [← hfoot, ← hplaced]
  split
  · rename_i heq
    rw [heq]
  · rfl

end Adjoins

end Treebank.Forest
